import FixedWidth.Display.Signed
import FixedWidth.Storage.Packed
import FixedWidth.Storage.Zoned

/-!
# Runs of calculation steps

An accumulator and a sequence of steps on it: exact arithmetic, a change of
scale, and passages through a stored or displayed form and back. A step that
fails leaves the accumulator as it was, and the run goes on.
-/

namespace FixedWidth

/-- One step of a calculation. -/
inductive Step where
  | add (operand : Decimal)
  | sub (operand : Decimal)
  | mul (operand : Decimal)
  | neg
  | abs
  | rescale (scale : Int) (context : Context)
  /-- Into a packed field of so many digits and out of it. -/
  | packed (totalDigits : Int) (unsigned : Bool)
  /-- Into a zoned field of so many digits and out of it. -/
  | zoned (totalDigits : Int) (signed : Bool)
  /-- Into a displayed number and out of it. -/
  | displayed (integerDigits fractionDigits : Int) (mode : Rounding)
deriving DecidableEq, Repr

namespace Step

/-- The accumulator after a step, or why the step fails. -/
def apply (d : Decimal) : Step → Except Fault Decimal
  | add operand => .ok (d + operand)
  | sub operand => .ok (d - operand)
  | mul operand => .ok (d * operand)
  | neg => .ok (-d)
  | abs => .ok d.abs
  | rescale scale context => d.rescale scale context
  | packed totalDigits unsigned => do
    Packed.decode (← Packed.encode d totalDigits unsigned) d.scale
  | zoned totalDigits signed => do
    Zoned.decode (← Zoned.encode d totalDigits signed) d.scale signed
  | displayed integerDigits fractionDigits mode => do
    Display.parseSigned (← Display.formatSigned (.decimal d) integerDigits fractionDigits mode)
      integerDigits fractionDigits

/-- The accumulator after a step, unchanged where the step fails. -/
def advance (d : Decimal) (step : Step) : Decimal :=
  match step.apply d with
  | .ok next => next
  | .error _ => d

end Step

/-- The accumulator after a sequence of steps. -/
def runSteps (start : Decimal) (steps : List Step) : Decimal :=
  steps.foldl Step.advance start

end FixedWidth
