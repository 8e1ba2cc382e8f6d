import FixedWidth.Fault

/-!
# Changing the scale of a decimal

`roundTo` gives the decimal of a chosen scale nearest to a given one, by one of
the three roundings, and always has an answer. `rescale` is the same under a
limit on the digits of the result, as arithmetic of bounded precision has it:
where the result would have more digits, there is a fault.

Growing multiplies by a power of ten, and nothing but the digits of the result
stands in its way. Shrinking is left to a decimal arithmetic (`quantize`) with
limits of its own. They are on the number that is handed over, on the place that
it is rounded to, on the precision and on the exponent of the result; all but
that on the precision are told of as if the digits were too many.

The limits on the number are met by numbers that are short to write, such as one
of a single digit and two quintillion places. They also bound the numbers that
have a hash, since a number is hashed as the one of any exponent that it is
(`toScientific`).
-/

namespace FixedWidth

/-! ### The limits of the arithmetic -/

/-- The greatest precision there is, and the most digits that a number has. -/
def maxPrecision : Int := 999999999999999999

/-- The finest scale of a number. -/
def finestOperand : Nat := 1999999999999999997

/-- The greatest scale that can be handed over at all. -/
def greatestNative : Nat := 9223372036854775808

/-- The greatest exponent of a result; the least one is as far below zero, before
the digits of the precision are counted. -/
def greatestExponent : Nat := 999999

/-- The finest place that can be named as it is; finer ones fall back to it. -/
def finestScale : Nat := 1000026

/-- The finest place that can be named at all. -/
def lastScale : Nat := 2000054

/-- The limit on a result's digits, and how digits are lost. -/
structure Context where
  precision : Int := 31
  rounding : Rounding := .halfUp
deriving DecidableEq, Repr

/-- Whether there is an arithmetic of the context's precision. -/
def Context.check (context : Context) : Except Fault Unit :=
  if context.precision < -greatestNative || greatestNative ≤ context.precision then
    .error .nativeInteger
  else if context.precision < 1 || maxPrecision < context.precision then .error .precisionRange
  else .ok ()

/-- A result, unless it has more digits than the context allows. -/
def Context.allow (context : Context) (d : Decimal) : Except Fault Decimal :=
  if context.precision < d.digitCount then .error (.overflow d.digitCount context.precision)
  else .ok d

/-- The place that is named by a scale. -/
def placeOfScale (scale : Nat) : Except Fault Nat :=
  if lastScale < scale then .error .exponentRange else .ok (min scale finestScale)

namespace Decimal

/-- **The number as one of any exponent**, where the arithmetic has such a one. -/
def toScientific (d : Decimal) : Except Fault Scientific :=
  if greatestNative < d.scale then .error .nativeInteger
  else if maxPrecision < d.digitCount then .error .operandDigits
  else if finestOperand < d.scale then .error .exponentRange
  else .ok (.ofDecimal d)

/-- The hash of a number, by a hash for numbers of any exponent. -/
def hashBy {α : Type} (hash : Scientific → α) (d : Decimal) : Except Fault α :=
  d.toScientific.map hash

/-! ### Another scale -/

/-- **The decimal of a chosen scale nearest to a given one.** Growing is exact. -/
def roundTo (d : Decimal) (scale : Nat) (mode : Rounding) : Decimal :=
  if d.scale ≤ scale then make (d.unscaled * Nat.pow 10 (scale - d.scale)) d.negative scale
  else make (mode.dropDigits d.unscaled (d.scale - scale)) d.negative scale

theorem roundTo_of_gain {d : Decimal} {scale : Nat} (h : d.scale ≤ scale) (mode : Rounding) :
    d.roundTo scale mode =
      make (d.unscaled * Nat.pow 10 (scale - d.scale)) d.negative scale :=
  if_pos h

theorem roundTo_of_loss {d : Decimal} {scale : Nat} (h : scale < d.scale) (mode : Rounding) :
    d.roundTo scale mode =
      make (mode.quotient d.unscaled (Nat.pow 10 (d.scale - scale))) d.negative scale := by
  rw [roundTo, if_neg (Nat.not_le.mpr h), Rounding.dropDigits_eq]

@[simp] theorem scale_roundTo (d : Decimal) (scale : Nat) (mode : Rounding) :
    (d.roundTo scale mode).scale = scale := by
  unfold roundTo
  split <;> rfl

/-- A decimal rounded to its own scale is unchanged. -/
@[simp] theorem roundTo_self (d : Decimal) (mode : Rounding) : d.roundTo d.scale mode = d := by
  simp [roundTo]

/-- Whether a result lies within a context, by its digits and by its exponent. -/
def isWithin (d : Decimal) (context : Context) : Bool :=
  d.digitCount ≤ context.precision && d.digitCount ≤ greatestExponent + 1 + d.scale

/-- A number rounded to a place, within a context. -/
def roundWithin (d : Decimal) (place : Nat) (context : Context) : Except Fault Decimal :=
  let result := d.roundTo place context.rounding
  if greatestExponent + context.precision - 1 < place || !result.isWithin context then
    .error .exponentRange
  else .ok result

/-- **A number rounded by the arithmetic** to the place that a scale names. -/
def quantize (d : Decimal) (scale : Nat) (context : Context) : Except Fault Decimal := do
  let _ ← d.toScientific
  let place ← placeOfScale scale
  context.check
  d.roundWithin place context

/-- Shrinks a decimal to a scale below its own. What the arithmetic has no
operation for is told of as too many digits. -/
def shrink (d : Decimal) (scale : Nat) (context : Context) : Except Fault Decimal :=
  (d.quantize scale context).mapError fun fault =>
    if fault.isInvalidOperation then .overflow d.digitCount context.precision else fault

/-- **The same number at another scale**, rounded where places are lost, with a
fault where it has more digits than the context allows. -/
def rescale (d : Decimal) (scale : Int) (context : Context) : Except Fault Decimal :=
  if scale < 0 then .error .negativeScale
  else do
    let result ←
      if (d.scale : Int) ≤ scale then .ok (d.roundTo scale.toNat context.rounding)
      else d.shrink scale.toNat context
    context.allow result

/-- The number at another scale, where one is asked for. -/
def rescale? (d : Decimal) (scale : Option Int) (context : Context) : Except Fault Decimal :=
  match scale with
  | none => .ok d
  | some scale => d.rescale scale context

/-- A precision that no rounding to `places` places can exceed. -/
def amplePrecision (d : Decimal) (places : Int) : Int :=
  d.digitCount + places + 1

/-- The number written with a chosen count of places. -/
def toFixed (d : Decimal) (places : Int) (mode : Rounding) : Except Fault (List Char) :=
  (d.rescale places ⟨d.amplePrecision places, mode⟩).map text

end Decimal

end FixedWidth
