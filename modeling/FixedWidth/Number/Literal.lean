import FixedWidth.Number.Rescale
import FixedWidth.Text.Integer

/-!
# Decimals from texts and values

The literals of decimal values, and the ways in which a value of another kind
becomes a decimal. A literal is an optional sign, ASCII digits, and optionally a
point and more digits, with at least one digit in all; white space may stand
around it. Its places give the scale, so that reading loses nothing.

A double becomes the decimal it is written as, with the fewest digits that mean
it; a decimal of any exponent is taken exactly.
-/

namespace FixedWidth.Decimal

/-- A literal taken apart. -/
structure LiteralParts where
  negative : Bool
  whole : List Char
  fraction : List Char
deriving DecidableEq, Repr

/-- The digits of a literal after its sign. -/
def digitParts? (negative : Bool) (cs : List Char) : Option LiteralParts :=
  match cs.dropWhile Char.isDigit with
  | [] => some ⟨negative, cs, []⟩
  | '.' :: fraction =>
    if fraction.all Char.isDigit then some ⟨negative, cs.takeWhile Char.isDigit, fraction⟩
    else none
  | _ => none

/-- The parts of a literal without white space around it. -/
def literalParts? : List Char → Option LiteralParts
  | '-' :: cs => digitParts? true cs
  | '+' :: cs => digitParts? false cs
  | cs => digitParts? false cs

/-- The number that the parts of a literal spell. -/
def LiteralParts.toDecimal (parts : LiteralParts) : Decimal :=
  make (Nat.ofDigitChars 10 (parts.whole ++ parts.fraction) 0) parts.negative
    parts.fraction.length

/-- **The number that a literal spells.** -/
def ofText (text : String) : Except Fault Decimal :=
  match literalParts? (Text.trim text.toList) with
  | none => .error (.literal (.text text) .malformed)
  | some parts =>
    if parts.whole.isEmpty && parts.fraction.isEmpty then
      .error (.literal (.text text) .noDigits)
    else .ok parts.toDecimal

/-- The number that a value spells, which has to be a text. -/
def ofTextValue : Value → Except Fault Decimal
  | .text s => ofText s
  | v => .error (.literal v .notText)

/-- The decimal that a number of another kind is. -/
def ofNumber (v : Value) : Except Fault Decimal :=
  let finite (x : Option Scientific) : Except Fault Decimal :=
    match x.bind Scientific.toDecimal? with
    | some d => .ok d
    | none => .error (.literal v .notFinite)
  match v with
  | .truth _ => .error (.literal v .truthValue)
  | .integer z => .ok (ofInt z 0)
  | .double x => finite x.toScientific?
  | .scientific x => finite (some x)
  | _ => .error (.literal v (.unsupportedKind v.kindName))

/-- The decimal that a value of any kind is. -/
def ofValue (v : Value) : Except Fault Decimal :=
  match v with
  | .decimal d => .ok d
  | .text s => ofText s
  | v => ofNumber v

/-- Reads a literal, at another scale where one is asked for. -/
def parse (v : Value) (scale : Option Int) (context : Context) : Except Fault Decimal := do
  (← ofTextValue v).rescale? scale context

/-- A number of another kind, at another scale where one is asked for. -/
def fromNumber (v : Value) (scale : Option Int) (context : Context) : Except Fault Decimal := do
  (← ofNumber v).rescale? scale context

/-- A value of any kind, at another scale where one is asked for. -/
def coerce (v : Value) (scale : Option Int) (context : Context) : Except Fault Decimal := do
  (← ofValue v).rescale? scale context

/-- A number from its parts, of which the magnitude and the scale have to be
checked. -/
def ofParts (unscaled : Int) (negative : Bool) (scale : Int) : Except Fault Decimal :=
  if unscaled < 0 then .error .negativeMagnitude
  else if scale < 0 then .error .negativeScale
  else .ok (make unscaled.toNat negative scale.toNat)

/-- A number from the text of its magnitude; no text at all means zero. -/
def ofDigits (digits : String) (negative : Bool) (scale : Int) : Except Fault Decimal :=
  if digits.isEmpty then ofParts 0 false scale
  else
    match Text.readInteger? digits.toList with
    | some n => ofParts n negative scale
    | none => .error (.notInteger 10 digits)

end FixedWidth.Decimal
