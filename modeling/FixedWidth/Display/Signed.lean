import FixedWidth.Number.Literal

/-!
# Signed numbers on display

A number as it is read by people: a minus sign where it is negative, a fixed
count of digits, and a point and a fixed count of places where there are any.
Writing rounds to the places and refuses a number whose part before the point
has too many digits, also where rounding is what makes it too long. Reading
takes exactly what writing produces, and a minus sign before zeros.

The reader's counts may be below zero; a place is then counted from the end of
the text. Such a field has no written form.
-/

namespace FixedWidth.Display

/-- The text of a number that fits and has the field's places. -/
def signedText (d : Decimal) (integerDigits fractionDigits : Nat) : List Char :=
  let ds := d.digits (integerDigits + fractionDigits)
  let magnitude :=
    ds.take integerDigits ++
      if fractionDigits = 0 then [] else '.' :: ds.drop integerDigits
  if d.negative then '-' :: magnitude else magnitude

/-- The number of a value in a field, after the counts have been checked. -/
def formatNumber (d : Decimal) (integerDigits fractionDigits : Int) (mode : Rounding) :
    Except Fault (List Char) := do
  let rounded ← d.rescale fractionDigits ⟨d.amplePrecision fractionDigits, mode⟩
  if integerDigits < rounded.integerDigits then
    throw (.digitOverflow rounded.integerDigits integerDigits)
  return signedText rounded integerDigits.toNat fractionDigits.toNat

/-- **A number in a field.** -/
def formatSigned (v : Value) (integerDigits fractionDigits : Int) (mode : Rounding) :
    Except Fault (List Char) := do
  if integerDigits < 0 || fractionDigits < 0 then throw .negativeDigitCount
  formatNumber (← Decimal.ofValue v) integerDigits fractionDigits mode

/-! ### Places counted from either end -/

/-- The position that a count from the beginning, or below zero from the end,
names in a text of the given length. -/
def place (length : Nat) (i : Int) : Nat :=
  if i < 0 then length - (-i).toNat else i.toNat

/-- The character at a place. -/
def charAt? (cs : List Char) (i : Int) : Option Char :=
  if i < 0 && cs.length < (-i).toNat then none else cs[place cs.length i]?

/-- The text before a place. -/
def before (cs : List Char) (i : Int) : List Char :=
  cs.take (place cs.length i)

/-- The text from a place on. -/
def onward (cs : List Char) (i : Int) : List Char :=
  cs.drop (place cs.length i)

/-! ### Reading -/

/-- The digits of a text that has to hold nothing else; its first character has
the given position. -/
def digitsOnly (position : Int) (cs : List Char) : Except Fault (List Char) :=
  match Text.firstNonDigit? 0 cs with
  | some (c, k) => .error (.digit c (position + k))
  | none => .ok cs

/-- The digits of a text with a fixed count of them before the point and after
it; its first character has the given position. -/
def readDigits (position : Nat) (cs : List Char) (integerDigits fractionDigits : Int) :
    Except Fault (List Char) := do
  let whole ← digitsOnly position (before cs integerDigits)
  if fractionDigits = 0 then return whole
  match charAt? cs integerDigits with
  | none => throw .outsideText
  | some point =>
    if point ≠ '.' then throw (.digit point (position + integerDigits))
    let fraction ← digitsOnly (position + integerDigits + 1) (onward cs (integerDigits + 1))
    return whole ++ fraction

/-- The characters of a field without its sign. -/
def signedWidth (integerDigits fractionDigits : Int) : Int :=
  integerDigits + fractionDigits + if fractionDigits = 0 then 0 else 1

/-- **The number that a field shows.** -/
def parseSigned (cs : List Char) (integerDigits fractionDigits : Int) : Except Fault Decimal := do
  let negative := cs.head? == some '-'
  let sign : Nat := if negative then 1 else 0
  let body := cs.drop sign
  let width := signedWidth integerDigits fractionDigits
  if (body.length : Int) ≠ width then throw (.width (width + sign) cs.length)
  let ds ← readDigits sign body integerDigits fractionDigits
  return .make (Nat.ofDigitChars 10 ds 0) negative fractionDigits.toNat

end FixedWidth.Display
