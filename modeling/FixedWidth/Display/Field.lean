import FixedWidth.Display.Digits
import FixedWidth.Display.Signed
import FixedWidth.Display.Text
import FixedWidth.Picture.Geometry

/-!
# Fields on display

A field of any geometry on display: text, unsigned digits, or a number with sign
and point, each by the rule for its kind. An unsigned field without places takes
a text for its digits; a number handed over as such is not cut to fit there, and
a field without a sign shows no number below zero.
-/

namespace FixedWidth

/-- What a field holds. -/
inductive Content where
  | text (cs : List Char)
  | number (d : Decimal)
deriving DecidableEq, Repr

/-- A field's content as a value. -/
def Content.toValue : Content → Value
  | text cs => .text (String.ofList cs)
  | number d => .decimal d

namespace Display

/-- What a text field shows of a value; of nothing, nothing. -/
def shownText : Value → Option (List Char)
  | .null => none
  | v => some v.toText.toList

/-- A value in a numeric field that is no plain field of digits. -/
def formatNumeric (v : Value) (signed : Bool) (integerDigits fractionDigits : Nat)
    (mode : Rounding) : Except Fault (List Char) := do
  match v with
  | .null => throw .nothingToShow
  | v =>
    let d ← Decimal.ofValue v
    if d.negative && !signed then throw .negativeToShow
    formatSigned (.decimal d) integerDigits fractionDigits mode

/-- **A value in a field of the given geometry.** -/
def formatField (v : Value) (g : Geometry) (mode : Rounding) : Except Fault (List Char) :=
  match g with
  | .alphanumeric n => formatText (shownText v) n .right
  | .numeric signed i f =>
    if !signed && f == 0 then
      match v with
      | .null => formatDigits v (i + f : Nat) false
      | .text _ => formatDigits v (i + f : Nat) false
      | v => formatNumeric v signed i f mode
    else formatNumeric v signed i f mode

/-- **The content that a field of the given geometry shows.** -/
def parseField (cs : List Char) (g : Geometry) : Except Fault Content :=
  match g with
  | .alphanumeric n => (parseText cs n .right).map .text
  | .numeric signed i f =>
    if !signed && f == 0 then (parseDigits cs (i + f : Nat) 0).map .number
    else do
      let d ← parseSigned cs i f
      if d.negative && !signed then throw .negativeInUnsigned
      return .number d

end Display

end FixedWidth
