import FixedWidth.Number.Literal
import FixedWidth.Storage.Zoned

/-!
# Unsigned digit fields on display

Digits in a field of fixed width, without sign or point. Writing keeps the ASCII
digits of whatever is shown, fills up with zeros on the left, and lets go of the
leading digits that do not fit, unless it is asked to be strict about them.
Reading takes digits only.
-/

namespace FixedWidth.Display

/-- The ASCII digits in what a value shows, in order. -/
def digitsOf : Value → List Char
  | .null => []
  | v => v.toText.toList.filter Char.isDigit

/-- The digits that do not fit into a width. -/
def droppedDigits (ds : List Char) (width : Nat) : List Char :=
  ds.take (ds.length - width)

/-- The last digits of a text, filled up with zeros to a width. -/
def lastDigits (ds : List Char) (width : Nat) : List Char :=
  (ds.drop (ds.length - width)).leftpad width '0'

/-- **The digits of a value in a field.** -/
def formatDigits (v : Value) (length : Int) (strict : Bool) : Except Fault (List Char) :=
  let ds := digitsOf v
  if length < 0 then .error .negativeLength
  else if strict && length < ds.length then .error (.digitOverflow ds.length length)
  else .ok (lastDigits ds length.toNat)

/-- **The number that a field of digits shows**, `scale` of them after the
point. -/
def parseDigits (cs : List Char) (length : Int) (scale : Int) : Except Fault Decimal :=
  if (cs.length : Int) ≠ length then .error (.width length cs.length)
  else Zoned.decode cs scale false

/-- What is let go and what is kept are the digits there were, where there are
too many. -/
theorem droppedDigits_append_lastDigits {ds : List Char} {width : Nat} (h : width ≤ ds.length) :
    droppedDigits ds width ++ lastDigits ds width = ds := by
  have : width - (ds.length - (ds.length - width)) = 0 := by omega
  simp [droppedDigits, lastDigits, List.leftpad, this]

@[simp] theorem length_lastDigits (ds : List Char) (width : Nat) :
    (lastDigits ds width).length = width := by
  simp [lastDigits, List.leftpad]
  omega

end FixedWidth.Display
