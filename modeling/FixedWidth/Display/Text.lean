import FixedWidth.Fault
import FixedWidth.Text.Blank

/-!
# Text fields on display

Text in a field of fixed width. Writing cuts a text that is too long at its end
and fills one that is too short with spaces, on the side that is asked for.
Reading takes a text of exactly the field's width and drops the spaces on that
side; white space of other kinds is content.
-/

namespace FixedWidth.Display

/-- The side of a field on which spaces fill it. -/
inductive Pad where
  | left
  | right
deriving DecidableEq, Repr

/-- The side of a name. -/
def Pad.ofName? (name : String) : Option Pad :=
  if name = "right" then some .right else if name = "left" then some .left else none

/-- The side of a name, or the fault that it is none. -/
def Pad.ofName (name : String) : Except Fault Pad :=
  match ofName? name with
  | some pad => .ok pad
  | none => .error (.padSide name)

/-- A text brought to a width. -/
def fit (pad : Pad) (width : Nat) (cs : List Char) : List Char :=
  match pad with
  | .right => (cs.take width).rightpad width ' '
  | .left => (cs.take width).leftpad width ' '

/-- A text without the spaces that fill it. -/
def unfit (pad : Pad) (cs : List Char) : List Char :=
  match pad with
  | .right => Text.dropWhileEnd (· == ' ') cs
  | .left => cs.dropWhile (· == ' ')

/-- **A text in a field**; nothing is shown as no text. -/
def formatText (text : Option (List Char)) (length : Int) (pad : Pad) : Except Fault (List Char) :=
  if length < 0 then .error .negativeLength
  else .ok (fit pad length.toNat (text.getD []))

/-- **The text that a field shows.** -/
def parseText (cs : List Char) (length : Int) (pad : Pad) : Except Fault (List Char) :=
  if (cs.length : Int) ≠ length then .error (.width length cs.length)
  else .ok (unfit pad cs)

@[simp] theorem length_fit (pad : Pad) (width : Nat) (cs : List Char) :
    (fit pad width cs).length = width := by
  have short : (cs.take width).length ≤ width := List.length_take_le width cs
  cases pad <;>
    simp only [fit, List.rightpad, List.leftpad, List.length_append, List.length_replicate] <;>
    omega

end FixedWidth.Display
