import FixedWidth.Picture.Clause
import FixedWidth.Screen.Definition
import FixedWidth.Screen.Rule

/-!
# Checks of single fields

What a field's definition asks of its content: that a field which has to be
filled is, that a numeric one holds digits only, that the content is not too
long, and that it matches the picture. The first check that fails is the field's
failure. A protected field is not checked, and a blank one only for having to be
filled.
-/

namespace FixedWidth.Screen

/-- What a missing value says. -/
def requiredMessage : String := "This field is required"

/-- What a value with other characters than digits says. -/
def numericMessage : String := "Only numeric characters are allowed"

/-- What a value that is too long says. -/
def lengthMessage (length : Int) : String :=
  s!"Maximum {length} characters allowed"

/-- What a value that does not match a picture says. -/
def pictureMessage (picture : String) : String :=
  "Invalid format. Expected: " ++ picture

/-- How far the checks before the picture get. -/
inductive Stage where
  /-- They decide, with a message where one of them fails. -/
  | settled (failed : Option String)
  /-- They pass, and the picture has to decide about the value. -/
  | atPicture (v : Value)

/-- A value of which only what is filled in is left. -/
def filled (v : Value) : Value :=
  v.orElse (.text "")

@[simp] theorem filled_null : filled .null = .text "" := rfl

@[simp] theorem filled_text (s : String) : filled (.text s) = .text s := by
  by_cases h : s.isEmpty = true
  · rw [String.isEmpty_iff.mp h]
    rfl
  · simp [filled, Value.orElse, Value.isTrue, h]

/-- Whether a value holds digits only, which is asked of texts. -/
def isNumericText : Value → Except Fault Bool
  | .text s => .ok (!s.isEmpty && s.toList.all Char.isDigit)
  | _ => .error .notText

/-- How long a value is, which is asked of what has parts. -/
def sizeOf : Value → Except Fault Nat
  | .text s => .ok s.toList.length
  | .list items => .ok items.length
  | .record entries => .ok entries.length
  | .table entries => .ok entries.length
  | _ => .error .wrongKind

/-- Whether a value is longer than a field takes. -/
def isTooLong (length : Option Int) (v : Value) : Except Fault Bool :=
  match length with
  | none => .ok false
  | some n => (sizeOf v).map fun size => n < size

namespace Definition

/-- The checks of a filled value before the picture. -/
def checkFilled (d : Definition) (v : Value) : Except Fault Stage := do
  if d.behaviour.numeric then
    if !(← isNumericText v) then return .settled (some numericMessage)
  if ← isTooLong d.length v then return .settled (some (lengthMessage (d.length.getD 0)))
  match d.picture with
  | .null => return .settled none
  | _ => return .atPicture v

/-- The checks of a value before the picture. -/
def checkBefore (d : Definition) (v : Value) : Except Fault Stage :=
  if d.behaviour.isProtected then .ok (.settled none)
  else if isBlank v then .ok (.settled (if d.mustFill then some requiredMessage else none))
  else d.checkFilled (filled v)

/-- The check of a value against a picture. -/
def checkPicture (picture v : Value) : Except Fault (Option String) :=
  match picture with
  | .text p => do
    let clause ← Picture.compile p false
    match v with
    | .text s => return if clause.accepts s.toList then none else some (pictureMessage p)
    | _ => throw .wrongKind
  | _ => .error .wrongKind

/-- **The failure of a value in a field**, if it fails. -/
def validate (d : Definition) (v : Value) : Except Fault (Option Failure) := do
  let failed ←
    match ← d.checkBefore v with
    | .settled failed => pure failed
    | .atPicture v => checkPicture d.picture v
  return failed.map fun message => ⟨.text d.name, message, none⟩

/-- The failures of values in fields, in the order of the fields. -/
def validateAll (values : List (String × Value)) : List Definition → Except Fault (List Failure)
  | [] => .ok []
  | d :: ds => do
    let failed ← d.validate (Value.entry values d.name)
    return failed.toList ++ (← validateAll values ds)

end Definition

end FixedWidth.Screen
