import FixedWidth.Fault
import FixedWidth.Storage.Packed
import FixedWidth.Text.Case

/-!
# Usage

How a field's content is stored, by the name that a copybook gives it. A field
without a usage is stored as it is shown. Case does not count.
-/

namespace FixedWidth

/-- How a field is stored. -/
inductive Usage where
  /-- One character to a digit. -/
  | display
  /-- Two digits to a byte. -/
  | packed
  /-- A binary integer. -/
  | binary
  /-- A name that stands for no usage. -/
  | unsupported (name : String)
deriving DecidableEq, Repr

namespace Usage

/-- The names of packed storage. -/
def packedNames : List String := ["COMP-3", "PACKED-DECIMAL"]

/-- The names of binary storage. -/
def binaryNames : List String := ["COMP", "COMP-4", "COMP-5", "BINARY"]

/-- The usage of a name; no name, or an empty one, is the usage for display. -/
def ofName : Option String → Usage
  | none => display
  | some name =>
    let key := Text.upper name.toList
    if key.isEmpty || key = "DISPLAY".toList then display
    else if packedNames.any fun n => n.toList = key then packed
    else if binaryNames.any fun n => n.toList = key then binary
    else unsupported name

/-- The bytes of a binary field of so many digits: two, four or eight. -/
def binaryLength (totalDigits : Nat) : Except Fault Nat :=
  if totalDigits ≤ 4 then .ok 2
  else if totalDigits ≤ 9 then .ok 4
  else if totalDigits ≤ 18 then .ok 8
  else .error (.binaryTooLong totalDigits)

/-- The bytes of a numeric field of so many digits. -/
def numericLength (usage : Usage) (totalDigits : Nat) : Except Fault Nat :=
  match usage with
  | display => .ok totalDigits
  | packed => .ok (Packed.length totalDigits).toNat
  | binary => binaryLength totalDigits
  | unsupported name => .error (.unsupportedUsage name)

end Usage

end FixedWidth
