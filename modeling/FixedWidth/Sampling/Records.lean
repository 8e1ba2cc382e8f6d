import FixedWidth.Record.Codec
import FixedWidth.Sampling.Source

/-!
# Random fields and records

Random content for the fields of a layout. A number has any magnitude that its
digits allow, and either sign where the field has one; a text has any length up
to the field's and consists of capitals. Records are drawn slot after slot, in
the order of the layout, and written as they are drawn.
-/

namespace FixedWidth.Sampling

open Copybook (Field)

variable {σ : Type}

/-- A number for a field: its magnitude first, then its sign if it has one. -/
def number (source : Source σ) (g : Geometry) (s : σ) : Decimal × σ :=
  let (n, s) := source.below (Nat.pow 10 g.totalDigits) (Nat.pow_pos (by decide)) s
  if g.isSigned then
    let (negative, s) := source.coin s
    (.make n negative g.scale, s)
  else (.make n false g.scale, s)

/-- So many numbers for a field. -/
def numbers (source : Source σ) (g : Geometry) : (count : Nat) → σ → List Decimal
  | 0, _ => []
  | count + 1, s =>
    let (d, s) := number source g s
    d :: numbers source g count s

/-- Content for a field. -/
def content (source : Source σ) (g : Geometry) (s : σ) : Content × σ :=
  match g with
  | .alphanumeric n =>
    let (size, s) := source.upTo n s
    let (cs, s) := source.capitals size s
    (.text cs, s)
  | g =>
    let (d, s) := number source g s
    (.number d, s)

/-- Contents for slots, by name. -/
def contents (source : Source σ) : List (String × Field) → List (String × Content) → σ →
    Except Fault (List (String × Content) × σ)
  | [], drawn, s => .ok (drawn, s)
  | (name, f) :: slots, drawn, s => do
    let (c, s) := content source (← f.geometry) s
    contents source slots (Entries.insert name c drawn) s

/-- Random records: their bytes, and what went into each. -/
structure Dataset where
  bytes : List UInt8
  records : List (List (String × Content))

/-- **So many random records.** -/
def records (source : Source σ) (fields : List Field) (codec : Codec) :
    (count : Nat) → σ → Except Fault Dataset
  | 0, _ => .ok ⟨[], []⟩
  | count + 1, s => do
    let (drawn, s) ← contents source (Record.slots fields) [] s
    let bytes ← Record.encode fields (drawn.map fun (name, c) => (name, c.toValue)) codec
    let rest ← records source fields codec count s
    return ⟨bytes ++ rest.bytes, drawn :: rest.records⟩

end FixedWidth.Sampling
