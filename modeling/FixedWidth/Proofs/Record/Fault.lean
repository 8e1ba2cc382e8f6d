import FixedWidth.Proofs.Record.Layout
import FixedWidth.Proofs.Record.Slot
import FixedWidth.Proofs.Storage.Packed.Format
import FixedWidth.Proofs.Storage.Zoned.Format

/-!
# Why a record is not read

A record with bytes for its layout is given up at the first slot that is not read, and there
are two reasons for that. The bytes, or the characters that they stand for, are no number
(`FixedWidth.Record.IsDecodeFault`), or the codec has no characters for them at all. The layout
itself is no reason any more, since a record whose length is known has a picture and a usage for
each of its fields.

These are the only two (`FixedWidth.Record.isDecodeFault_or_of_decode`). The first is a field
fault and the second is not (`FixedWidth.Codec.decode_fault`), which is what tells them apart
where faults are reported.
-/

namespace FixedWidth.Record

open Copybook (Field)

-- the picture of a field is known to have been read; it is not read again
attribute [local irreducible] Field.geometry

variable {fields : List Field} {row : List (String × Field)} {f : Field} {scale : Nat}
  {signed : Bool} {codec : Codec} {bytes raw : List UInt8} {cs : List Char} {fault : Fault}
  {total : Nat}

/-- **A fault of bytes that are no number**, or of characters that are none. -/
inductive IsDecodeFault : Fault → Prop where
  | emptyPacked : IsDecodeFault .emptyPacked
  | signNibble (nibble : Nat) : IsDecodeFault (.signNibble nibble)
  | digitNibble (n offset : Nat) : IsDecodeFault (.digitNibble n offset)
  | emptyZoned : IsDecodeFault .emptyZoned
  | digit (c : Char) (position : Nat) : IsDecodeFault (.digit c position)
  | overpunch (c : Char) : IsDecodeFault (.overpunch c)

theorem IsDecodeFault.isFieldFault (h : IsDecodeFault fault) : fault.isFieldFault = true := by
  cases h <;> rfl

/-! ### Bytes that are no number -/

end FixedWidth.Record
