import FixedWidth.Copybook.Layout
import FixedWidth.Display.Field
import FixedWidth.Entries
import FixedWidth.Storage.Binary
import FixedWidth.Storage.Zoned

/-!
# Records

The bytes of a record, cut and joined by its layout. A field that occurs several
times has as many *slots*, numbered from zero; a slot takes the bytes of its
field, and the slots stand in the order of the layout without gaps.

Reading wants at least as many bytes as the layout has and ignores what comes
after them. Writing takes named values and gives nothing to a slot whose name is
missing, which a text slot shows as spaces and a numeric one refuses.
-/

namespace FixedWidth.Record

open Copybook (Field)

/-- The slots of fields in order, each with its name. -/
def slots (fields : List Field) : List (String × Field) :=
  fields.flatMap fun f =>
    (List.range f.occurs).map fun i => (f.name ++ Copybook.copySuffix f.occurs i, f)

/-- **The bytes of a record.** -/
def length : List Field → Except Fault Nat
  | [] => .ok 0
  | f :: fields => do
    let width ← f.storageLength
    return width * f.occurs + (← length fields)

/-! ### Reading -/

/-- The number in a slot's bytes. -/
def decodeNumber (f : Field) (signed : Bool) (scale : Nat) (raw : List UInt8) (codec : Codec) :
    Except Fault Decimal :=
  match Usage.ofName f.usage with
  | .packed => Packed.decode raw scale
  | .binary => .ok (.ofInt (Binary.decode raw signed) scale)
  | _ => Zoned.decodeBytes raw scale codec signed

/-- The content of a slot's bytes. -/
def decodeSlot (f : Field) (raw : List UInt8) (codec : Codec) : Except Fault Content := do
  match ← f.geometry with
  | .alphanumeric _ =>
    return .text (Text.dropWhileEnd (· == ' ') (← codec.decode raw))
  | .numeric signed _ scale => return .number (← decodeNumber f signed scale raw codec)

/-- The contents of slots, from the first byte of the first one on. -/
def decodeSlots (codec : Codec) : List (String × Field) → List UInt8 →
    Except Fault (List (String × Content))
  | [], _ => .ok []
  | (name, f) :: slots, bytes => do
    let width ← f.storageLength
    let content ← decodeSlot f (bytes.take width) codec
    return (name, content) :: (← decodeSlots codec slots (bytes.drop width))

/-- **The contents of a record's slots**, by name; of two slots of one name the
later one counts. -/
def decode (fields : List Field) (bytes : List UInt8) (codec : Codec) :
    Except Fault (List (String × Content)) := do
  let expected ← length fields
  if bytes.length < expected then throw (.shortRecord bytes.length expected)
  return Entries.ofList (← decodeSlots codec (slots fields) bytes)

/-! ### Writing -/

/-- The bytes of a number in a binary slot. -/
def encodeBinary (f : Field) (signed : Bool) (totalDigits : Nat) (d : Decimal) :
    Except Fault (List UInt8) := do
  if d.negative && !signed then throw (.negativeForBinary f.name)
  if totalDigits < d.digitCount then throw (.overflow d.digitCount totalDigits)
  Binary.write (← Usage.binaryLength totalDigits) signed d.signed

/-- The bytes of a number in a slot of digits. -/
def encodeNumber (f : Field) (signed : Bool) (totalDigits : Nat) (d : Decimal) (codec : Codec) :
    Except Fault (List UInt8) :=
  match Usage.ofName f.usage with
  | .packed => Packed.encode d totalDigits !signed
  | .binary => encodeBinary f signed totalDigits d
  | _ => Zoned.encodeBytes d totalDigits codec signed

/-- The bytes of a value in a slot. -/
def encodeSlot (f : Field) (v : Value) (codec : Codec) : Except Fault (List UInt8) := do
  match ← f.geometry with
  | .alphanumeric n =>
    codec.encode (← Display.formatText (Display.shownText v) n .right)
  | .numeric signed i scale =>
    match v with
    | .null => throw (.missingNumber f.name)
    | v => encodeNumber f signed (i + scale) (← Decimal.coerce v (some scale) {}) codec

/-- The bytes of slots in a row. -/
def encodeSlots (codec : Codec) (values : List (String × Value)) :
    List (String × Field) → Except Fault (List UInt8)
  | [] => .ok []
  | (name, f) :: slots => do
    let bytes ← encodeSlot f (Value.entry values name) codec
    return bytes ++ (← encodeSlots codec values slots)

/-- **The bytes of a record with the given values.** -/
def encode (fields : List Field) (values : List (String × Value)) (codec : Codec) :
    Except Fault (List UInt8) :=
  encodeSlots codec values (slots fields)

/-! ### Records in a row -/

/-- So many pieces of a list one after the other, each of the given length. -/
def pieces {α : Type} (length : Nat) : (count : Nat) → List α → List (List α)
  | 0, _ => []
  | count + 1, xs => xs.take length :: pieces length count (xs.drop length)

/-- **The records of a dataset** of fixed record length; a short rest is dropped. -/
def split (bytes : List UInt8) (length : Int) : Except Fault (List (List UInt8)) :=
  if length ≤ 0 then .error .recordLength
  else .ok (pieces length.toNat (bytes.length / length.toNat) bytes)

end FixedWidth.Record
