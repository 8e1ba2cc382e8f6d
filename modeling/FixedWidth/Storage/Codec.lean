import FixedWidth.Fault

/-!
# Codecs

How bytes stand for characters, whatever the rule is. Fields and records are
read and written by a codec that is handed to them, and ask nothing of it but
that bytes without characters are no fault of a field: a number that cannot be
read is one thing, and bytes that are no text are another.

How many bytes a character takes and whether what is written can be read again is
a matter of the codec (`FixedWidth.Codec.IsSingleByte`, `FixedWidth.Codec.Undoes`).
-/

namespace FixedWidth

/-- **A way in which bytes stand for characters.** -/
structure Codec where
  /-- The characters of bytes. -/
  decode : List UInt8 → Except Fault (List Char)
  /-- The bytes of characters. -/
  encode : List Char → Except Fault (List UInt8)
  /-- Bytes without characters are no fault of a field. -/
  decode_fault : ∀ {bytes : List UInt8} {fault : Fault},
    decode bytes = .error fault → fault.isFieldFault = false

namespace Codec

/-- **A character takes one byte.** -/
def IsSingleByte (codec : Codec) : Prop :=
  ∀ {cs : List Char} {bytes : List UInt8}, codec.encode cs = .ok bytes → bytes.length = cs.length

/-- **A text is read back from the bytes that are written for it**, if there are any. -/
def Undoes (codec : Codec) (cs : List Char) : Prop :=
  ∀ {bytes : List UInt8}, codec.encode cs = .ok bytes → codec.decode bytes = .ok cs

/-- **A codec in which a character takes one byte, and in which every text that
can be written is read back.** -/
structure Faithful (codec : Codec) : Prop where
  singleByte : codec.IsSingleByte
  undoes : ∀ cs, codec.Undoes cs

end Codec

end FixedWidth
