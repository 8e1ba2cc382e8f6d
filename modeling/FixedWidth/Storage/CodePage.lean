import FixedWidth.Storage.Codec

/-!
# Code pages

The codecs that come with the program: three pages of the EBCDIC family, which
differ in a few places only, ASCII, Latin-1 and UTF-8, each under the names it is
known by. Nothing but the program itself depends on which they are; all else is
written for any codec.

In every page but UTF-8 a character is one byte, and the page is a table read
both ways. A text that a page has no bytes for is reported by its first run of
such characters.
-/

namespace FixedWidth

/-- A way in which bytes stand for characters. -/
inductive CodePage where
  | cp037
  | cp500
  | cp1140
  | ascii
  | latin1
  | utf8
deriving DecidableEq, Repr

namespace CodePage

/-! ### Names -/

/-- The page of records unless another is named. -/
def defaultName : String := "cp037"

/-- A name without the difference between spellings: in lower case, and with one
underscore for each run of other marks, none at the end. -/
def normalize : List Char → List Char
  | [] => []
  | c :: cs =>
    if c.isAlphanum || c == '.' then c.toLower :: normalize cs
    else
      match normalize cs with
      | [] => []
      | '_' :: rest => '_' :: rest
      | rest => '_' :: rest

/-- A page's own name and its other names. Only in the other names a point can
stand where the name has an underscore. -/
structure Naming where
  page : CodePage
  own : String
  others : List String

/-- The names of the pages. -/
def namings : List Naming := [
  ⟨cp037, "cp037", ["037", "csibm037", "ebcdic_cp_ca", "ebcdic_cp_nl", "ebcdic_cp_us",
    "ebcdic_cp_wt", "ibm037", "ibm039"]⟩,
  ⟨cp500, "cp500", ["500", "csibm500", "ebcdic_cp_be", "ebcdic_cp_ch", "ibm500"]⟩,
  ⟨cp1140, "cp1140", ["1140", "ibm1140"]⟩,
  ⟨ascii, "ascii", ["646", "ansi_x3.4_1968", "ansi_x3_4_1968", "ansi_x3.4_1986", "cp367",
    "csascii", "ibm367", "iso646_us", "iso_646.irv_1991", "iso_ir_6", "us", "us_ascii"]⟩,
  ⟨latin1, "latin_1", ["8859", "cp819", "csisolatin1", "ibm819", "iso8859", "iso8859_1",
    "iso_8859_1", "iso_8859_1_1987", "iso_ir_100", "l1", "latin", "latin1"]⟩,
  ⟨utf8, "utf_8", ["u8", "utf", "utf8", "utf8_ucs2", "utf8_ucs4", "cp65001"]⟩]

/-- A name with an underscore for each point. -/
def withoutPoints (key : List Char) : List Char :=
  key.map fun c => if c == '.' then '_' else c

/-- Whether a spelling is one of a page's names. -/
def Naming.admits (naming : Naming) (key : List Char) : Bool :=
  naming.own.toList == key ||
    naming.others.any fun name => name.toList == key || name.toList == withoutPoints key

/-- The page of a name, marks before it not counting. -/
def ofName? (name : String) : Option CodePage :=
  let key := normalize (name.toList.dropWhile fun c => !(c.isAlphanum || c == '.'))
  (namings.find? fun naming => naming.admits key).map (·.page)

/-! ### Tables -/

/-- The code point of each byte in the first of the EBCDIC pages. -/
def cp037Table : List Nat := [
  0x00, 0x01, 0x02, 0x03, 0x9C, 0x09, 0x86, 0x7F, 0x97, 0x8D, 0x8E, 0x0B, 0x0C, 0x0D, 0x0E, 0x0F,
  0x10, 0x11, 0x12, 0x13, 0x9D, 0x85, 0x08, 0x87, 0x18, 0x19, 0x92, 0x8F, 0x1C, 0x1D, 0x1E, 0x1F,
  0x80, 0x81, 0x82, 0x83, 0x84, 0x0A, 0x17, 0x1B, 0x88, 0x89, 0x8A, 0x8B, 0x8C, 0x05, 0x06, 0x07,
  0x90, 0x91, 0x16, 0x93, 0x94, 0x95, 0x96, 0x04, 0x98, 0x99, 0x9A, 0x9B, 0x14, 0x15, 0x9E, 0x1A,
  0x20, 0xA0, 0xE2, 0xE4, 0xE0, 0xE1, 0xE3, 0xE5, 0xE7, 0xF1, 0xA2, 0x2E, 0x3C, 0x28, 0x2B, 0x7C,
  0x26, 0xE9, 0xEA, 0xEB, 0xE8, 0xED, 0xEE, 0xEF, 0xEC, 0xDF, 0x21, 0x24, 0x2A, 0x29, 0x3B, 0xAC,
  0x2D, 0x2F, 0xC2, 0xC4, 0xC0, 0xC1, 0xC3, 0xC5, 0xC7, 0xD1, 0xA6, 0x2C, 0x25, 0x5F, 0x3E, 0x3F,
  0xF8, 0xC9, 0xCA, 0xCB, 0xC8, 0xCD, 0xCE, 0xCF, 0xCC, 0x60, 0x3A, 0x23, 0x40, 0x27, 0x3D, 0x22,
  0xD8, 0x61, 0x62, 0x63, 0x64, 0x65, 0x66, 0x67, 0x68, 0x69, 0xAB, 0xBB, 0xF0, 0xFD, 0xFE, 0xB1,
  0xB0, 0x6A, 0x6B, 0x6C, 0x6D, 0x6E, 0x6F, 0x70, 0x71, 0x72, 0xAA, 0xBA, 0xE6, 0xB8, 0xC6, 0xA4,
  0xB5, 0x7E, 0x73, 0x74, 0x75, 0x76, 0x77, 0x78, 0x79, 0x7A, 0xA1, 0xBF, 0xD0, 0xDD, 0xDE, 0xAE,
  0x5E, 0xA3, 0xA5, 0xB7, 0xA9, 0xA7, 0xB6, 0xBC, 0xBD, 0xBE, 0x5B, 0x5D, 0xAF, 0xA8, 0xB4, 0xD7,
  0x7B, 0x41, 0x42, 0x43, 0x44, 0x45, 0x46, 0x47, 0x48, 0x49, 0xAD, 0xF4, 0xF6, 0xF2, 0xF3, 0xF5,
  0x7D, 0x4A, 0x4B, 0x4C, 0x4D, 0x4E, 0x4F, 0x50, 0x51, 0x52, 0xB9, 0xFB, 0xFC, 0xF9, 0xFA, 0xFF,
  0x5C, 0xF7, 0x53, 0x54, 0x55, 0x56, 0x57, 0x58, 0x59, 0x5A, 0xB2, 0xD4, 0xD6, 0xD2, 0xD3, 0xD5,
  0x30, 0x31, 0x32, 0x33, 0x34, 0x35, 0x36, 0x37, 0x38, 0x39, 0xB3, 0xDB, 0xDC, 0xD9, 0xDA, 0x9F]

/-- The bytes at which a page of the family differs from the first. -/
def exceptions : CodePage → List (Nat × Nat)
  | cp500 => [(0x4A, 0x5B), (0x4F, 0x21), (0x5A, 0x5D), (0x5F, 0x5E), (0xB0, 0xA2), (0xBA, 0xAC),
      (0xBB, 0x7C)]
  | cp1140 => [(0x9F, 0x20AC)]
  | _ => []

/-- The code point of a byte in a page of the EBCDIC family. -/
def ebcdicPoint (page : CodePage) (b : UInt8) : Nat :=
  match page.exceptions.lookup b.toNat with
  | some n => n
  | none => cp037Table.getD b.toNat 0

/-- The bytes in order. -/
def allBytes : List UInt8 :=
  (List.range 256).map UInt8.ofNat

/-- The character of a byte, in a page where a character is one byte. -/
def charOf? (page : CodePage) (b : UInt8) : Option Char :=
  match page with
  | ascii => if b < 0x80 then some (Char.ofNat b.toNat) else none
  | latin1 => some (Char.ofNat b.toNat)
  | utf8 => none
  | page => some (Char.ofNat (page.ebcdicPoint b))

/-- The byte of a character, in a page where a character is one byte. -/
def byteOf? (page : CodePage) (c : Char) : Option UInt8 :=
  match page with
  | ascii => if c.toNat < 0x80 then some (UInt8.ofNat c.toNat) else none
  | latin1 => if c.toNat < 0x100 then some (UInt8.ofNat c.toNat) else none
  | utf8 => none
  | page => allBytes.find? fun b => page.ebcdicPoint b = c.toNat

/-! ### Faults -/

/-- The name by which a page's faults are reported. -/
def codecName : CodePage → String
  | ascii => "ascii"
  | latin1 => "latin-1"
  | utf8 => "utf-8"
  | _ => "charmap"

/-- What a page's faults say of a character or byte outside it. -/
def outsideText : CodePage → String
  | ascii => "ordinal not in range(128)"
  | latin1 => "ordinal not in range(256)"
  | utf8 => "surrogates not allowed"
  | _ => "character maps to <undefined>"

/-- The wording of a flaw in UTF-8. -/
def utf8ReasonText : Text.Utf8Reason → String
  | .invalidStart => "invalid start byte"
  | .invalidContinuation => "invalid continuation byte"
  | .endOfData => "unexpected end of data"

/-- Whether a page has bytes for a character. The one page that has them for
every character has none for half of a pair. -/
def holds (page : CodePage) (c : Char) : Bool :=
  match page with
  | utf8 => (Text.half? c).isNone
  | page => (page.byteOf? c).isSome

/-- The first run of characters that have no bytes: its first character, and the
positions from which and up to which it goes. -/
def firstRunOutside? (page : CodePage) (cs : List Char) : Option (Char × Nat × Nat) :=
  match cs.dropWhile page.holds with
  | [] => none
  | c :: rest =>
    let first := (cs.takeWhile page.holds).length
    some (c, first, first + 1 + (rest.takeWhile fun c => !page.holds c).length)

/-! ### Reading and writing -/

/-- The characters of bytes in a page where a character is one byte, the first
byte having the given position. -/
def decodeFrom (page : CodePage) (position : Nat) : List UInt8 → Except Fault (List Char)
  | [] => .ok []
  | b :: bs =>
    match page.charOf? b with
    | some c => (page.decodeFrom (position + 1) bs).map (c :: ·)
    | none =>
      .error (.undecodable page.codecName b position (position + 1) page.outsideText)

/-- **The characters of bytes.** -/
def decode (page : CodePage) (bytes : List UInt8) : Except Fault (List Char) :=
  match page with
  | utf8 =>
    match Text.utf8Decode 0 bytes with
    | .ok cs => .ok cs
    | .error flaw =>
      .error (.undecodable page.codecName (bytes.getD flaw.first 0) flaw.first flaw.stop
        (utf8ReasonText flaw.reason))
  | page => page.decodeFrom 0 bytes

/-- **The bytes of characters.** -/
def encode (page : CodePage) (cs : List Char) : Except Fault (List UInt8) :=
  match page.firstRunOutside? cs with
  | some (c, first, stop) => .error (.unencodable page.codecName c first stop page.outsideText)
  | none =>
    match page with
    | utf8 => .ok (Text.utf8Encode cs)
    | page => .ok (cs.filterMap page.byteOf?)

/-! ### As codecs -/

theorem isFieldFault_of_decodeFrom {page : CodePage} {position : Nat} {bytes : List UInt8}
    {fault : Fault} (h : page.decodeFrom position bytes = .error fault) :
    fault.isFieldFault = false := by
  induction bytes generalizing position with
  | nil => cases h
  | cons b bytes ih =>
    rw [decodeFrom] at h
    split at h
    · cases hrest : page.decodeFrom (position + 1) bytes with
      | ok cs => rw [hrest] at h; cases h
      | error fault' =>
        rw [hrest] at h
        cases h
        exact ih hrest
    · cases h
      rfl

theorem isFieldFault_of_decode {page : CodePage} {bytes : List UInt8} {fault : Fault}
    (h : page.decode bytes = .error fault) : fault.isFieldFault = false := by
  rw [decode.eq_def] at h
  split at h
  · split at h <;> cases h
    rfl
  · exact isFieldFault_of_decodeFrom h

/-- The page as a codec. -/
def codec (page : CodePage) : Codec where
  decode := page.decode
  encode := page.encode
  decode_fault := isFieldFault_of_decode

/-- What stands for a page that is not known. No bytes are no characters in
whatever page. -/
def unknown (name : String) : Codec where
  decode bytes := if bytes.isEmpty then .ok [] else .error (.codePageName name)
  encode _ := .error (.codePageName name)
  decode_fault h := by
    split at h <;> cases h
    rfl

/-- What stands for a page whose name is not even looked at. -/
def unnamable : Codec where
  decode _ := .error .nullInName
  encode _ := .error .nullInName
  decode_fault h := by
    cases h
    rfl

/-- The codec of a name, which has to be free of null characters. -/
def codecOfName (name : String) : Codec :=
  if name.toList.contains '\x00' then unnamable
  else
    match ofName? name with
    | some page => page.codec
    | none => unknown name

end CodePage

end FixedWidth
