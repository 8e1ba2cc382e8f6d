import FixedWidth.Text.Quoted

/-!
# Bytes in hexadecimal

Bytes as pairs of hexadecimal digits. Written, the digits are in lower case and
without spaces; read, they may be in either case and ASCII white space may stand
between the pairs, never inside one.
-/

namespace FixedWidth.Text

/-- The two digits of a byte. -/
def hexOfByte (b : UInt8) : List Char :=
  hexDigits 2 b.toNat

/-- The digits of bytes. -/
def hexOfBytes (bytes : List UInt8) : List Char :=
  bytes.flatMap hexOfByte

/-- The value of a hexadecimal digit. -/
def hexValue? (c : Char) : Option Nat :=
  let n := c.toNat
  if 0x30 ≤ n && n ≤ 0x39 then some (n - 0x30)
  else if 0x41 ≤ n && n ≤ 0x46 then some (n - 0x41 + 10)
  else if 0x61 ≤ n && n ≤ 0x66 then some (n - 0x61 + 10)
  else none

/-- ASCII white space. -/
def isAsciiBlank (c : Char) : Bool :=
  c == ' ' || (9 ≤ c.toNat && c.toNat ≤ 13)

/-- The bytes that pairs of digits spell, the first character having the given
position; or the position at which the text is anything else. -/
def readHexFrom (position : Nat) : List Char → Except Nat (List UInt8)
  | [] => .ok []
  | c :: cs =>
    if isAsciiBlank c then readHexFrom (position + 1) cs
    else
      match hexValue? c, cs with
      | none, _ => .error position
      | some _, [] => .error (position + 1)
      | some hi, d :: ds =>
        match hexValue? d with
        | none => .error (position + 1)
        | some lo => (readHexFrom (position + 2) ds).map (UInt8.ofNat (16 * hi + lo) :: ·)

/-- **The bytes that pairs of digits spell**, or the position at which the text
is anything else. A character beyond ASCII is found before all others. -/
def readHex (cs : List Char) : Except Nat (List UInt8) :=
  match cs.findIdx? fun c => 0x80 ≤ c.toNat with
  | some position => .error position
  | none => readHexFrom 0 cs

end FixedWidth.Text
