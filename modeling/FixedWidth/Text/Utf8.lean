/-!
# Text in UTF-8

Reading bytes as UTF-8. Where they are not, the flaw names the bytes it covers:
a byte that begins no character, a character whose following bytes are wrong, or
one cut off by the end. Writing is the library's own `String.utf8EncodeChar`.
-/

namespace FixedWidth.Text

/-- Why bytes are not UTF-8. -/
inductive Utf8Reason where
  /-- A byte that begins no character. -/
  | invalidStart
  /-- A character is begun and one of its following bytes is no such byte. -/
  | invalidContinuation
  /-- The bytes end inside a character. -/
  | endOfData
deriving DecidableEq, Repr

/-- The first place at which bytes are not UTF-8: the bytes from `first` up to,
but not including, `stop`. -/
structure Utf8Flaw where
  first : Nat
  stop : Nat
  reason : Utf8Reason
deriving DecidableEq, Repr

/-- A byte that goes on with a character. -/
def isContinuation (b : UInt8) : Bool :=
  0x80 ≤ b && b ≤ 0xBF

/-- Whether a byte can be second after a given first byte: no character is
written longer than it need be, none is a surrogate, and none is beyond the last
code point. -/
def isSecondAfter (b0 b1 : UInt8) : Bool :=
  isContinuation b1 &&
    !(b0 == 0xE0 && b1 < 0xA0) && !(b0 == 0xED && 0xA0 ≤ b1) &&
    !(b0 == 0xF0 && b1 < 0x90) && !(b0 == 0xF4 && 0x90 ≤ b1)

/-- The six bits a following byte carries. -/
def payload (b : UInt8) : Nat :=
  b.toNat % 64

/-- The characters of bytes, the first of which has the given position. -/
def utf8Decode (position : Nat) : List UInt8 → Except Utf8Flaw (List Char)
  | [] => .ok []
  | b0 :: bs =>
    let flaw (length : Nat) (reason : Utf8Reason) : Except Utf8Flaw (List Char) :=
      .error ⟨position, position + length, reason⟩
    if b0 < 0x80 then do
      return Char.ofNat b0.toNat :: (← utf8Decode (position + 1) bs)
    else if b0 < 0xC2 || 0xF5 ≤ b0 then flaw 1 .invalidStart
    else
      match bs with
      | [] => flaw 1 .endOfData
      | b1 :: bs =>
        if !isSecondAfter b0 b1 then flaw 1 .invalidContinuation
        else if b0 < 0xE0 then do
          return Char.ofNat (b0.toNat % 32 * 64 + payload b1) :: (← utf8Decode (position + 2) bs)
        else
          match bs with
          | [] => flaw 2 .endOfData
          | b2 :: bs =>
            if !isContinuation b2 then flaw 2 .invalidContinuation
            else if b0 < 0xF0 then do
              return Char.ofNat ((b0.toNat % 16 * 64 + payload b1) * 64 + payload b2) ::
                (← utf8Decode (position + 3) bs)
            else
              match bs with
              | [] => flaw 3 .endOfData
              | b3 :: bs =>
                if !isContinuation b3 then flaw 3 .invalidContinuation
                else do
                  return Char.ofNat
                      (((b0.toNat % 8 * 64 + payload b1) * 64 + payload b2) * 64 + payload b3) ::
                    (← utf8Decode (position + 4) bs)

/-- The bytes of characters. -/
def utf8Encode (cs : List Char) : List UInt8 :=
  cs.flatMap String.utf8EncodeChar

end FixedWidth.Text
