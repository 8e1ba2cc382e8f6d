import FixedWidth.Number.Rescale
import FixedWidth.Storage.Codec
import FixedWidth.Text.Digit

/-!
# Zoned decimal

A number with one digit to a character. In a signed field the last character
carries the sign as well as the last digit: an opening brace and `A` to `I` are
the digits of a number that is not negative, a closing brace and `J` to `R`
those of a negative one. In an unsigned field all characters are digits.

The form in bytes is the text in a codec; in the EBCDIC pages the sign characters
are the digits with another first half-byte.
-/

namespace FixedWidth.Zoned

/-- The last characters of a number that is not negative, by last digit. -/
def positiveZones : List Char :=
  ['\x7b', 'A', 'B', 'C', 'D', 'E', 'F', 'G', 'H', 'I']

/-- The last characters of a negative number, by last digit. -/
def negativeZones : List Char :=
  ['\x7d', 'J', 'K', 'L', 'M', 'N', 'O', 'P', 'Q', 'R']

/-- The last character of a number with the given sign and last digit. -/
def overpunch (negative : Bool) (digit : Nat) : Char :=
  (if negative then negativeZones else positiveZones).getD digit ' '

/-- The last digit and the sign that a last character stands for. -/
def readOverpunch? (c : Char) : Option (Nat × Bool) :=
  match positiveZones.idxOf? c with
  | some digit => some (digit, false)
  | none => (negativeZones.idxOf? c).map fun digit => (digit, true)

/-- **The number that a zoned field holds**, `scale` of its digits after the
point. -/
def decode (cs : List Char) (scale : Int) (signed : Bool) : Except Fault Decimal :=
  if scale < 0 then .error .negativeScale
  else
    match cs.getLast? with
    | none => .error .emptyZoned
    | some last =>
      match Text.firstNonDigit? 0 (if signed then cs.dropLast else cs) with
      | some (c, position) => .error (.digit c position)
      | none =>
        if signed then
          match readOverpunch? last with
          | none => .error (.overpunch last)
          | some (digit, negative) =>
            .ok (.make (Nat.ofDigitChars 10 (cs.dropLast ++ [Nat.digitChar digit]) 0) negative
              scale.toNat)
        else .ok (.make (Nat.ofDigitChars 10 cs 0) false scale.toNat)

/-- The text of a number that fits. -/
def textOf (d : Decimal) (totalDigits : Nat) (signed : Bool) : List Char :=
  let ds := d.digits totalDigits
  if signed then ds.dropLast ++ [overpunch d.negative (d.unscaled % 10)] else ds

/-- **The zoned field of a number**, with so many digits. An unsigned field
takes no negative number. -/
def encode (d : Decimal) (totalDigits : Int) (signed : Bool) : Except Fault (List Char) :=
  if totalDigits < 1 then .error .totalDigits
  else if totalDigits < d.digitCount then .error (.overflow d.digitCount totalDigits)
  else if !signed && d.negative then .error .negativeForZoned
  else .ok (textOf d totalDigits.toNat signed)

/-- The number that a zoned field holds in the bytes of a codec. -/
def decodeBytes (bytes : List UInt8) (scale : Int) (codec : Codec) (signed : Bool) :
    Except Fault Decimal := do
  decode (← codec.decode bytes) scale signed

/-- The zoned field of a number in the bytes of a codec. -/
def encodeBytes (d : Decimal) (totalDigits : Int) (codec : Codec) (signed : Bool) :
    Except Fault (List UInt8) := do
  codec.encode (← encode d totalDigits signed)

/-- A digit with a sign is read back from its character. -/
theorem readOverpunch?_overpunch (negative : Bool) {digit : Nat} (h : digit < 10) :
    readOverpunch? (overpunch negative digit) = some (digit, negative) := by
  have all : ∀ negative : Bool, ∀ digit ∈ List.range 10,
      readOverpunch? (overpunch negative digit) = some (digit, negative) := by decide
  exact all negative digit (List.mem_range.2 h)

end FixedWidth.Zoned
