import FixedWidth.Text.Blank
import FixedWidth.Text.Digit

/-!
# Reading an integer

The integers of options and of screen definitions: white space around, a sign,
and decimal digits of any script, with single underscores between digits. This
is wider than the literals of decimal values, which know ASCII alone. Documents
have integers to other bases as well.
-/

namespace FixedWidth.Text

/-- White space around an integer: as everywhere, without the four information
separators. -/
def isBlankAroundInteger (c : Char) : Bool :=
  isBlank c && !(28 ≤ c.toNat && c.toNat ≤ 31)

/-- The value of a digit to a base: a decimal digit of any script, or beyond ten
an ASCII letter. -/
def digitIn? (base : Nat) (c : Char) : Option Nat :=
  let value :=
    match digitValue? c with
    | some d => some d
    | none => if c.isAlpha then some (c.toLower.toNat - 'a'.toNat + 10) else none
  value.filter (· < base)

/-- The value of digits with single underscores between them, `n` being the
value of the digits before; a digit has just been read. -/
def readDigitsAfter (base n : Nat) : List Char → Option Nat
  | [] => some n
  | '_' :: c :: cs =>
    match digitIn? base c with
    | some d => readDigitsAfter base (base * n + d) cs
    | none => none
  | c :: cs =>
    match digitIn? base c with
    | some d => readDigitsAfter base (base * n + d) cs
    | none => none

/-- The value of one or more digits with single underscores between them. -/
def readDigits? (base : Nat) : List Char → Option Nat
  | [] => none
  | c :: cs =>
    match digitIn? base c with
    | some d => readDigitsAfter base d cs
    | none => none

/-- Digits after an optional sign. -/
def readSigned? (base : Nat) : List Char → Option Int
  | '-' :: cs => (readDigits? base cs).map fun n => -(n : Int)
  | '+' :: cs => (readDigits? base cs).map Int.ofNat
  | cs => (readDigits? base cs).map Int.ofNat

/-- The integer that a text spells to a base, if it spells one. -/
def readIntegerIn? (base : Nat) (cs : List Char) : Option Int :=
  readSigned? base (trimWhile isBlankAroundInteger cs)

/-- The integer that a text spells, if it spells one. -/
def readInteger? (cs : List Char) : Option Int :=
  readIntegerIn? 10 cs

end FixedWidth.Text
