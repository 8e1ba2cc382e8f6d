import FixedWidth.Document.Dialect
import FixedWidth.Entries
import FixedWidth.Text.Hex

/-!
# Reading JSON

A JSON text as a `Value`. Names of an object keep their order, a later value for
a name takes the place of the first. Where a number has a point or an exponent
it is a double, otherwise an integer.

Documents come in two dialects (`Dialect`) that agree on the grammar. Where a
dialect has no wide integers, an integer beyond 64 bits is a double; where it
does not name infinities, a number too large for a double is refused.

Reading steps through the text by recursion on a bound that the text's length
gives; each step that calls another has taken a character or opened a value.
-/

namespace FixedWidth.Json

/-- White space between the parts of a document. -/
def isSpace (c : Char) : Bool :=
  c == ' ' || c == '\t' || c == '\n' || c == '\r'

/-- The text after white space. -/
def skip (cs : List Char) : List Char :=
  cs.dropWhile isSpace

/-- What follows a word. -/
def dropWord? (word : String) (cs : List Char) : Option (List Char) :=
  if word.toList.isPrefixOf cs then some (cs.drop word.length) else none

/-! ### Strings -/

/-- The character of an escape of one letter. -/
def escape? (c : Char) : Option Char :=
  if c == '"' || c == '\\' || c == '/' then some c
  else if c == 'b' then some '\x08'
  else if c == 'f' then some '\x0c'
  else if c == 'n' then some '\n'
  else if c == 'r' then some '\r'
  else if c == 't' then some '\t'
  else none

/-- The number of four hexadecimal digits. -/
def hexUnit? (a b c d : Char) : Option Nat := do
  return (((← Text.hexValue? a) * 16 + (← Text.hexValue? b)) * 16 + (← Text.hexValue? c)) * 16 +
    (← Text.hexValue? d)

/-- Puts a character in front of a string that was read. -/
def consChar (c : Char) : Option (List Char × List Char) → Option (List Char × List Char)
  | some (s, rest) => some (c :: s, rest)
  | none => none

/-- Puts a half of a pair that stands alone in front of a string that was read,
where there is one and the dialect has such. -/
def consHalf (dialect : Dialect) (half : Option Nat) (read : Option (List Char × List Char)) :
    Option (List Char × List Char) :=
  match half with
  | none => read
  | some n => if dialect.halves then consChar (Text.ofHalf n) read else none

/-- Whether a number is the first half of a pair. -/
def isHighHalf (n : Nat) : Bool :=
  0xD800 ≤ n && n < 0xDC00

/-- The code point that the two halves of a pair make up, if the second is one. -/
def ofHalves? (high : Option Nat) (low : Nat) : Option Nat :=
  match high with
  | none => none
  | some n =>
    if 0xDC00 ≤ low && low < 0xE000 then some (0x10000 + (n - 0xD800) * 1024 + (low - 0xDC00))
    else none

/-- The string up to its closing quote, and what follows. A code point beyond
the first plane is two escapes, the halves of its pair; `high` is the first half,
where the escape of one has just been read. -/
def readString? (dialect : Dialect) (high : Option Nat) :
    List Char → Option (List Char × List Char)
  | [] => none
  | '"' :: rest => consHalf dialect high (some ([], rest))
  | '\\' :: 'u' :: a :: b :: c :: d :: cs =>
    match hexUnit? a b c d with
    | none => none
    | some n =>
      match ofHalves? high n with
      | some point => consChar (Char.ofNat point) (readString? dialect none cs)
      | none =>
        consHalf dialect high <|
          if isHighHalf n then readString? dialect (some n) cs
          else if Text.isHalf n then consHalf dialect (some n) (readString? dialect none cs)
          else consChar (Char.ofNat n) (readString? dialect none cs)
  | '\\' :: e :: cs =>
    match escape? e with
    | some c => consHalf dialect high (consChar c (readString? dialect none cs))
    | none => none
  | c :: cs =>
    if c.toNat < 0x20 then none
    else consHalf dialect high (consChar c (readString? dialect none cs))

/-! ### Numbers -/

/-- The digits of an integer without leading zeros, and what follows. -/
def readWhole? (cs : List Char) : Option (List Char × List Char) :=
  match cs with
  | '0' :: rest => some (['0'], rest)
  | c :: _ =>
    if c.isDigit then some (cs.takeWhile Char.isDigit, cs.dropWhile Char.isDigit) else none
  | [] => none

/-- A point with digits after it, if one is there. -/
def readFraction (cs : List Char) : List Char × List Char :=
  match cs with
  | '.' :: rest =>
    if (rest.takeWhile Char.isDigit).isEmpty then ([], cs)
    else (rest.takeWhile Char.isDigit, rest.dropWhile Char.isDigit)
  | _ => ([], cs)

/-- An exponent, if one is there. -/
def readExponent? (cs : List Char) : Option (Int × List Char) :=
  match cs with
  | [] => none
  | e :: rest =>
    if e == 'e' || e == 'E' then
      let (negative, rest) :=
        match rest with
        | '-' :: rest => (true, rest)
        | '+' :: rest => (false, rest)
        | rest => (false, rest)
      let ds := rest.takeWhile Char.isDigit
      if ds.isEmpty then none
      else
        let n : Int := Scientific.natOfDigits ds
        some (if negative then -n else n, rest.dropWhile Char.isDigit)
    else none

/-- An integer as the dialect has it. -/
def integerValue (dialect : Dialect) (negative : Bool) (n : Nat) : Value :=
  if dialect.wideIntegers || (if negative then n ≤ Nat.pow 2 63 else n < Nat.pow 2 64) then
    .integer (if negative then -(n : Int) else n)
  else .double (.nearest negative n 0)

/-- The double of a mantissa and an exponent, if the dialect has it. -/
def doubleValue? (dialect : Dialect) (negative : Bool) (whole fraction : List Char) (e : Int) :
    Option Value :=
  match Binary64.nearest negative (Scientific.natOfDigits (whole ++ fraction))
      (e - fraction.length) with
  | .infinite negative =>
    if dialect.namedNumbers then some (.double (.infinite negative)) else none
  | x => some (.double x)

/-- The number at the beginning of a text after its sign, and what follows. -/
def readUnsigned? (dialect : Dialect) (negative : Bool) (cs : List Char) :
    Option (Value × List Char) := do
  let (whole, rest) ← readWhole? cs
  let (fraction, rest) := readFraction rest
  match readExponent? rest with
  | some (e, rest) => return (← doubleValue? dialect negative whole fraction e, rest)
  | none =>
    if fraction.isEmpty then
      return (integerValue dialect negative (Scientific.natOfDigits whole), rest)
    else return (← doubleValue? dialect negative whole fraction 0, rest)

/-- The number at the beginning of a text, and what follows. -/
def readNumber? (dialect : Dialect) (cs : List Char) : Option (Value × List Char) :=
  let named (word : String) (x : Binary64) : Option (Value × List Char) :=
    if dialect.namedNumbers then (dropWord? word cs).map fun rest => (.double x, rest) else none
  match named "NaN" .notNumber with
  | some r => some r
  | none =>
    match named "Infinity" (.infinite false) with
    | some r => some r
    | none =>
      match named "-Infinity" (.infinite true) with
      | some r => some r
      | none =>
        match cs with
        | '-' :: rest => readUnsigned? dialect true rest
        | cs => readUnsigned? dialect false cs

/-! ### Values -/

/-- A word that stands for a value, and what follows. -/
def readWord? (cs : List Char) : Option (Value × List Char) :=
  match dropWord? "null" cs with
  | some rest => some (.null, rest)
  | none =>
    match dropWord? "true" cs with
    | some rest => some (.truth true, rest)
    | none => (dropWord? "false" cs).map fun rest => (.truth false, rest)

mutual
/-- The value at the beginning of a text, and what follows. -/
def readValue? (dialect : Dialect) : (bound : Nat) → List Char → Option (Value × List Char)
  | 0, _ => none
  | bound + 1, cs =>
    match cs with
    | '"' :: rest => (readString? dialect none rest).map fun r => (.text (String.ofList r.1), r.2)
    | '[' :: rest =>
      match skip rest with
      | ']' :: rest => some (.list [], rest)
      | rest => (readItems? dialect bound rest).map fun r => (.list r.1, r.2)
    | '\x7b' :: rest =>
      match skip rest with
      | '\x7d' :: rest => some (.record [], rest)
      | rest => (readEntries? dialect bound [] rest).map fun r => (.record r.1, r.2)
    | cs =>
      match readWord? cs with
      | some r => some r
      | none => readNumber? dialect cs

/-- The items of a list from one of them on, and what follows the list. -/
def readItems? (dialect : Dialect) : (bound : Nat) → List Char → Option (List Value × List Char)
  | 0, _ => none
  | bound + 1, cs =>
    match readValue? dialect bound cs with
    | none => none
    | some (v, rest) =>
      match skip rest with
      | ']' :: rest => some ([v], rest)
      | ',' :: rest => (readItems? dialect bound (skip rest)).map fun r => (v :: r.1, r.2)
      | _ => none

/-- The entries of an object from one of them on, after those already read, and
what follows the object. -/
def readEntries? (dialect : Dialect) : (bound : Nat) → List (String × Value) → List Char →
    Option (List (String × Value) × List Char)
  | 0, _, _ => none
  | bound + 1, entries, cs =>
    match cs with
    | '"' :: rest =>
      match readString? dialect none rest with
      | none => none
      | some (name, rest) =>
        match skip rest with
        | ':' :: rest =>
          match readValue? dialect bound (skip rest) with
          | none => none
          | some (v, rest) =>
            let entries := Entries.insert (String.ofList name) v entries
            match skip rest with
            | '\x7d' :: rest => some (entries, rest)
            | ',' :: rest => readEntries? dialect bound entries (skip rest)
            | _ => none
        | _ => none
    | _ => none
end

/-- The value that a document is. -/
def read? (dialect : Dialect) (cs : List Char) : Option Value :=
  match readValue? dialect (2 * cs.length + 4) (skip cs) with
  | some (v, rest) =>
    if (skip rest).isEmpty && dialect.depthRead.admits (v.depth 1) then some v else none
  | none => none

end FixedWidth.Json
