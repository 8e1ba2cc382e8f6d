import FixedWidth.Fault

/-!
# Places in a YAML text

Reading a document needs to know, besides what follows, how far a place is from
the beginning of its line, since the indent says what belongs to what, and how
far two places are from each other, since a key has to be short.

A line ends at a line feed, at the next-line control, and at the line and the
paragraph separator. The first two mean the same; the separators keep what they
are where a scalar goes over several lines. Carriage returns are line feeds
before a text comes here.
-/

namespace FixedWidth.Yaml

/-! ### Characters -/

/-- Whether a document can hold a character. -/
def isPermitted (c : Char) : Bool :=
  let n := c.toNat
  n == 0x09 || n == 0x0A || n == 0x0D || (0x20 ≤ n && n ≤ 0x7E) || n == 0x85 ||
    (0xA0 ≤ n && n ≤ 0xD7FF) || (0xE000 ≤ n && n ≤ 0xFFFD) || 0x10000 ≤ n

/-- The mark that can stand at the beginning of a text and takes no column. -/
def byteOrderMark : Char := '\uFEFF'

/-- Whether a character ends a line. -/
def isBreak (c : Char) : Bool :=
  c == '\n' || c == '\x85' || c == '\u2028' || c == '\u2029'

/-- Whether a character is a space within a line. -/
def isWhite (c : Char) : Bool :=
  c == ' ' || c == '\t'

/-- Whether a line, or the text, ends before what follows. -/
def endsLine : Option Char → Bool
  | none => true
  | some c => isBreak c

/-- Whether a part ends before what follows: at the end of its line or at a
space. -/
def endsPart : Option Char → Bool
  | none => true
  | some c => isBreak c || c == ' '

/-- Whether a word ends before what follows: also at a tab. -/
def endsWord : Option Char → Bool
  | none => true
  | some c => isBreak c || isWhite c

/-- Whether what follows is one of the given characters. -/
def isOneOf (choices : String) : Option Char → Bool
  | none => false
  | some c => choices.toList.contains c

/-- The fault of a text that is no part of a document. -/
def badToken : Fault := .malformedYaml .token

/-! ### Places -/

/-- A place in a text: what follows, and the distance from the beginning of the
text, the number of lines before, and the distance from the beginning of the
line. -/
structure Cursor where
  rest : List Char
  index : Nat := 0
  line : Nat := 0
  column : Nat := 0
deriving Repr

namespace Cursor

/-- The next character. -/
def peek (c : Cursor) : Option Char :=
  c.rest.head?

/-- The character after so many others. -/
def peekAt (c : Cursor) (n : Nat) : Option Char :=
  c.rest[n]?

/-- The place after the next character. -/
def next (c : Cursor) : Cursor :=
  match c.rest with
  | [] => c
  | first :: rest =>
    if isBreak first then ⟨rest, c.index + 1, c.line + 1, 0⟩
    else ⟨rest, c.index + 1, c.line, if first == byteOrderMark then c.column else c.column + 1⟩

/-- The place after so many characters. -/
def skip (c : Cursor) : Nat → Cursor
  | 0 => c
  | n + 1 => c.next.skip n

/-- The place after the characters that satisfy `p`. -/
def skipWhile (c : Cursor) (p : Char → Bool) : Cursor :=
  c.skip (c.rest.takeWhile p).length

/-- The end of a line, as a scalar keeps it, and the place after it. -/
def takeBreak? (c : Cursor) : Option (Char × Cursor) :=
  match c.rest with
  | [] => none
  | first :: _ =>
    if first == '\n' || first == '\x85' then some ('\n', c.next)
    else if isBreak first then some (first, c.next)
    else none

/-- Whether the mark of a document's beginning or end stands here. -/
def isAtMark (c : Cursor) : Bool :=
  let mark := String.ofList (c.rest.take 3)
  c.column == 0 && (mark == "---" || mark == "...") && endsWord (c.peekAt 3)

/-- The place after spaces and a comment and the end of the line; nothing else
may stand on the line. -/
def skipLine (c : Cursor) : Except Fault Cursor :=
  let c := c.skipWhile (· == ' ')
  let c := if c.peek == some '#' then c.skipWhile (!isBreak ·) else c
  if endsLine c.peek then .ok ((c.takeBreak?.map (·.2)).getD c) else .error badToken

end Cursor

/-- The text that ends of lines between two words stand for: one of them alone
is a space, and otherwise the first of them does not count, unless it is a
separator. -/
def folded (first : Char) (others : List Char) : List Char :=
  if first != '\n' then first :: others else if others.isEmpty then [' '] else others

end FixedWidth.Yaml
