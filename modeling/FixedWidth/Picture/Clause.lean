import FixedWidth.Picture.Repeat

/-!
# Picture clauses

A picture as a test on texts: one symbol, one character. Six symbols stand for a
class of characters, `V` and `P` stand for no character at all, and every other
character stands for itself, so that a point or a parenthesis is an ordinary
literal. A control character is no symbol.

A text matches when it has exactly one accepted character for each symbol that
stands for one.
-/

namespace FixedWidth.Picture

/-- A symbol of a picture. -/
inductive Token where
  | digit
  | alphanumeric
  | alphabetic
  | numericOrSpace
  | sign
  | impliedPoint
  | scaleFactor
  | literal (c : Char)
deriving DecidableEq, Repr

/-- Whether the character is a control character. -/
def isControl (c : Char) : Bool :=
  c.toNat < 0x20 || (0x7F ≤ c.toNat && c.toNat ≤ 0x9F)

namespace Token

/-- The symbol that a character is; a control character is none. -/
def ofChar? (c : Char) : Option Token :=
  if c == '9' then some digit
  else if c == 'X' then some alphanumeric
  else if c == 'A' then some alphabetic
  else if c == 'Z' then some numericOrSpace
  else if c == 'S' then some sign
  else if c == 'V' then some impliedPoint
  else if c == 'P' then some scaleFactor
  else if isControl c then none
  else some (literal c)

/-- Whether the symbol stands for a character. -/
def takesPosition : Token → Bool
  | impliedPoint => false
  | scaleFactor => false
  | _ => true

/-- Whether the symbol stands for the given character. -/
def accepts : Token → Char → Bool
  | digit, c => c.isDigit
  | alphanumeric, c => c.isAlphanum
  | alphabetic, c => c.isAlpha
  | numericOrSpace, c => c.isDigit || c == ' '
  | sign, c => c == '+' || c == '-'
  | impliedPoint, _ => false
  | scaleFactor, _ => false
  | literal l, c => c == l

end Token

/-- A compiled picture. -/
structure Clause where
  /-- The picture it was compiled from. -/
  picture : String
  /-- One symbol for each character of the picture, repeat counts carried out. -/
  tokens : List Token
deriving DecidableEq, Repr

namespace Clause

/-- The symbols that stand for a character. -/
def positions (clause : Clause) : List Token :=
  clause.tokens.filter Token.takesPosition

/-- How many characters a matching text has. -/
def width (clause : Clause) : Nat :=
  clause.positions.length

/-- Whether the picture has symbols, and none that stands for a character. -/
def isZeroWidthOnly (clause : Clause) : Bool :=
  !clause.tokens.isEmpty && clause.positions.isEmpty

/-- The first place at which a character is not accepted, in texts with as many
characters as there are symbols. -/
def firstRejected? : List Token → List Char → Option Nat
  | token :: tokens, c :: cs =>
    if token.accepts c then (firstRejected? tokens cs).map (· + 1) else some 0
  | _, _ => none

/-- **Where a text fails the picture**: the shorter of the two lengths where
they differ, and otherwise the first place of a character not accepted. -/
def firstMismatch? (clause : Clause) (cs : List Char) : Option Nat :=
  if cs.length ≠ clause.width then some (min cs.length clause.width)
  else firstRejected? clause.positions cs

/-- Whether a text matches the picture. -/
def accepts (clause : Clause) (cs : List Char) : Bool :=
  (clause.firstMismatch? cs).isNone

end Clause

/-- The symbols of a text, the first of which has the given position. -/
def tokensFrom (position : Nat) : List Char → Except Fault (List Token)
  | [] => .ok []
  | c :: cs =>
    match Token.ofChar? c with
    | none => .error (.pictureToken c position)
    | some token => (tokensFrom (position + 1) cs).map (token :: ·)

/-- **The clause of a picture**, with its repeat counts carried out first or its
parentheses taken literally. -/
def compile (picture : String) (expandCounts : Bool) : Except Fault Clause := do
  let source ← if expandCounts then expand picture else .ok picture.toList
  return ⟨picture, ← tokensFrom 0 source⟩

end FixedWidth.Picture
