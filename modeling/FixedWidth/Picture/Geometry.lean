import FixedWidth.Picture.Repeat
import FixedWidth.Picture.Usage
import FixedWidth.Text.Blank
import FixedWidth.Text.Scan

/-!
# Geometry of a field

What a picture says about the size of a field. A picture with an `X` or an `A`
describes text of as many characters as it has symbols. Any other describes a
number: `9` and `Z` are its digits, `V` the point that is not stored, `S` at the
beginning the sign, and `P` counts for nothing.

The picture may be in either case and may be introduced by the word of a
copybook clause.
-/

namespace FixedWidth

/-- The size of a field. -/
inductive Geometry where
  /-- Text of so many characters. -/
  | alphanumeric (length : Nat)
  /-- A number of so many digits before and after the point. -/
  | numeric (signed : Bool) (integerDigits fractionDigits : Nat)
deriving DecidableEq, Repr

namespace Geometry

/-- Whether the field holds text. -/
def isAlphanumeric : Geometry → Bool
  | alphanumeric _ => true
  | numeric _ _ _ => false

/-- Whether the field holds numbers below zero. -/
def isSigned : Geometry → Bool
  | alphanumeric _ => false
  | numeric signed _ _ => signed

/-- The digits before the point. -/
def integerDigits : Geometry → Nat
  | alphanumeric _ => 0
  | numeric _ i _ => i

/-- The digits after the point. -/
def fractionDigits : Geometry → Nat
  | alphanumeric _ => 0
  | numeric _ _ f => f

/-- All digits. -/
def totalDigits (g : Geometry) : Nat :=
  g.integerDigits + g.fractionDigits

/-- The places of the field's numbers. -/
def scale (g : Geometry) : Nat :=
  g.fractionDigits

/-- The characters of the field's text, sign and point not counted. -/
def length : Geometry → Nat
  | alphanumeric n => n
  | numeric _ i f => i + f

/-- Whether the symbol stands for a digit. -/
def isDigitSymbol (c : Char) : Bool :=
  c == '9' || c == 'Z'

/-- The symbols of a number's picture. -/
def isNumericSymbol (c : Char) : Bool :=
  c == '9' || c == 'S' || c == 'V' || c == 'P' || c == 'Z'

/-- Puts a symbol into its place among others in order, unless it is there. -/
def insertSymbol (c : Char) : List Char → List Char
  | [] => [c]
  | d :: ds => if c < d then c :: d :: ds else if c = d then d :: ds else d :: insertSymbol c ds

/-- The symbols of a text in order, each once. -/
def sortedSymbols (cs : List Char) : List Char :=
  cs.foldr insertSymbol []

/-- The geometry that symbols describe, `picture` being what messages show. -/
def ofSymbols (symbols : List Char) (picture : String) : Except Fault Geometry :=
  let unknown := symbols.filter fun c => !isNumericSymbol c
  let whole := symbols.takeWhile (· != 'V')
  let fraction := symbols.dropWhile (· != 'V')
  if symbols.isEmpty then .error .emptyPicture
  else if symbols.contains 'X' || symbols.contains 'A' then .ok (alphanumeric symbols.length)
  else if !unknown.isEmpty then .error (.unsupportedSymbols (sortedSymbols unknown) picture)
  else if 1 < symbols.count 'V' then .error (.secondPoint picture)
  else if symbols.tail.contains 'S' then .error (.innerSign picture)
  else
    .ok (numeric (symbols.head? == some 'S') (whole.countP isDigitSymbol)
      (fraction.countP isDigitSymbol))

/-- What follows the words that introduce a picture in a clause. -/
def afterIntroduction? (cs : List Char) : Option (List Char) := do
  let rest ← Text.dropKeyword? "PIC".toList cs
  let rest ← Text.dropBlanks? ((Text.dropKeyword? "TURE".toList rest).getD rest)
  return Text.dropOptional "IS".toList rest

/-- A picture without the words that introduce it in a clause. -/
def dropIntroduction (cs : List Char) : List Char :=
  (afterIntroduction? cs).getD cs

/-- **The geometry that a picture describes.** -/
def ofPicture (picture : String) : Except Fault Geometry := do
  let bare := Text.upper (dropIntroduction (Text.trim picture.toList))
  ofSymbols (← Picture.expand (String.ofList bare)) picture

/-- The bytes of the field in a record. -/
def storageLength (g : Geometry) (usage : Option String) : Except Fault Nat :=
  match g with
  | alphanumeric n => .ok n
  | numeric _ i f => (Usage.ofName usage).numericLength (i + f)

end Geometry

end FixedWidth
