import FixedWidth.Text.Half
import FixedWidth.Text.Printable

/-!
# Quoted text

How a message shows a text it was given: between quotes, on one line, and so
that every character can be told. Single quotes are used unless the text holds
one and no double quote. Inside, the backslash and the quote in use are preceded
by a backslash, line feed, carriage return and tab have their letter, and every
other character that is not printable is written by its code point in two, four
or eight lower-case hexadecimal digits.
-/

namespace FixedWidth.Text

/-- The lower-case hexadecimal digits of a number, at least `width` of them. -/
def hexDigits (width n : Nat) : List Char :=
  (Nat.toDigits 16 n).leftpad width '0'

/-- A character, or half of a pair, by its code point in the shortest of the
three forms. -/
def escapeCodePoint (c : Char) : List Char :=
  let n := (half? c).getD c.toNat
  if n < 0x100 then '\\' :: 'x' :: hexDigits 2 n
  else if n < 0x10000 then '\\' :: 'u' :: hexDigits 4 n
  else '\\' :: 'U' :: hexDigits 8 n

/-- One character between quotes. -/
def escapeQuoted (quote c : Char) : List Char :=
  if c == quote || c == '\\' then ['\\', c]
  else if c == '\n' then ['\\', 'n']
  else if c == '\r' then ['\\', 'r']
  else if c == '\t' then ['\\', 't']
  else if isPrintable c then [c]
  else escapeCodePoint c

/-- The quote a text is put between. -/
def quoteFor (cs : List Char) : Char :=
  if cs.contains '\'' && !cs.contains '"' then '"' else '\''

/-- A text between quotes. -/
def quoted (cs : List Char) : List Char :=
  let quote := quoteFor cs
  quote :: cs.flatMap (escapeQuoted quote) ++ [quote]

/-- A string between quotes. -/
def quotedString (s : String) : String :=
  String.ofList (quoted s.toList)

/-- A list of texts in square brackets, each between quotes. -/
def quotedList (texts : List String) : String :=
  "[" ++ String.intercalate ", " (texts.map quotedString) ++ "]"

end FixedWidth.Text
