import FixedWidth.Document.Yaml.Cursor
import FixedWidth.Text.Half
import FixedWidth.Text.Hex

/-!
# Quoted scalars

A scalar between quotes, which can go over lines: an end of line with the spaces
around it counts for one space, further ends of lines for themselves. Between
single quotes only the quote is special, which is written twice. Between double
quotes a backslash begins an escape: a letter, two to eight hexadecimal digits,
or the end of the line, which then does not count.
-/

namespace FixedWidth.Yaml

/-- The character of an escape of one letter. -/
def escape? (c : Char) : Option Char :=
  [('0', '\x00'), ('a', '\x07'), ('b', '\x08'), ('t', '\t'), ('\t', '\t'), ('n', '\n'),
    ('v', '\x0b'), ('f', '\x0c'), ('r', '\r'), ('e', '\x1b'), (' ', ' '), ('"', '"'),
    ('\\', '\\'), ('/', '/'), ('N', '\x85'), ('_', '\xa0'), ('L', '\u2028'),
    ('P', '\u2029')].lookup c

/-- How many digits follow the letter of an escape. -/
def escapeWidth? (c : Char) : Option Nat :=
  [('x', 2), ('u', 4), ('U', 8)].lookup c

/-- The number that so many hexadecimal digits spell. -/
def readHexNumber? (cs : List Char) : Option Nat :=
  cs.foldl (fun n c => do return 16 * (← n) + (← Text.hexValue? c)) (some 0)

/-- The character of a code point, which has to be one. -/
def charOfEscape (n : Nat) : Except Fault Char :=
  if Nat.pow 2 31 ≤ n then .error (.codePoint true)
  else if 0x110000 ≤ n then .error (.codePoint false)
  else .ok (Text.ofCodePoint n)

/-- The further ends of lines after the first, with spaces between them. The mark
of a document cannot stand there. -/
def readQuotedBreaks : (bound : Nat) → Cursor → Except Fault (List Char × Cursor)
  | 0, _ => .error badToken
  | bound + 1, c => do
    if c.isAtMark then throw badToken
    let c := c.skipWhile isWhite
    match c.takeBreak? with
    | none => return ([], c)
    | some (first, c) =>
      let (others, c) ← readQuotedBreaks bound c
      return (first :: others, c)

/-- The further ends of lines from a place on. -/
def readBreaksFrom (c : Cursor) : Except Fault (List Char × Cursor) :=
  readQuotedBreaks (c.rest.length + 1) c

/-- What spaces and ends of lines within a scalar count for. -/
def readQuotedGap (c : Cursor) : Except Fault (List Char × Cursor) := do
  let white := c.rest.takeWhile isWhite
  let c := c.skip white.length
  match c.takeBreak? with
  | none => if c.rest.isEmpty then throw badToken else return (white, c)
  | some (first, c) =>
    let (others, c) ← readBreaksFrom c
    return (folded first others, c)

/-- What an escape stands for, the place being after its backslash. -/
def readEscape (c : Cursor) : Except Fault (List Char × Cursor) := do
  let some first := c.peek | throw badToken
  match escape? first, escapeWidth? first with
  | some e, _ => return ([e], c.next)
  | none, some width =>
    let digits := (c.rest.drop 1).take width
    match readHexNumber? digits with
    | some n =>
      if digits.length < width then throw badToken
      return ([← charOfEscape n], c.skip (width + 1))
    | none => throw badToken
  | none, none =>
    match c.takeBreak? with
    | some (_, c) => readBreaksFrom c
    | none => throw badToken

/-- The scalar up to its closing quote, and the place after that. -/
def readQuotedFrom (quote : Char) : (bound : Nat) → Cursor → Except Fault (List Char × Cursor)
  | 0, _ => .error badToken
  | bound + 1, c => do
    let some first := c.peek | throw badToken
    if first == quote && !(quote == '\'' && c.peekAt 1 == some quote) then return ([], c.next)
    let (part, c) ←
      if first == quote then pure ([quote], c.skip 2)
      else if endsWord (some first) then readQuotedGap c
      else if first == '\\' && quote == '"' then readEscape c.next
      else pure ([first], c.next)
    let (others, c) ← readQuotedFrom quote bound c
    return (part ++ others, c)

/-- **The quoted scalar that begins here**, with its quote, and the place after
it. -/
def readQuoted (quote : Char) (c : Cursor) : Except Fault (List Char × Cursor) :=
  readQuotedFrom quote (c.rest.length + 1) c.next

end FixedWidth.Yaml
