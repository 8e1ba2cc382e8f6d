import FixedWidth.Document.Yaml.Cursor

/-!
# Plain scalars

A scalar without quotes. It goes on, over lines as well, until something ends it:
a colon with a space behind it, a number sign with a space before it, the mark of
a document, a line with less indent than its block has, and between brackets also
the characters that are marks there. Spaces at the ends of lines and the indent
of the next are no part of it.
-/

namespace FixedWidth.Yaml

/-- Whether a word of a plain scalar ends before a character, given what comes
after it; `flow` says whether it stands between brackets. -/
def endsPlain (flow : Bool) (c : Char) (after : Option Char) : Bool :=
  isWhite c || isBreak c ||
    (c == ':' && (endsWord after || (flow && isOneOf ",[]\x7b\x7d" after))) ||
    (flow && isOneOf ",?[]\x7b\x7d" (some c))

/-- The length of the word of a plain scalar at the beginning of a text. -/
def plainLength (flow : Bool) : List Char → Nat
  | [] => 0
  | c :: cs => if endsPlain flow c cs.head? then 0 else plainLength flow cs + 1

/-- What stands between two words of a plain scalar. -/
structure Gap where
  /-- What it counts for in the scalar; nothing where the scalar ends. -/
  text : List Char
  cursor : Cursor
  crossesLine : Bool

/-- The ends of lines, with spaces between them; no text where the mark of a
document follows. -/
def readGapBreaks : (bound : Nat) → Cursor → Option (List Char) × Cursor
  | 0, c => (some [], c)
  | bound + 1, c =>
    if c.isAtMark then (none, c)
    else if c.peek == some ' ' then readGapBreaks bound c.next
    else
      match c.takeBreak? with
      | none => (some [], c)
      | some (first, c) =>
        let (others, c) := readGapBreaks bound c
        (others.map (first :: ·), c)

/-- What stands between the word that ends here and the next. -/
def readGap (c : Cursor) : Gap :=
  let spaces := c.rest.takeWhile (· == ' ')
  let c := c.skip spaces.length
  match c.takeBreak? with
  | none => ⟨spaces, c, false⟩
  | some (first, c) =>
    match readGapBreaks (c.rest.length + 1) c with
    | (none, c) => ⟨[], c, true⟩
    | (some others, c) => ⟨folded first others, c, true⟩

/-- A plain scalar that was read. -/
structure Plain where
  text : List Char
  cursor : Cursor
  /-- Whether the place after it is on another line than its last word. -/
  crossesLine : Bool

/-- Whether a scalar ends with the word before the gap. `floor` is the least
column of what belongs to its block. -/
def Gap.isEnd (flow : Bool) (floor : Nat) (gap : Gap) : Bool :=
  gap.text.isEmpty || gap.cursor.peek == some '#' || (!flow && gap.cursor.column < floor) ||
    plainLength flow gap.cursor.rest == 0

/-- The words of a plain scalar from the one that begins here. -/
def readWords (flow : Bool) (floor : Nat) : (bound : Nat) → Cursor → Plain
  | 0, c => ⟨[], c, false⟩
  | bound + 1, c =>
    let length := plainLength flow c.rest
    let word := c.rest.take length
    let gap := readGap (c.skip length)
    if gap.isEnd flow floor then ⟨word, gap.cursor, gap.crossesLine⟩
    else
      let others := readWords flow floor bound gap.cursor
      { others with text := word ++ gap.text ++ others.text }

/-- **The plain scalar that begins here.** -/
def readPlain (flow : Bool) (floor : Nat) (c : Cursor) : Plain :=
  readWords flow floor (c.rest.length + 1) c

/-- Whether a plain scalar can begin here: not with a mark, unless it is one that
counts as such only before a space. -/
def beginsPlain (flow : Bool) (c : Cursor) : Bool :=
  match c.peek with
  | none => false
  | some first =>
    !(endsWord (some first) || isOneOf "-?:,[]\x7b\x7d#&*!|>'\"%@\x60" (some first)) ||
      (!endsWord (c.peekAt 1) && (first == '-' || (!flow && (first == '?' || first == ':'))))

end FixedWidth.Yaml
