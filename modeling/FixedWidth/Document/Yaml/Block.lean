import FixedWidth.Document.Yaml.Cursor

/-!
# Block scalars

A scalar whose lines stand under a mark, with more indent than what they belong
to. In the literal form ends of lines are kept; in the folded form one that
stands between two lines of text counts for a space. The mark's line says how the
ends of lines at the scalar's end count (kept, dropped, or the first one kept) and
can say how deep the indent is; otherwise the first line of text shows it.
-/

namespace FixedWidth.Yaml

/-- What is said behind the mark of a block scalar. -/
structure BlockHeader where
  /-- Whether all ends of lines at the scalar's end are kept, or none; the first
  one where nothing is said. -/
  keep : Option Bool := none
  /-- How much deeper than its surroundings the scalar is. -/
  increment : Option Nat := none

/-- The header's sign for the ends of lines, if one stands here. -/
def readKeep (c : Cursor) : Option Bool × Cursor :=
  if c.peek == some '+' then (some true, c.next)
  else if c.peek == some '-' then (some false, c.next)
  else (none, c)

/-- The header's digit for the indent, if one stands here; it is not zero. -/
def readIncrement (c : Cursor) : Except Fault (Option Nat × Cursor) :=
  match c.peek with
  | some d =>
    if d == '0' then .error badToken
    else if d.isDigit then .ok (some (d.toNat - '0'.toNat), c.next)
    else .ok (none, c)
  | none => .ok (none, c)

/-- The header of a block scalar, its sign and its digit in either order, and the
place at the beginning of the next line. -/
def readHeader (c : Cursor) : Except Fault (BlockHeader × Cursor) := do
  let (early, c) := readKeep c
  let (increment, c) ← readIncrement c
  let (keep, c) := if early.isNone && increment.isSome then readKeep c else (early, c)
  if !endsPart c.peek then throw badToken
  return (⟨keep, increment⟩, ← c.skipLine)

/-- The empty lines before the text, the greatest column that spaces reach in
them or before the text, and the place after them. -/
def readLeading (deepest : Nat) : (bound : Nat) → Cursor → List Char × Nat × Cursor
  | 0, c => ([], deepest, c)
  | bound + 1, c =>
    if c.peek == some ' ' then readLeading (max deepest c.next.column) bound c.next
    else
      match c.takeBreak? with
      | none => ([], deepest, c)
      | some (first, c) =>
        let (others, deepest, c) := readLeading deepest bound c
        (first :: others, deepest, c)

/-- The place after spaces up to an indent. -/
def skipIndent (indent : Nat) (c : Cursor) : Cursor :=
  c.skip (min (indent - c.column) (c.rest.takeWhile (· == ' ')).length)

/-- The ends of empty lines, and the place in the next line up to an indent. -/
def readBlockBreaks (indent : Nat) : (bound : Nat) → Cursor → List Char × Cursor
  | 0, c => ([], c)
  | bound + 1, c =>
    let c := skipIndent indent c
    match c.takeBreak? with
    | none => ([], c)
    | some (first, c) =>
      let (others, c) := readBlockBreaks indent bound c
      (first :: others, c)

/-- The ends of empty lines from a place on. -/
def readBlockBreaksFrom (indent : Nat) (c : Cursor) : List Char × Cursor :=
  readBlockBreaks indent (c.rest.length + 1) c

/-- The text of a block scalar, with the ends of lines behind it. -/
structure Block where
  text : List Char := []
  /-- The end of the last line of text. -/
  lastBreak : List Char := []
  /-- The ends of the empty lines after it. -/
  trailing : List Char := []
  cursor : Cursor

/-- Whether a line of text begins at a place, for a block with the given
indent. -/
def isBlockLine (indent : Nat) (c : Cursor) : Bool :=
  c.column == indent && !c.rest.isEmpty

/-- Whether what follows is a space within a line. -/
def isAtWhite (c : Cursor) : Bool :=
  isOneOf " \t" c.peek

/-- The lines of a block scalar, of which one begins here. -/
def readBlockLines (isFolded : Bool) (indent : Nat) : (bound : Nat) → Cursor → Block
  | 0, c => { cursor := c }
  | bound + 1, c =>
    let line := c.rest.takeWhile (!isBreak ·)
    let afterLine := c.skip line.length
    let (lastBreak, afterBreak) :=
      match afterLine.takeBreak? with
      | some (first, next) => ([first], next)
      | none => ([], afterLine)
    let (empty, next) := readBlockBreaksFrom indent afterBreak
    if isBlockLine indent next then
      let joint :=
        if isFolded && lastBreak == ['\n'] && !isAtWhite c && !isAtWhite next then
          (if empty.isEmpty then [' '] else [])
        else lastBreak
      let others := readBlockLines isFolded indent bound next
      { others with text := line ++ joint ++ empty ++ others.text }
    else ⟨line, lastBreak, empty, next⟩

/-- The scalar of a block: its text, with the ends of lines behind it as far as
they are kept. -/
def Block.scalar (header : BlockHeader) (block : Block) : List Char :=
  block.text ++ (if header.keep == some false then [] else block.lastBreak) ++
    if header.keep == some true then block.trailing else []

/-- **The block scalar that begins here**, with its mark, and the place after it.
`floor` is the least column of what belongs to the block around it. -/
def readBlock (isFolded : Bool) (floor : Nat) (c : Cursor) :
    Except Fault (List Char × Cursor) := do
  let (header, c) ← readHeader c.next
  let least := max floor 1
  let (leading, indent, c) :=
    match header.increment with
    | some increment =>
      let indent := least + increment - 1
      let (leading, c) := readBlockBreaksFrom indent c
      (leading, indent, c)
    | none =>
      let (leading, deepest, c) := readLeading 0 (c.rest.length + 1) c
      (leading, max least deepest, c)
  let block :=
    if isBlockLine indent c then
      let block := readBlockLines isFolded indent (c.rest.length + 1) c
      { block with text := leading ++ block.text }
    else { trailing := leading, cursor := c }
  return (block.scalar header, block.cursor)

end FixedWidth.Yaml
