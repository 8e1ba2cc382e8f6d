import FixedWidth.Document.Yaml.Block
import FixedWidth.Document.Yaml.Plain
import FixedWidth.Document.Yaml.Property
import FixedWidth.Document.Yaml.Quoted

/-!
# Cutting a YAML text into parts

Most of a text is cut by what stands at a place alone. Two things need more. The
beginnings and ends of collections that are set off by indent are not written;
they are found from the columns of their items and keys. And whether a scalar is
a key is only known from a colon behind it; until that comes, or cannot come any
more, the scalar and what follows it are held back, so that the mark of a key can
be put before it. A key stands on one line and has at most 1024 characters; where
only a key can stand, its colon has to come.

`tokens` gives the parts of a text. They end with the end of the text, or with
the fault that keeps the rest from being cut.
-/

namespace FixedWidth.Yaml

/-- A place at which a key may have begun. -/
structure KeyPlace where
  /-- How many brackets are open there. -/
  level : Nat
  /-- How many parts come before it. -/
  number : Nat
  /-- Whether nothing but a key can begin there. -/
  required : Bool
  cursor : Cursor

/-- A text that has been cut into parts up to some place. -/
structure Layout where
  cursor : Cursor
  /-- The parts that are held back. -/
  pending : List Token := []
  /-- How many parts came before those. -/
  given : Nat := 0
  /-- How many brackets are open. -/
  depth : Nat := 0
  /-- The least column of what belongs to the innermost block; zero outside of
  all blocks. -/
  floor : Nat := 0
  /-- The same for the blocks around it. -/
  floors : List Nat := []
  /-- Whether a key can begin here. -/
  keyAllowed : Bool := true
  /-- The places where a key may have begun, at most one for each depth. -/
  keys : List KeyPlace := []
  finished : Bool := false

/-- How long a key can be. -/
def longestKey : Nat := 1024

namespace Layout

/-- Whether the place is outside of all brackets. -/
def isBlock (s : Layout) : Bool :=
  s.depth == 0

/-- One part more. -/
def push (s : Layout) (t : Token) : Layout :=
  { s with pending := s.pending ++ [t] }

/-- One part more, of one character. -/
def pushMark (s : Layout) (t : Token) : Layout :=
  { s.push t with cursor := s.cursor.next }

/-- A part put where a key may have begun. -/
def insertAt (s : Layout) (place : KeyPlace) (t : Token) : Layout :=
  let n := place.number - s.given
  { s with pending := s.pending.take n ++ t :: s.pending.drop n }

/-! ### Blocks -/

/-- Ends the blocks that what stands in a column less than `floor` does not
belong to. -/
def closeTo (floor : Nat) (s : Layout) : Layout :=
  match s.floors.dropWhile (floor < ·), s.floors.takeWhile (floor < ·) with
  | outer :: floors, inner =>
    if s.floor ≤ floor then s
    else
      { s with
        floor := outer
        floors := floors
        pending := s.pending ++ List.replicate (inner.length + 1) .blockEnd }
  | [], _ => s

/-- Ends the blocks that a column does not belong to. Brackets keep all open. -/
def closeBlocks (floor : Nat) (s : Layout) : Layout :=
  if s.isBlock then s.closeTo floor else s

/-- Begins a block at a column, unless the innermost one is at that column or
deeper. -/
def openBlock (column : Nat) (mark : Layout → Layout) (s : Layout) : Layout :=
  if s.floor ≤ column then
    { mark s with floor := column + 1, floors := s.floor :: s.floors }
  else s

/-! ### Keys -/

/-- Gives up places where a key may have begun: none of them may be one where
only a key can stand. -/
def giveUp (p : KeyPlace → Bool) (s : Layout) : Except Fault Layout :=
  if s.keys.any fun place => p place && place.required then .error badToken
  else .ok { s with keys := s.keys.filter (!p ·) }

/-- Whether what began at a place is too long for a key. -/
def isStale (s : Layout) (place : KeyPlace) : Bool :=
  place.cursor.line != s.cursor.line || longestKey < s.cursor.index - place.cursor.index

/-- Gives up the places at which a key can no longer have begun. -/
def dropStale (s : Layout) : Except Fault Layout :=
  s.giveUp s.isStale

/-- Gives up the place at the present depth. -/
def dropKey (s : Layout) : Except Fault Layout :=
  s.giveUp (·.level == s.depth)

/-- Keeps the present place as one where a key may begin. -/
def markKey (s : Layout) : Except Fault Layout := do
  if !s.keyAllowed then return s
  let required := s.isBlock && s.floor == s.cursor.column + 1
  let place : KeyPlace := ⟨s.depth, s.given + s.pending.length, required, s.cursor⟩
  let s ← s.dropKey
  return { s with keys := s.keys ++ [place] }

/-! ### Parts -/

/-- The place of the next part, and whether a line ends before it. -/
def skipToPart : (bound : Nat) → Cursor → Cursor × Bool
  | 0, c => (c, false)
  | bound + 1, c =>
    let c := c.skipWhile (· == ' ')
    let c := if c.peek == some '#' then c.skipWhile (!isBreak ·) else c
    match c.takeBreak? with
    | none => (c, false)
    | some (_, c) => ((skipToPart bound c).1, true)

/-- Goes to the next part. Outside of brackets a key can begin on a new line. -/
def toNextPart (s : Layout) : Layout :=
  let c := if s.cursor.index == 0 && s.cursor.peek == some byteOrderMark then s.cursor.next
    else s.cursor
  let (c, crossesLine) := skipToPart (c.rest.length + 1) c
  { s with cursor := c, keyAllowed := s.keyAllowed || (crossesLine && s.isBlock) }

/-- The end of the text. -/
def finish (s : Layout) : Except Fault Layout := do
  let s ← (s.closeBlocks 0).dropKey
  return { s.push .textEnd with keys := [], keyAllowed := false, finished := true }

/-- A directive. -/
def takeDirective (s : Layout) : Except Fault Layout := do
  let s ← (s.closeBlocks 0).dropKey
  let (directive, c) ← readDirective s.cursor
  return { s.push (.directive directive) with cursor := c, keyAllowed := false }

/-- The mark of a document's beginning or end. -/
def takeDocumentMark (t : Token) (s : Layout) : Except Fault Layout := do
  let s ← (s.closeBlocks 0).dropKey
  return { s.push t with cursor := s.cursor.skip 3, keyAllowed := false }

/-- An opening bracket. -/
def takeOpening (t : Token) (s : Layout) : Except Fault Layout := do
  let s ← s.markKey
  return { s.pushMark t with depth := s.depth + 1, keyAllowed := true }

/-- A closing bracket. -/
def takeClosing (t : Token) (s : Layout) : Except Fault Layout := do
  let s ← s.dropKey
  return { s.pushMark t with depth := s.depth - 1, keyAllowed := false }

/-- A comma between brackets. -/
def takeComma (s : Layout) : Except Fault Layout := do
  let s ← s.dropKey
  return { s.pushMark .comma with keyAllowed := true }

/-- The dash of an item, which begins a block where it stands deeper than the
innermost one. -/
def takeItem (s : Layout) : Except Fault Layout := do
  if s.isBlock && !s.keyAllowed then throw badToken
  let s := if s.isBlock then s.openBlock s.cursor.column (·.push .sequenceStart) else s
  let s ← s.dropKey
  return { s.pushMark .item with keyAllowed := true }

/-- The mark of a key. -/
def takeKey (s : Layout) : Except Fault Layout := do
  if s.isBlock && !s.keyAllowed then throw badToken
  let s := if s.isBlock then s.openBlock s.cursor.column (·.push .mappingStart) else s
  let s ← s.dropKey
  return { s.pushMark .key with keyAllowed := s.isBlock }

/-- The colon of a value. Where a key may have begun, it has; otherwise the value
has an empty key, or one that was marked. -/
def takeValue (s : Layout) : Except Fault Layout := do
  match s.keys.find? (·.level == s.depth) with
  | some place =>
    let s := { s with keys := s.keys.filter (·.level != s.depth) }.insertAt place .key
    let s :=
      if s.isBlock then s.openBlock place.cursor.column (·.insertAt place .mappingStart) else s
    return { s.pushMark .value with keyAllowed := false }
  | none =>
    if s.isBlock && !s.keyAllowed then throw badToken
    let s := if s.isBlock then s.openBlock s.cursor.column (·.push .mappingStart) else s
    let s ← s.dropKey
    return { s.pushMark .value with keyAllowed := s.isBlock }

/-- An anchor or alias, or what else may begin a key. -/
def takeInline (read : Cursor → Except Fault (Token × Cursor)) (s : Layout) :
    Except Fault Layout := do
  let s ← s.markKey
  let (t, c) ← read s.cursor
  return { s.push t with cursor := c, keyAllowed := false }

/-- A block scalar. -/
def takeBlock (isFolded : Bool) (s : Layout) : Except Fault Layout := do
  let s ← s.dropKey
  let (text, c) ← readBlock isFolded s.floor s.cursor
  return { s.push (.scalar false text) with cursor := c, keyAllowed := true }

/-- A plain scalar. Where it ends on a new line, a key can begin there. -/
def takePlain (s : Layout) : Except Fault Layout := do
  let s ← s.markKey
  let plain := readPlain (!s.isBlock) s.floor s.cursor
  return { s.push (.scalar true plain.text) with
    cursor := plain.cursor, keyAllowed := plain.crossesLine }

/-- A part made of a name. -/
def readNamed (make : List Char → Token) (c : Cursor) : Except Fault (Token × Cursor) := do
  let (name, c) ← readName c
  return (make name, c)

/-- A part made of a quoted scalar. -/
def readQuotedToken (quote : Char) (c : Cursor) : Except Fault (Token × Cursor) := do
  let (text, c) ← readQuoted quote c
  return (.scalar false text, c)

/-- The part that begins with a character at the present place. -/
def takeAt (first : Char) (s : Layout) : Except Fault Layout :=
  let isMark := !s.isBlock || endsWord (s.cursor.peekAt 1)
  if first == '[' then s.takeOpening .flowSequenceStart
  else if first == '\x7b' then s.takeOpening .flowMappingStart
  else if first == ']' then s.takeClosing .flowSequenceEnd
  else if first == '\x7d' then s.takeClosing .flowMappingEnd
  else if first == ',' then s.takeComma
  else if first == '-' && endsWord (s.cursor.peekAt 1) then s.takeItem
  else if first == '?' && isMark then s.takeKey
  else if first == ':' && isMark then s.takeValue
  else if first == '*' then s.takeInline (readNamed .alias)
  else if first == '&' then s.takeInline (readNamed .anchor)
  else if first == '!' then s.takeInline readTag
  else if first == '|' && s.isBlock then s.takeBlock false
  else if first == '>' && s.isBlock then s.takeBlock true
  else if first == '\'' || first == '"' then s.takeInline (readQuotedToken first)
  else if beginsPlain (!s.isBlock) s.cursor then s.takePlain
  else .error badToken

/-- **The text with one part more**, and with what its column begins or ends. -/
def step (s : Layout) : Except Fault Layout := do
  let s ← s.toNextPart.dropStale
  let s := s.closeBlocks (s.cursor.column + 1)
  match s.cursor.peek with
  | none => s.finish
  | some first =>
    if s.cursor.column == 0 && first == '%' then s.takeDirective
    else if s.cursor.isAtMark then
      s.takeDocumentMark (if first == '-' then .documentStart else .documentEnd)
    else s.takeAt first

/-- How many of the parts held back need not be any more: those before the first
place where a key may have begun. -/
def readyCount (s : Layout) : Nat :=
  s.keys.foldl (fun n place => min n (place.number - s.given)) s.pending.length

/-- The parts that need not be held back, and the text without them. -/
def release (s : Layout) : List Token × Layout :=
  let n := s.readyCount
  (s.pending.take n, { s with pending := s.pending.drop n, given := s.given + n })

/-- The parts from the present place on. -/
def tokensFrom : (bound : Nat) → Layout → List Token
  | 0, _ => [.flaw badToken]
  | bound + 1, s =>
    match s.step.bind dropStale with
    | .error fault => [.flaw fault]
    | .ok s =>
      let (ready, s) := s.release
      ready ++ if s.finished then [] else tokensFrom bound s

end Layout

/-- **The parts of a text.** -/
def tokens (cs : List Char) : List Token :=
  Layout.tokensFrom (cs.length + 2) { cursor := { rest := cs } }

end FixedWidth.Yaml
