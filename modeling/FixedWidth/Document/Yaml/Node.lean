import FixedWidth.Document.Yaml.Tag
import FixedWidth.Document.Yaml.Token

/-!
# The tree of a YAML document

The parts of a text put together: scalars, sequences and mappings, each with its
kind. A part that is missing where one could stand is nothing. What is named by
an anchor can be referred to once it has been read to its end; a name is given
once in a document, and a text holds one document.

A mapping keeps its entries as they are written. Which of them have the same key
is only known from their values.

Reading goes through the parts from the front. At each step it looks at the next
one, so that a fault in cutting the text is met where it lies.
-/

namespace FixedWidth.Yaml

/-- A part of a document with what belongs to it. -/
inductive Node where
  | scalar (tag : Tag) (text : List Char)
  | sequence (tag : Tag) (items : List Node)
  | mapping (tag : Tag) (entries : List (Node × Node))

namespace Node

/-- The part that is missing where one could stand. -/
def missing : Node :=
  scalar (.ofPlain []) []

/-! ### Reading -/

/-- The parts that are still to be read, and what was said before them. -/
structure Source where
  tokens : List Token
  /-- What has been named; nothing while it is still being read. -/
  anchors : List (List Char × Option Node) := []
  /-- What the handles of tags stand for. -/
  handles : List (List Char × List Char) := []

/-- A step of reading. -/
abbrev Reading := StateT Source (Except Fault)

/-- The fault of parts that do not fit together. -/
def misplaced : Fault := .malformedYaml .arrangement

/-- The fault of a name that is missing or given twice, or of a second
document. -/
def badReference : Fault := .malformedYaml .reference

/-- The next part. -/
def peek : Reading Token := do
  match (← get).tokens with
  | [] => throw misplaced
  | .flaw fault :: _ => throw fault
  | t :: _ => return t

/-- Goes over the next part. -/
def advance : Reading Unit :=
  modify fun source => { source with tokens := source.tokens.tail }

/-- Goes over the next part if it is the given one. -/
def skipIf (p : Token → Bool) : Reading Bool := do
  if p (← peek) then advance; return true else return false

/-- Goes over the next part, which has to be the given one. -/
def expect (p : Token → Bool) : Reading Unit := do
  if !(← skipIf p) then throw misplaced

/-! ### What stands before a part -/

/-- The name and the tag of a part, as they are written. -/
structure Properties where
  anchor : Option (List Char) := none
  tag : Option (Option (List Char) × List Char) := none

/-- The name that stands before a part. -/
def readAnchor : Reading (Option (List Char)) := do
  match ← peek with
  | .anchor name => advance; return some name
  | _ => return none

/-- The tag that stands before a part. -/
def readTag : Reading (Option (Option (List Char) × List Char)) := do
  match ← peek with
  | .tag handle suffix => advance; return some (handle, suffix)
  | _ => return none

/-- What stands before a part, in either order. -/
def readProperties : Reading Properties := do
  match ← readAnchor with
  | some name => return ⟨some name, ← readTag⟩
  | none =>
    match ← readTag with
    | some tag => return ⟨← readAnchor, some tag⟩
    | none => return {}

/-- The longer name of a tag, whose handle has to be known. -/
def resolveTag : Option (Option (List Char) × List Char) → Reading (Option (List Char))
  | none => return none
  | some (none, name) => return some name
  | some (some handle, suffix) => do
    match (← get).handles.lookup handle with
    | some start => return some (start ++ suffix)
    | none => throw misplaced

/-- Whether a tag leaves the kind of a part open. -/
def isOpenTag (tag : Option (List Char)) : Bool :=
  tag.isNone || tag == some ['!']

/-- The kind of a collection. -/
def collectionTag (tag : Option (List Char)) (usual : Tag) : Tag :=
  if isOpenTag tag then usual else .ofName (tag.getD [])

/-- The kind of a scalar: without a tag, a quoted one is a text; a tag that leaves
the kind open makes it one that is told from its characters. -/
def scalarTag (tag : Option (List Char)) (plain : Bool) (text : List Char) : Tag :=
  match tag with
  | none => if plain then .ofPlain text else .text
  | some name => if name = ['!'] then .ofPlain text else .ofName name

/-- Gives a part its name, which nothing else has. -/
def name (anchor : Option (List Char)) (node : Option Node) : Reading Unit :=
  match anchor with
  | none => return ()
  | some name => modify fun source => { source with anchors := (name, node) :: source.anchors }

/-- Takes a name, which has to be a new one. -/
def claim (anchor : Option (List Char)) : Reading Unit := do
  match anchor with
  | none => return ()
  | some taken =>
    if ((← get).anchors.lookup taken).isSome then throw badReference

/-- What a name refers to. A part that is to hold itself is of no kind. -/
def refer (name : List Char) : Reading Node := do
  match (← get).anchors.lookup name with
  | none => throw badReference
  | some none => return scalar .unknown []
  | some (some node) => return node

/-! ### Collections -/

/-- A collection with its name, whose contents are read by `contents`. -/
def collect {α : Type} (anchor : Option (List Char)) (make : α → Node) (contents : Reading α) :
    Reading Node := do
  claim anchor
  name anchor none
  let node := make (← contents)
  name anchor (some node)
  return node

/-- The mark of a comma, and that of the end of what brackets hold. -/
def isComma : Token → Bool
  | .comma => true
  | _ => false

/-- Whether a part ends what a pair of brackets holds. -/
def isClosing (isSequence : Bool) : Token → Bool
  | .flowSequenceEnd => isSequence
  | .flowMappingEnd => !isSequence
  | _ => false

/-- Whether nothing stands between a key's mark, in a block, and a part. -/
def endsBlockEntry : Token → Bool
  | .key => true
  | .value => true
  | .blockEnd => true
  | _ => false

/-- Whether a part is the mark of a value. -/
def isValueMark : Token → Bool
  | .value => true
  | _ => false

/-- Whether a part is the dash of an item. -/
def isItem : Token → Bool
  | .item => true
  | _ => false

/-- Whether a part ends a block. -/
def isBlockEnd : Token → Bool
  | .blockEnd => true
  | _ => false

/-- Reads a part unless the next one ends the place where it could stand. -/
def unlessEnded (ends : Token → Bool) (read : Reading Node) : Reading Node := do
  if ends (← peek) then return missing else read

/-- Where a part can stand. -/
inductive Position where
  /-- Between brackets. -/
  | flow
  /-- In a block. -/
  | block
  /-- Under a key, where a sequence needs no deeper indent. -/
  | entry
deriving DecidableEq, Repr

mutual
/-- The part that begins here. -/
def readNode (position : Position) : (bound : Nat) → Reading Node
  | 0 => throw misplaced
  | bound + 1 => do
    if let .alias name ← peek then
      advance
      return ← refer name
    let properties ← readProperties
    let tag ← resolveTag properties.tag
    let anchor := properties.anchor
    let sequence := Node.sequence (collectionTag tag .sequence)
    let mapping := Node.mapping (collectionTag tag .mapping)
    match ← peek, position with
    | .item, .entry => collect anchor sequence (readItems false bound)
    | .scalar plain text, _ =>
      advance
      collect anchor (fun _ : Unit => scalar (scalarTag tag plain text) text) (pure ())
    | .flowSequenceStart, _ => advance; collect anchor sequence (readFlowItems true bound)
    | .flowMappingStart, _ => advance; collect anchor mapping (readFlowEntries true bound)
    | .sequenceStart, .block => advance; collect anchor sequence (readItems true bound)
    | .sequenceStart, .entry => advance; collect anchor sequence (readItems true bound)
    | .mappingStart, .block => advance; collect anchor mapping (readEntries bound)
    | .mappingStart, .entry => advance; collect anchor mapping (readEntries bound)
    | _, _ =>
      if anchor.isNone && tag.isNone then throw misplaced
      collect anchor (fun _ : Unit => scalar (scalarTag tag true []) []) (pure ())

/-- The items of a sequence, which ends with its block or, without a block of its
own, where no item follows. -/
def readItems (hasBlock : Bool) : (bound : Nat) → Reading (List Node)
  | 0 => throw misplaced
  | bound + 1 => do
    if ← skipIf isItem then
      let ends (t : Token) := isItem t || isBlockEnd t || (!hasBlock && endsBlockEntry t)
      let item ← unlessEnded ends (readNode .block bound)
      return item :: (← readItems hasBlock bound)
    if hasBlock then expect isBlockEnd
    return []

/-- The entries of a mapping in a block. -/
def readEntries : (bound : Nat) → Reading (List (Node × Node))
  | 0 => throw misplaced
  | bound + 1 => do
    match ← peek with
    | .key =>
      advance
      let key ← unlessEnded endsBlockEntry (readNode .entry bound)
      let value ←
        if ← skipIf isValueMark then unlessEnded endsBlockEntry (readNode .entry bound)
        else pure missing
      return (key, value) :: (← readEntries bound)
    | .blockEnd => advance; return []
    | _ => throw misplaced

/-- A key between brackets, after its mark, with its value. -/
def readFlowEntry (isSequence : Bool) : (bound : Nat) → Reading (Node × Node)
  | 0 => throw misplaced
  | bound + 1 => do
    let ends (t : Token) := isComma t || isClosing isSequence t
    let key ← unlessEnded (fun t => isValueMark t || ends t) (readNode .flow bound)
    let value ←
      if ← skipIf isValueMark then unlessEnded ends (readNode .flow bound) else pure missing
    return (key, value)

/-- The items between brackets. A key among them makes a mapping of one entry. -/
def readFlowItems (isFirst : Bool) : (bound : Nat) → Reading (List Node)
  | 0 => throw misplaced
  | bound + 1 => do
    if ← skipIf (isClosing true) then return []
    if !isFirst then expect isComma
    match ← peek with
    | .flowSequenceEnd => advance; return []
    | .key =>
      advance
      let entry ← readFlowEntry true bound
      return mapping .mapping [entry] :: (← readFlowItems false bound)
    | _ =>
      let item ← readNode .flow bound
      return item :: (← readFlowItems false bound)

/-- The entries between braces. What is not marked as a key has no value. -/
def readFlowEntries (isFirst : Bool) : (bound : Nat) → Reading (List (Node × Node))
  | 0 => throw misplaced
  | bound + 1 => do
    if ← skipIf (isClosing false) then return []
    if !isFirst then expect isComma
    match ← peek with
    | .flowMappingEnd => advance; return []
    | .key =>
      advance
      let entry ← readFlowEntry false bound
      return entry :: (← readFlowEntries false bound)
    | _ =>
      let key ← readNode .flow bound
      return (key, missing) :: (← readFlowEntries false bound)
end

/-! ### Documents -/

/-- The handles that every document has. -/
def usualHandles : List (List Char × List Char) := [(['!'], ['!']), (['!', '!'], tagStart)]

/-- What directives say. -/
structure Preamble where
  hasVersion : Bool := false
  handles : List (List Char × List Char) := []

/-- What the directives that come next say, after others. The version is one of
the first, and nothing is said twice. -/
def readDirectives (said : Preamble) : (bound : Nat) → Reading Preamble
  | 0 => throw misplaced
  | bound + 1 => do
    match ← peek with
    | .directive (.version major _) =>
      if said.hasVersion || major != 1 then throw misplaced
      advance
      readDirectives { said with hasVersion := true } bound
    | .directive (.handle name start) =>
      if (said.handles.lookup name).isSome then throw misplaced
      advance
      readDirectives { said with handles := (name, start) :: said.handles } bound
    | .directive .other => advance; readDirectives said bound
    | _ => return said

/-- Goes over the marks of documents' ends. -/
def skipEnds : (bound : Nat) → Reading Unit
  | 0 => throw misplaced
  | bound + 1 => do
    if let .documentEnd ← peek then
      advance
      skipEnds bound

/-- Goes over what stands before a document up to the mark of its beginning;
whether there is one. -/
def readStart (bound : Nat) : Reading Bool := do
  skipEnds bound
  if let .textEnd ← peek then return false
  let said ← readDirectives {} bound
  let .documentStart ← peek | throw misplaced
  advance
  modify fun source => { source with handles := said.handles ++ usualHandles }
  return true

/-- Whether a part shows that the document before it is empty. -/
def endsDocument : Token → Bool
  | .directive _ => true
  | .documentStart => true
  | .documentEnd => true
  | .textEnd => true
  | _ => false

/-- The document of a text, whose beginning may be marked. -/
def readDocument (bound : Nat) : Reading (Option Node) := do
  let first ← peek
  let isMarked :=
    match first with
    | .documentEnd => false
    | t => endsDocument t
  if !isMarked then
    modify fun source => { source with handles := usualHandles }
    return some (← readNode .block bound)
  if !(← readStart bound) then return none
  return some (← unlessEnded endsDocument (readNode .block bound))

/-- Goes to the end of a text, in which no other document follows. -/
def readEnd (bound : Nat) : Reading Unit := do
  if ← readStart bound then throw badReference

/-- **The document of a text**, if it holds one. -/
def ofTokens (tokens : List Token) : Except Fault (Option Node) :=
  let bound := 2 * tokens.length + 4
  let document : Reading (Option Node) := do
    let node ← readDocument bound
    if node.isSome then readEnd bound
    return node
  (document.run { tokens := tokens }).map (·.1)

end Node

end FixedWidth.Yaml
