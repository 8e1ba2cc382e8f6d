import FixedWidth.Fault

/-!
# The parts of a YAML text

A document as a row of parts: scalars, what can stand before them, marks, and the
beginnings and ends of collections. Collections between brackets begin and end
with marks of their own; those that are set off by indent begin and end where the
indent changes, which is found before the parts are put together.

A text that is cut into parts only up to some place ends with a part that says
why. Whoever reads the parts meets the fault when it gets there and not before,
so that of several faults the first one counts.
-/

namespace FixedWidth.Yaml

/-- An instruction before a document. -/
inductive Directive where
  /-- The version of the language. -/
  | version (major minor : Nat)
  /-- What a handle of tags stands for. -/
  | handle (name start : List Char)
  | other
deriving DecidableEq, Repr

/-- A part of a text. -/
inductive Token where
  | directive (d : Directive)
  | documentStart
  | documentEnd
  /-- The end of the text. -/
  | textEnd
  | sequenceStart
  | mappingStart
  /-- The end of a sequence or mapping that is set off by indent. -/
  | blockEnd
  | flowSequenceStart
  | flowSequenceEnd
  | flowMappingStart
  | flowMappingEnd
  /-- The dash before an item. -/
  | item
  /-- The comma between brackets. -/
  | comma
  /-- What comes next is a key; this may be known from the colon behind it. -/
  | key
  /-- What comes next is the value of a key. -/
  | value
  | alias (name : List Char)
  | anchor (name : List Char)
  | tag (handle : Option (List Char)) (suffix : List Char)
  /-- A scalar, plain or marked as text. -/
  | scalar (plain : Bool) (text : List Char)
  /-- The text cannot be cut into parts from here on. -/
  | flaw (fault : Fault)

end FixedWidth.Yaml
