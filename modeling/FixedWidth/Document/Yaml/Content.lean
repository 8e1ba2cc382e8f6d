import FixedWidth.Document.Yaml.Node
import FixedWidth.Document.Yaml.Scalar

/-!
# The value of a YAML document

What the tree of a document stands for. A scalar is read by its kind; a sequence
is a list, and a mapping a record or table. The entries of a mapping under the
merging key belong to the mapping around it, before its own, which take their
place where the key is the same; of several mappings that are merged the first
counts.

A document can have several faults. Those count first that lie nearer to the
root, where the contents of a collection lie one round deeper than the collection
does; of a round, the first in the order of the text.
-/

namespace FixedWidth.Yaml

/-- A fault with the round that it lies in. -/
structure Met where
  round : Nat
  fault : Fault

/-- What is read from a document, or the fault that counts. -/
abbrev Content := Except Met

namespace Content

/-- Two contents together. Of two faults the one nearer to the root counts, and
otherwise the first. -/
def both {α β : Type} (x : Content α) (y : Content β) : Content (α × β) :=
  match x, y with
  | .ok a, .ok b => .ok (a, b)
  | .error met, .ok _ => .error met
  | .ok _, .error met => .error met
  | .error first, .error second => .error (if second.round < first.round then second else first)

/-- One content before others. -/
def cons {α : Type} (x : Content α) (xs : Content (List α)) : Content (List α) :=
  (both x xs).map fun r => r.1 :: r.2

/-- Contents before others. -/
def append {α : Type} (xs ys : Content (List α)) : Content (List α) :=
  (both xs ys).map fun r => r.1 ++ r.2

end Content

namespace Node

/-- The kind of a part. -/
def tag : Node → Tag
  | scalar tag _ => tag
  | sequence tag _ => tag
  | mapping tag _ => tag

/-- Whether the part is a mapping. -/
def isMapping : Node → Bool
  | mapping _ _ => true
  | _ => false

/-! ### Merging -/

mutual
/-- Whether what stands under the merging key, among entries, can be merged. -/
def canMergeAll : List (Node × Node) → Bool
  | [] => true
  | (key, value) :: rest => (key.tag != .merge || canMerge value) && canMergeAll rest

/-- Whether a part can be merged: a mapping, or a sequence of mappings. -/
def canMerge : Node → Bool
  | scalar _ _ => false
  | mapping _ entries => canMergeAll entries
  | sequence _ items => canMergeItems items

/-- Whether the items of a sequence can be merged. -/
def canMergeItems : List Node → Bool
  | [] => true
  | item :: items => item.isMapping && canMerge item && canMergeItems items
end

/-! ### Values -/

/-- The fault of a part without a value in a round. -/
def unreadable {α : Type} (round : Nat) : Content α :=
  .error ⟨round, noValue⟩

mutual
/-- The characters of a part that is read as a scalar: a scalar's own, and of a
mapping those of its default value. -/
def characters? : Node → Option (List Char)
  | scalar _ cs => some cs
  | sequence _ _ => none
  | mapping _ entries => defaultCharacters? entries

/-- The characters of the default value among entries. -/
def defaultCharacters? : List (Node × Node) → Option (List Char)
  | [] => none
  | (key, value) :: rest =>
    if key.tag = .default then characters? value else defaultCharacters? rest
end

/-- Whether a part is of the kind of a collection. -/
def isCollection (node : Node) : Bool :=
  node.tag == .sequence || node.tag == .mapping

/-- The value of a part of a scalar's kind in a round. A moment is only read from
a scalar itself. -/
def scalarValue (round : Nat) (tag : Tag) (node : Node) : Content Value :=
  match node.characters?, node with
  | none, _ => unreadable round
  | some _, mapping .moment _ => .error ⟨round, .wrongKind⟩
  | some cs, _ => (readScalar tag cs).mapError fun fault => ⟨round, fault⟩

/-- The value of a key. Collections are no keys, and the sign for a default value
is a text there. -/
def keyValue (round : Nat) (key : Node) : Content Value :=
  if key.isCollection then unreadable round
  else scalarValue round (if key.tag = .default then .text else key.tag) key

mutual
/-- The value of a part in a round. Its being no collection, where its kind is
one, is only found when its contents are asked for. -/
def valueIn (round : Nat) : Node → Content Value
  | scalar tag cs =>
    if tag = .sequence || tag = .mapping then unreadable (round + 1)
    else scalarValue round tag (scalar tag cs)
  | sequence tag items =>
    if tag = .sequence then (itemsIn (round + 1) items).map .list
    else if tag = .mapping then unreadable (round + 1)
    else scalarValue round tag (sequence tag items)
  | mapping tag entries =>
    if tag = .mapping then
      if canMergeAll entries then
        let (merged, own) := entriesIn (round + 1) entries
        (merged.append own).map .ofPairs
      else unreadable (round + 1)
    else if tag = .sequence then unreadable (round + 1)
    else scalarValue round tag (mapping tag entries)

/-- The values of items. -/
def itemsIn (round : Nat) : List Node → Content (List Value)
  | [] => .ok []
  | item :: items => .cons (valueIn round item) (itemsIn round items)

/-- The merged entries of a mapping, and its own. -/
def entriesIn (round : Nat) :
    List (Node × Node) → Content (List (Value × Value)) × Content (List (Value × Value))
  | [] => (.ok [], .ok [])
  | (key, value) :: rest =>
    let (merged, own) := entriesIn round rest
    if key.tag = .merge then (.append (mergedIn round value) merged, own)
    else (merged, .cons (.both (keyValue round key) (valueIn round value)) own)

/-- The entries of a part that is merged. -/
def mergedIn (round : Nat) : Node → Content (List (Value × Value))
  | scalar _ _ => .ok []
  | mapping _ entries =>
    let (merged, own) := entriesIn round entries
    merged.append own
  | sequence _ items => mergedItemsIn round items

/-- The entries of mappings that are merged, those of the first at the end. -/
def mergedItemsIn (round : Nat) : List Node → Content (List (Value × Value))
  | [] => .ok []
  | item :: items => .append (mergedItemsIn round items) (mergedIn round item)
end

/-- **The value of a document.** -/
def value (node : Node) : Except Fault Value :=
  (node.valueIn 0).mapError (·.fault)

end Node

end FixedWidth.Yaml
