import FixedWidth.Copybook.Line

/-!
# Layout of a record

The entries of a copybook form trees: a group holds the entries after it up to the
next one whose level is not greater. The trees are built entry by entry
(`enter`), with a stack of the groups that are still open. An entry closes the
groups that it is not below, and is put into the innermost of those that are left,
or beside the trees of the record if there is none.

A group that occurs several times stands for as many copies of what it holds.
`fields` writes the copies out, each name with the number of its copy, one for
each group around it, the outermost first. What is left is a list of elementary
fields, which can still occur several times themselves.
-/

namespace FixedWidth.Copybook

/-- An elementary field of a record. -/
structure Field where
  name : String
  picture : String
  usage : Option String
  /-- How often the field stands in a row. -/
  occurs : Nat
deriving DecidableEq, Repr

namespace Field

/-- The geometry that the field's picture describes. -/
def geometry (f : Field) : Except Fault Geometry :=
  Geometry.ofPicture f.picture

/-- The bytes of the field, where it occurs once. -/
def storageLength (f : Field) : Except Fault Nat := do
  (← f.geometry).storageLength f.usage

end Field

/-- A tree of a layout. -/
inductive Node where
  | item (level : Nat) (field : Field)
  | group (level occurs : Nat) (children : List Node)

/-- The level of a tree's first entry. -/
def Node.level : Node → Nat
  | item level _ => level
  | group level _ _ => level

/-! ### Building the trees -/

/-- A group that is open, with what has been put into it. -/
structure OpenGroup where
  level : Nat
  occurs : Nat
  nodes : List Node := []

/-- The group as a tree. -/
def OpenGroup.toNode (g : OpenGroup) : Node :=
  .group g.level g.occurs g.nodes

/-- What has been built of a layout. -/
structure Draft where
  /-- The trees of the record itself. -/
  nodes : List Node := []
  /-- The groups that are open, the innermost first. -/
  opened : List OpenGroup := []

/-- Closes the groups that have at least the given level, up to the first one that
has not. A group that is closed is put into the one around it, as `closed` is into
the innermost one. -/
def closeGroups (level : Nat) (nodes closed : List Node) : List OpenGroup → Draft
  | [] => ⟨nodes ++ closed, []⟩
  | g :: opened =>
    let g := { g with nodes := g.nodes ++ closed }
    if level ≤ g.level then closeGroups level nodes [g.toNode] opened else ⟨nodes, g :: opened⟩

namespace Draft

/-- Puts a tree into the innermost open group. -/
def put (node : Node) : Draft → Draft
  | ⟨nodes, []⟩ => ⟨nodes ++ [node], []⟩
  | ⟨nodes, g :: opened⟩ => ⟨nodes, { g with nodes := g.nodes ++ [node] } :: opened⟩

/-- Closes the groups that an entry of the given level is not below. -/
def close (draft : Draft) (level : Nat) : Draft :=
  closeGroups level draft.nodes [] draft.opened

/-- **Enters the next entry**, as a field of the innermost group that it is below, or
as a new group in that one. -/
def enter (draft : Draft) (e : Entry) : Draft :=
  let draft := draft.close e.level
  match e.clause with
  | some clause => draft.put (.item e.level ⟨e.name, clause.picture, clause.usage, e.occurs⟩)
  | none => { draft with opened := ⟨e.level, e.occurs, []⟩ :: draft.opened }

/-- The trees when all groups are closed. -/
def finish (draft : Draft) : List Node :=
  (draft.close 0).nodes

end Draft

/-- **The trees of a layout's entries.** -/
def layOut (es : List Entry) : List Node :=
  (es.foldl Draft.enter {}).finish

/-! ### Writing out the copies -/

/-- What a copy adds to the names in it; a thing that stands once adds nothing. -/
def copySuffix (count index : Nat) : String :=
  if 1 < count then "_" ++ toString index else ""

mutual
/-- The fields of a tree, with the copies of groups written out. -/
def Node.fields (suffix : String) : Node → List Field
  | .item _ field => [{ field with name := field.name ++ suffix }]
  | .group _ count children =>
    (List.range count).flatMap fun i => fieldsOf (suffix ++ copySuffix count i) children

/-- The fields of trees in a row. -/
def fieldsOf (suffix : String) : List Node → List Field
  | [] => []
  | node :: nodes => node.fields suffix ++ fieldsOf suffix nodes
end

/-- **The fields of the record that a copybook describes.** -/
def read (text : String) : List Field :=
  fieldsOf "" (layOut (entries text.toList))

end FixedWidth.Copybook
