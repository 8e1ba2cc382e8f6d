import FixedWidth.Copybook.Layout
import Mathlib.Data.List.Nodup

/-!
# Places in a layout

Where an item stands several times, or a group around it does, its copies are told apart by
their numbers: the one in each group around the item, the outermost first, and the item's
own. A thing that stands once has no number. Item and numbers together are a place
(`FixedWidth.Copybook.Place`).

The places of a layout are all different, as the paths to two copies part where the copies
do (`FixedWidth.Copybook.nodup_placesOf`). A place has a name, in which the numbers stand
behind the item's name with underscores. The name can be cut there again
(`FixedWidth.Copybook.Place.eq_of_name_eq`): there is no underscore in a number, so that 1
and 11 are not 11 and 1, and there must be none in the name of an item.
-/

namespace FixedWidth.Copybook

/-! ### Places and their names -/

/-- **The place of a slot**: its item, and the numbers of the copies that it is in. -/
structure Place where
  item : String
  /-- The numbers of the copies, the outermost first. -/
  copies : List Nat
deriving DecidableEq, Repr

/-- What the numbers of copies add to a name. -/
def pathSuffix : List Nat → String
  | [] => ""
  | i :: path => "_" ++ toString i ++ pathSuffix path

/-- The number of a copy among so many; the only one has none. -/
def copyPath (count index : Nat) : List Nat :=
  if 1 < count then [index] else []

/-- The name of a place. -/
def Place.name (place : Place) : String :=
  place.item ++ pathSuffix place.copies

variable {place place' : Place} {count i j : Nat}

theorem pathSuffix_append (path path' : List Nat) :
    pathSuffix (path ++ path') = pathSuffix path ++ pathSuffix path' := by
  induction path with
  | nil => exact String.empty_append.symm
  | cons i path ih =>
    rw [List.cons_append, pathSuffix, pathSuffix, ih]
    exact String.append_assoc.symm

theorem pathSuffix_copyPath (count i : Nat) :
    pathSuffix (copyPath count i) = copySuffix count i := by
  rw [copyPath, copySuffix]
  split
  · exact String.append_empty
  · rfl

/-- A name is the item's name and the numbers, with underscores between them. -/
theorem toList_name (place : Place) : place.name.toList =
    ['_'].intercalate (place.item.toList :: place.copies.map fun i => (toString i).toList) := by
  obtain ⟨item, copies⟩ := place
  rw [Place.name, String.toList_append]
  induction copies generalizing item with
  | nil => exact (List.append_nil _).trans List.intercalate_singleton.symm
  | cons i copies ih =>
    have hnumber : (pathSuffix (i :: copies)).toList =
        '_' :: ((toString i).toList ++ (pathSuffix copies).toList) := by
      rw [pathSuffix, String.toList_append, String.toList_append]
      rfl
    rw [List.map_cons, List.intercalate_cons_cons, ← ih, hnumber, List.append_assoc,
      List.singleton_append]

/-- No underscore stands in a number. -/
theorem underscore_notMem_toString (i : Nat) : '_' ∉ (toString i).toList := by
  intro hmem
  have hdigit : Char.isDigit '_' = true :=
    Nat.isDigit_of_mem_toDigits (by decide) (by decide) (Nat.toList_repr (n := i) ▸ hmem)
  cases hdigit

/-- **A name gives away its place**, where no underscore stands in the item's own name. -/
theorem Place.eq_of_name_eq (h : '_' ∉ place.item.toList) (h' : '_' ∉ place'.item.toList)
    (hname : place.name = place'.name) : place = place' := by
  -- cut at the underscores, a name falls into the item's name and the numbers
  have hparts : ∀ p : Place, '_' ∉ p.item.toList → p.name.toList.splitOn '_' =
      p.item.toList :: p.copies.map fun i => (toString i).toList := by
    intro p hp
    rw [toList_name]
    refine List.splitOn_intercalate '_' (fun part hpart => ?_) (List.cons_ne_nil _ _)
    rcases List.mem_cons.mp hpart with rfl | hpart
    · exact hp
    · obtain ⟨i, -, rfl⟩ := List.mem_map.mp hpart
      exact underscore_notMem_toString i
  have hsame := hparts place h
  rw [hname, hparts place' h'] at hsame
  obtain ⟨hitem, hcopies⟩ := List.cons.inj hsame
  have hnumbers : Function.Injective fun i : Nat => (toString i).toList :=
    Function.LeftInverse.injective (g := fun cs => Nat.ofDigitChars 10 cs 0) fun i => by
      change Nat.ofDigitChars 10 i.repr.toList 0 = i
      rw [Nat.toList_repr, Nat.ofDigitChars_toDigits (by decide) (by decide)]
  obtain ⟨item, copies⟩ := place
  obtain ⟨item', copies'⟩ := place'
  rw [Place.mk.injEq]
  exact ⟨(String.toList_inj.mp hitem).symm, (List.map_injective_iff.mpr hnumbers hcopies).symm⟩

/-! ### The places of a layout -/

mutual
/-- The places in a tree, which is itself in the given copies. -/
def Node.places (path : List Nat) : Node → List Place
  | .item _ field =>
    (List.range field.occurs).map fun i => ⟨field.name, path ++ copyPath field.occurs i⟩
  | .group _ count children =>
    (List.range count).flatMap fun i => placesOf (path ++ copyPath count i) children

/-- The places in trees in a row. -/
def placesOf (path : List Nat) : List Node → List Place
  | [] => []
  | node :: nodes => node.places path ++ placesOf path nodes
end

mutual
/-- **The items of a tree**, each once; a group that does not stand at all has none. -/
def Node.items : Node → List Field
  | .item _ field => [field]
  | .group _ count children => if count = 0 then [] else itemsOf children

/-- The items of trees in a row. -/
def itemsOf : List Node → List Field
  | [] => []
  | node :: nodes => node.items ++ itemsOf nodes
end

/-- Copies of one thing have different paths. -/
theorem eq_of_copyPath_eq (hi : i < count) (hj : j < count)
    (h : copyPath count i = copyPath count j) : i = j := by
  rw [copyPath, copyPath] at h
  split at h
  · exact (List.cons.inj h).1
  · omega

theorem length_copyPath : (copyPath count i).length = if 1 < count then 1 else 0 := by
  rw [copyPath]
  split <;> rfl

mutual
/-- A place of a tree is one of its items, behind the path to the tree. -/
theorem Node.exists_item_of_mem_places {path : List Nat} :
    ∀ {node : Node}, place ∈ node.places path →
      (∃ f ∈ node.items, f.name = place.item) ∧ path <+: place.copies
  | .item level field, h => by
    obtain ⟨i, -, rfl⟩ := List.mem_map.mp h
    exact ⟨⟨field, List.mem_singleton_self field, rfl⟩, List.prefix_append _ _⟩
  | .group level count children, h => by
    obtain ⟨i, hi, h⟩ := List.mem_flatMap.mp h
    obtain ⟨hitem, hpath⟩ := exists_item_of_mem_placesOf h
    have hcount : count ≠ 0 := Nat.ne_zero_of_lt (List.mem_range.mp hi)
    rw [Node.items, if_neg hcount]
    exact ⟨hitem, (List.prefix_append _ _).trans hpath⟩

theorem exists_item_of_mem_placesOf {path : List Nat} :
    ∀ {nodes : List Node}, place ∈ placesOf path nodes →
      (∃ f ∈ itemsOf nodes, f.name = place.item) ∧ path <+: place.copies
  | [], h => nomatch h
  | node :: nodes, h => by
    rcases List.mem_append.mp h with h | h
    · obtain ⟨⟨f, hf, hname⟩, hpath⟩ := Node.exists_item_of_mem_places h
      exact ⟨⟨f, List.mem_append_left _ hf, hname⟩, hpath⟩
    · obtain ⟨⟨f, hf, hname⟩, hpath⟩ := exists_item_of_mem_placesOf h
      exact ⟨⟨f, List.mem_append_right _ hf, hname⟩, hpath⟩
end

mutual
/-- **The places of a tree are all different.** -/
theorem Node.nodup_places {path : List Nat} :
    ∀ {node : Node}, (node.items.map Field.name).Nodup → (node.places path).Nodup
  | .item level field, _ => by
    refine List.Nodup.map_on (fun i hi j hj hplace => ?_) List.nodup_range
    have hpath := List.append_cancel_left (Place.mk.inj hplace).2
    exact eq_of_copyPath_eq (List.mem_range.mp hi) (List.mem_range.mp hj) hpath
  | .group level count children, h => by
    rw [Node.places, List.nodup_flatMap]
    refine ⟨fun i hi => ?_, List.nodup_range.pairwise_of_forall_ne fun i hi j hj hne => ?_⟩
    · rw [Node.items, if_neg (Nat.ne_zero_of_lt (List.mem_range.mp hi))] at h
      exact nodup_placesOf h
    · -- a place in two copies would be behind two paths of one length
      intro place hplace hplace'
      obtain ⟨-, hpath⟩ := exists_item_of_mem_placesOf hplace
      obtain ⟨-, hpath'⟩ := exists_item_of_mem_placesOf hplace'
      have hlength : (path ++ copyPath count i).length = (path ++ copyPath count j).length := by
        rw [List.length_append, List.length_append, length_copyPath, length_copyPath]
      have hbegins := List.prefix_of_prefix_length_le hpath hpath' (Nat.le_of_eq hlength)
      have hsame := List.append_cancel_left (hbegins.eq_of_length hlength)
      exact hne (eq_of_copyPath_eq (List.mem_range.mp hi) (List.mem_range.mp hj) hsame)

/-- **The places of trees in a row are all different**, where their items have names of
their own. -/
theorem nodup_placesOf {path : List Nat} :
    ∀ {nodes : List Node}, ((itemsOf nodes).map Field.name).Nodup → (placesOf path nodes).Nodup
  | [], _ => List.nodup_nil
  | node :: nodes, h => by
    rw [itemsOf, List.map_append, List.nodup_append] at h
    obtain ⟨hnode, hnodes, hapart⟩ := h
    rw [placesOf, List.nodup_append]
    refine ⟨Node.nodup_places hnode, nodup_placesOf hnodes, fun place hplace place' hplace' => ?_⟩
    obtain ⟨⟨f, hf, hname⟩, -⟩ := Node.exists_item_of_mem_places hplace
    obtain ⟨⟨f', hf', hname'⟩, -⟩ := exists_item_of_mem_placesOf hplace'
    have hne := hapart f.name (List.mem_map_of_mem hf) f'.name (List.mem_map_of_mem hf')
    rintro rfl
    exact hne (hname.trans hname'.symm)
end

end FixedWidth.Copybook
