import FixedWidth.Proofs.Record.Names

/-!
# The size of a record

A copybook is a forest of groups and items, and its record a list of fields in which the
copies of groups are written out. The size of a record can be taken on either side. On the
list it is what `FixedWidth.Record.length` adds up, each field as often as it stands. On the
trees it is a recursion in which a group counts what it holds as often as it stands
(`FixedWidth.Copybook.Node.weight`), and the count of an item is taken at the item.

The two sides are the same for any weight of a field that does not depend on its name
(`FixedWidth.Copybook.sum_fieldsOf`), since names are all that differs between copies. With
the bytes of a field as its weight this is the length of a record, with a weight of one the
number of its slots (`FixedWidth.Record.length_and_slots_fieldsOf`).

A record has a length exactly when its items have one. What a group of no copies holds is not
asked for here. An item that stands no times is asked for its bytes and then takes none.
-/

namespace FixedWidth.Copybook

/-! ### The weight of a tree -/

mutual
/-- **The weight of a tree** whose fields have weights: each as often as it stands, and what
a group holds as often as the group stands. -/
def Node.weight (w : Field → Nat) : Node → Nat
  | .item _ field => w field * field.occurs
  | .group _ count children => count * weightOf w children

/-- The weight of trees in a row. -/
def weightOf (w : Field → Nat) : List Node → Nat
  | [] => 0
  | node :: nodes => node.weight w + weightOf w nodes
end

variable {w : Field → Nat} {p : Field → Prop}

/-- Trees in a row weigh what each of them weighs. -/
theorem weightOf_eq_sum (w : Field → Nat) (nodes : List Node) :
    weightOf w nodes = (nodes.map (Node.weight w)).sum := by
  induction nodes with
  | nil => rfl
  | cons node nodes ih => rw [weightOf, ih, List.map_cons, List.sum_cons]

mutual
theorem Node.sum_fields (hw : ∀ (f : Field) (name : String), w { f with name := name } = w f)
    {suffix : String} : ∀ {node : Node},
      ((node.fields suffix).map fun f => w f * f.occurs).sum = node.weight w
  | .item level field => by
    rw [Node.fields, Node.weight, List.map_singleton, List.sum_singleton, hw]
  | .group level count children => by
    -- the copies of what the group holds differ in their names alone
    have hcopies : ∀ i ∈ List.range count,
        (List.sum ∘ fun i => (fieldsOf (suffix ++ copySuffix count i) children).map fun f =>
          w f * f.occurs) i = weightOf w children := fun i _ => sum_fieldsOf hw
    rw [Node.fields, Node.weight, List.map_flatMap, List.flatMap_def, List.sum_flatten,
      List.map_map, List.map_congr_left hcopies, List.map_const', List.sum_replicate_nat,
      List.length_range]

/-- **The fields of a record weigh what its trees weigh**, where the name of a field has no
weight. -/
theorem sum_fieldsOf (hw : ∀ (f : Field) (name : String), w { f with name := name } = w f)
    {suffix : String} : ∀ {nodes : List Node},
      ((fieldsOf suffix nodes).map fun f => w f * f.occurs).sum = weightOf w nodes
  | [] => rfl
  | node :: nodes => by
    rw [fieldsOf, weightOf, List.map_append, List.sum_append, Node.sum_fields hw, sum_fieldsOf hw]
end

/-! ### What holds of the items -/

mutual
theorem Node.forall_fields_iff (hp : ∀ (f : Field) (name : String), p { f with name := name } ↔ p f)
    {suffix : String} : ∀ {node : Node}, (∀ f ∈ node.fields suffix, p f) ↔ ∀ f ∈ node.items, p f
  | .item level field => by
    rw [Node.fields, Node.items, List.forall_mem_singleton, List.forall_mem_singleton, hp]
  | .group level count children => by
    have hcopies : (∀ f ∈ (Node.group level count children).fields suffix, p f) ↔
        ∀ i ∈ List.range count, ∀ f ∈ itemsOf children, p f := by
      rw [Node.fields, List.forall_mem_flatMap]
      exact forall₂_congr fun i _ => forall_fieldsOf_iff hp
    rw [hcopies, Node.items]
    by_cases hcount : count = 0
    · subst hcount
      exact iff_of_true (fun i hi => nomatch hi) fun f hf => nomatch hf
    · rw [if_neg hcount]
      exact ⟨fun h => h 0 (List.mem_range.mpr (Nat.pos_of_ne_zero hcount)), fun h _ _ => h⟩

/-- **What holds of the fields of a record holds of its items**, and the other way round,
unless it is said of their names. -/
theorem forall_fieldsOf_iff (hp : ∀ (f : Field) (name : String), p { f with name := name } ↔ p f)
    {suffix : String} : ∀ {nodes : List Node},
      (∀ f ∈ fieldsOf suffix nodes, p f) ↔ ∀ f ∈ itemsOf nodes, p f
  | [] => Iff.rfl
  | node :: nodes => by
    rw [fieldsOf, itemsOf, List.forall_mem_append, List.forall_mem_append,
      Node.forall_fields_iff hp, forall_fieldsOf_iff hp]
end

end FixedWidth.Copybook

namespace FixedWidth.Record

open Copybook

variable {fields : List Field} {total : Nat}

/-- **When a list of fields has a length, and which.** -/
theorem length_eq_ok_iff : length fields = .ok total ↔
    (∀ f ∈ fields, ∃ width, f.storageLength = .ok width) ∧
      total = (fields.map fun f => slotWidth f * f.occurs).sum := by
  induction fields generalizing total with
  | nil =>
    rw [length, List.map_nil, List.sum_nil]
    exact ⟨fun h => ⟨List.forall_mem_nil _, (Except.ok.inj h).symm⟩,
      fun h => congrArg Except.ok h.2.symm⟩
  | cons f fields ih =>
    rw [length, List.forall_mem_cons, List.map_cons, List.sum_cons]
    constructor
    · intro h
      obtain ⟨width, hwidth, h⟩ := bind_eq_ok_iff.mp h
      obtain ⟨rest, hrest, h⟩ := bind_eq_ok_iff.mp h
      obtain ⟨hfields, rfl⟩ := ih.mp hrest
      rw [slotWidth_of_ok hwidth]
      exact ⟨⟨⟨width, hwidth⟩, hfields⟩, (Except.ok.inj h).symm⟩
    · rintro ⟨⟨⟨width, hwidth⟩, hfields⟩, rfl⟩
      rw [hwidth, ok_bind, ih.mpr ⟨hfields, rfl⟩, ok_bind, slotWidth_of_ok hwidth]
      rfl

/-- **The size of a record is that of its trees.** However groups stand in groups, and however
often, the length of the record is the bytes of its trees, and there is a slot for each time
that a field stands. -/
theorem length_and_slots_fieldsOf (suffix : String) (nodes : List Node) :
    (∀ total, length (fieldsOf suffix nodes) = .ok total ↔
      (∀ f ∈ itemsOf nodes, ∃ width, f.storageLength = .ok width) ∧
        total = (nodes.map (Node.weight slotWidth)).sum) ∧
    (slots (fieldsOf suffix nodes)).length = (nodes.map (Node.weight fun _ => 1)).sum := by
  refine ⟨fun total => ?_, ?_⟩
  · rw [length_eq_ok_iff, forall_fieldsOf_iff fun _ _ => Iff.rfl, sum_fieldsOf fun _ _ => rfl,
      weightOf_eq_sum]
  · have hcount := @sum_fieldsOf (fun _ => 1) (fun _ _ => rfl) suffix nodes
    simp only [Nat.one_mul] at hcount
    rw [length_slots, ← weightOf_eq_sum, ← hcount]

/-- Two times a character and three times two packed numbers of three bytes. -/
example : length (fieldsOf "" [.group 1 2 [.item 5 ⟨"CODE", "X", none, 1⟩,
    .item 5 ⟨"SPARE", "X(8)", none, 0⟩,
    .group 5 3 [.item 10 ⟨"RATE", "S9(3)V99", some "COMP-3", 2⟩]]]) = .ok 38 := by
  decide +kernel

end FixedWidth.Record
