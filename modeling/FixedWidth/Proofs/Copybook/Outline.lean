import FixedWidth.Proofs.Copybook.Forest
import FixedWidth.Proofs.Copybook.Overlay

/-!
# The outline of a copybook

The levels of a copybook make an outline: an entry belongs to the last group before it
that it stands below. This is said entry by entry (`FixedWidth.Copybook.parent?`), and
the fields of the record are then those of the entries without a parent, a group standing
for as many copies of what it holds (`FixedWidth.Copybook.expansion`).

A layout is built another way, with a stack, and what comes out is the forest in which each
group takes the trees behind it whose levels are greater
(`FixedWidth.Copybook.layOut_eq_forest`). The outline and the forest agree
(`FixedWidth.Copybook.fieldsOf_forest_eq_expansion`). What carries the proof is a row of
entries under one parent (`FixedWidth.Copybook.Stretch`): if its first entry is a field,
the rest is such a row again, and if it is a group, the entries below the group are one
and those behind them are another.

`FixedWidth.Copybook.read_eq_expansion` says it of a copybook's text, line by line.
-/

namespace FixedWidth.Copybook

variable {rows before block after : List Entry} {e : Entry} {parent : Option Nat} {i j n : Nat}

/-! ### A group and what is below it -/

section Group

/-! A group, the entries behind it that have greater levels, and what comes after these. -/

variable (hblock : ∀ b ∈ block, e.level < b.level)

theorem levelAt_behind (k : Nat) :
    levelAt (before ++ e :: after) (before.length + k + 1) = levelAt after k := by
  rw [levelAt, levelAt, List.getElem?_append_right (by omega)]
  simp [Nat.add_assoc]

include hblock

theorem lt_levelAt_block (hi : before.length < i) (hblk : i ≤ before.length + block.length) :
    e.level < levelAt (before ++ e :: (block ++ after)) i := by
  obtain ⟨k, rfl⟩ := Nat.exists_eq_add_of_lt hi
  have hk : k < block.length := by omega
  rw [levelAt_behind, levelAt, List.getElem?_append_left hk, List.getElem?_eq_getElem hk]
  exact hblock _ (List.getElem_mem hk)

/-- The entries of greater levels stand below the group. -/
theorem below_group (hj : before.length < j) (hblk : j ≤ before.length + block.length) :
    Below (before ++ e :: (block ++ after)) before.length j := by
  refine ⟨hj, fun k hk hlt => ?_⟩
  rw [levelAt_length]
  exact lt_levelAt_block hblock hlt (by omega)

/-- With the first entry whose level is not greater, the group and all that was opened
in it are closed. -/
theorem not_below_of_after (hafter : ∀ a ∈ after.head?, a.level ≤ e.level)
    (hi : before.length ≤ i) (hblk : i ≤ before.length + block.length)
    (hj : before.length + block.length < j) :
    ¬Below (before ++ e :: (block ++ after)) i j := by
  intro hbelow
  have hlt := hbelow.2 (before.length + block.length + 1) hj (by omega)
  have hclosed : levelAt (before ++ e :: (block ++ after)) (before.length + block.length + 1) ≤
      e.level := by
    rw [levelAt_behind, levelAt, List.getElem?_append_right (Nat.le_refl _), Nat.sub_self,
      ← List.head?_eq_getElem?]
    cases after with
    | nil => exact Nat.zero_le _
    | cons a after => exact hafter a rfl
  have hopen : e.level ≤ levelAt (before ++ e :: (block ++ after)) i := by
    rcases Nat.eq_or_lt_of_le hi with rfl | hi
    · exact Nat.le_of_eq levelAt_length.symm
    · exact Nat.le_of_lt (lt_levelAt_block hblock hi hblk)
  omega

end Group

/-! ### Parents and children -/

/-- **Whether one entry is a group around another.** -/
def Encloses (rows : List Entry) (i j : Nat) : Prop :=
  rows[i]?.any (·.clause.isNone) ∧ Below rows i j

instance (rows : List Entry) (i j : Nat) : Decidable (Encloses rows i j) := by
  unfold Encloses
  infer_instance

/-- The last of the first `n` entries that is a group around the entry in place `j`. -/
def lastEnclosing? (rows : List Entry) (j n : Nat) : Option Nat :=
  (List.range n).reverse.find? fun i => Encloses rows i j

/-- **The parent of an entry**: the last group around it. -/
def parent? (rows : List Entry) (j : Nat) : Option Nat :=
  lastEnclosing? rows j j

/-- The entries with the given parent, in order, each with its place. -/
def children (rows : List Entry) (parent : Option Nat) : List (Entry × Nat) :=
  rows.zipIdx.filter fun row => parent? rows row.2 = parent

theorem lastEnclosing?_succ : lastEnclosing? rows j (n + 1) =
    if Encloses rows n j then some n else lastEnclosing? rows j n := by
  rw [lastEnclosing?, List.range_succ, List.reverse_append, List.reverse_singleton,
    List.singleton_append, List.find?_cons]
  by_cases h : Encloses rows n j
  · simp [h]
  · simp [h, lastEnclosing?]

theorem lastEnclosing?_eq_some_iff : lastEnclosing? rows j n = some i ↔
    i < n ∧ Encloses rows i j ∧ ∀ k < n, Encloses rows k j → k ≤ i := by
  induction n with
  | zero => simp [lastEnclosing?]
  | succ n ih =>
    rw [lastEnclosing?_succ]
    split
    next h =>
      rw [Option.some.injEq]
      constructor
      · rintro rfl
        exact ⟨Nat.lt_succ_self n, h, fun k hk _ => Nat.le_of_lt_succ hk⟩
      · rintro ⟨hi, -, hlast⟩
        have := hlast n (Nat.lt_succ_self n) h
        omega
    next h =>
      rw [ih]
      constructor
      · rintro ⟨hi, henc, hlast⟩
        refine ⟨by omega, henc, fun k hk hk' => ?_⟩
        rcases Nat.lt_succ_iff_lt_or_eq.mp hk with hk | rfl
        · exact hlast k hk hk'
        · exact absurd hk' h
      · rintro ⟨hi, henc, hlast⟩
        have hne : i ≠ n := fun hin => h (hin ▸ henc)
        exact ⟨by omega, henc, fun k hk => hlast k (by omega)⟩

/-- Entries that are no groups around another one are not its parent. -/
theorem lastEnclosing?_eq_of_le {m : Nat} (hle : n ≤ m)
    (h : ∀ i, n ≤ i → i < m → ¬Encloses rows i j) :
    lastEnclosing? rows j m = lastEnclosing? rows j n := by
  induction m with
  | zero => rw [Nat.le_zero.mp hle]
  | succ m ih =>
    rcases Nat.le_succ_iff.mp hle with hle | rfl
    · rw [lastEnclosing?_succ, if_neg (h m hle (Nat.lt_succ_self m)),
        ih hle fun i hi hm => h i hi (by omega)]
    · rfl

/-- **An entry's parent is the last group before it that it stands below.** -/
theorem parent?_eq_some_iff :
    parent? rows j = some i ↔ Encloses rows i j ∧ ∀ k, Encloses rows k j → k ≤ i := by
  rw [parent?, lastEnclosing?_eq_some_iff]
  constructor
  · rintro ⟨-, henc, hlast⟩
    exact ⟨henc, fun k hk => hlast k hk.2.1 hk⟩
  · rintro ⟨henc, hlast⟩
    exact ⟨henc.2.1, henc, fun k _ => hlast k⟩

/-! ### The fields of the outline -/

/-- What an entry stands for: a field, or as many copies of what a group holds. -/
def Entry.expand (e : Entry) (suffix : String) (held : String → List Field) : List Field :=
  match e.clause with
  | some clause => [⟨e.name ++ suffix, clause.picture, clause.usage, e.occurs⟩]
  | none => (List.range e.occurs).flatMap fun copy => held (suffix ++ copySuffix e.occurs copy)

/-- **The fields below a parent, in order and with the copies of groups written out.** -/
def expansion (rows : List Entry) (parent : Option Nat) (suffix : String) : List Field :=
  (children rows parent).attach.flatMap fun ⟨row, _⟩ =>
    row.1.expand suffix fun suffix => expansion rows (some row.2) suffix
termination_by rows.length - parent.elim 0 (· + 1)
decreasing_by
  rename_i hrow
  obtain ⟨hrow, hparent⟩ := List.mem_filter.mp hrow
  have hlt := List.snd_lt_of_mem_zipIdx hrow
  simp only [decide_eq_true_eq] at hparent
  simp only [Option.elim_some]
  cases parent with
  | none => simp only [Option.elim_none]; omega
  | some i =>
    have := (parent?_eq_some_iff.mp hparent).1.2.1
    simp only [Option.elim_some]; omega

/-- An entry holds the fields of the entries whose parent it is. -/
theorem expansion_eq (parent : Option Nat) (suffix : String) : expansion rows parent suffix =
    (children rows parent).flatMap fun row => row.1.expand suffix (expansion rows (some row.2)) := by
  conv =>
    rhs
    rw [← List.attach_map_subtype_val (children rows parent), List.flatMap_map]
  rw [expansion]

/-! ### The forest -/

/-- The trees of entries have levels of the entries. -/
theorem exists_level_of_mem_forest {rows : List Entry} {node : Node} (h : node ∈ forest rows) :
    ∃ e ∈ rows, node.level = e.level := by
  induction rows with
  | nil => cases h
  | cons e rows ih =>
    rw [forest, List.foldr_cons, attach] at h
    split at h
    · rcases List.mem_cons.mp h with rfl | h
      · exact ⟨e, List.mem_cons_self .., rfl⟩
      · obtain ⟨e', he', hlevel⟩ := ih h
        exact ⟨e', List.mem_cons_of_mem _ he', hlevel⟩
    · rcases List.mem_cons.mp h with rfl | h
      · exact ⟨e, List.mem_cons_self .., rfl⟩
      · obtain ⟨e', he', hlevel⟩ := ih ((List.dropWhile_sublist _).subset h)
        exact ⟨e', List.mem_cons_of_mem _ he', hlevel⟩

/-- The first tree has the level of the first entry. -/
theorem level_le_of_head?_forest {level : Nat} (h : ∀ a ∈ after.head?, a.level ≤ level) :
    ∀ node ∈ (forest after).head?, node.level ≤ level := by
  cases after with
  | nil => exact fun node hnode => absurd hnode (by simp [forest])
  | cons a after =>
    have hlevel : (forest (a :: after)).head?.map Node.level = some a.level := by
      rw [forest, List.foldr_cons, attach]
      split <;> rfl
    intro node hnode
    rw [hnode, Option.map_some, Option.some.injEq] at hlevel
    rw [hlevel]
    exact h a rfl

theorem takeWhile_append_of_head {α : Type} {p : α → Bool} {xs ys : List α}
    (h : ∀ y ∈ ys.head?, p y = false) : (xs ++ ys).takeWhile p = xs.takeWhile p := by
  induction xs with
  | nil => cases ys with
    | nil => rfl
    | cons y ys => simp [h y rfl]
  | cons x xs ih => by_cases hx : p x = true <;> simp [hx, ih]

theorem dropWhile_append_of_head {α : Type} {p : α → Bool} {xs ys : List α}
    (h : ∀ y ∈ ys.head?, p y = false) : (xs ++ ys).dropWhile p = xs.dropWhile p ++ ys := by
  induction xs with
  | nil => cases ys with
    | nil => rfl
    | cons y ys => simp [h y rfl]
  | cons x xs ih => by_cases hx : p x = true <;> simp [hx, ih]

/-- A row of trees ends for a group where another row begins with a level that is not
greater. -/
theorem attach_append {nodes nodes' : List Node}
    (h : ∀ node ∈ nodes'.head?, node.level ≤ e.level) :
    attach e (nodes ++ nodes') = attach e nodes ++ nodes' := by
  have hhead : ∀ node ∈ nodes'.head?, decide (e.level < node.level) = false := fun node hnode =>
    decide_eq_false (Nat.not_lt.mpr (h node hnode))
  unfold attach
  split
  · rfl
  · rw [takeWhile_append_of_head hhead, dropWhile_append_of_head hhead, List.cons_append]

/-- **The trees of two rows of entries**, of which the second begins with a level that
closes all groups of the first. -/
theorem forest_append (h : ∀ b ∈ block, ∀ a ∈ after.head?, a.level ≤ b.level) :
    forest (block ++ after) = forest block ++ forest after := by
  induction block with
  | nil => rfl
  | cons b block ih =>
    obtain ⟨hb, hblock⟩ := List.forall_mem_cons.mp h
    change attach b (forest (block ++ after)) = attach b (forest block) ++ forest after
    rw [ih hblock, attach_append (level_le_of_head?_forest hb)]

/-- **The tree of a group holds the trees of the entries of greater levels behind it.** -/
theorem forest_cons_group (he : e.clause = none) (hblock : ∀ b ∈ block, e.level < b.level)
    (hafter : ∀ a ∈ after.head?, a.level ≤ e.level) :
    forest (e :: (block ++ after)) = .group e.level e.occurs (forest block) :: forest after := by
  have htrees : ∀ node ∈ forest block, decide (e.level < node.level) = true := by
    intro node hnode
    obtain ⟨b, hb, hlevel⟩ := exists_level_of_mem_forest hnode
    rw [hlevel]
    exact decide_eq_true (hblock b hb)
  have hsplit : forest (block ++ after) = forest block ++ forest after :=
    forest_append fun b hb a ha => Nat.le_trans (hafter a ha) (Nat.le_of_lt (hblock b hb))
  change attach e (forest (block ++ after)) = _
  rw [hsplit, attach_append (level_le_of_head?_forest hafter), attach, he]
  simp only [List.takeWhile_eq_self_iff.mpr htrees, List.dropWhile_eq_nil_iff.mpr htrees,
    List.singleton_append]

theorem fieldsOf_forest_field {clause : Clause} (he : e.clause = some clause)
    (entries : List Entry) (suffix : String) (held : String → List Field) :
    fieldsOf suffix (forest (e :: entries)) =
      e.expand suffix held ++ fieldsOf suffix (forest entries) := by
  have htree : forest (e :: entries) =
      .item e.level ⟨e.name, clause.picture, clause.usage, e.occurs⟩ :: forest entries := by
    rw [forest, List.foldr_cons, attach, he]
    rfl
  rw [htree, fieldsOf, Node.fields, Entry.expand, he]

theorem fieldsOf_forest_group (he : e.clause = none) (hblock : ∀ b ∈ block, e.level < b.level)
    (hafter : ∀ a ∈ after.head?, a.level ≤ e.level) (suffix : String) :
    fieldsOf suffix (forest (e :: (block ++ after))) =
      (e.expand suffix fun suffix => fieldsOf suffix (forest block)) ++
        fieldsOf suffix (forest after) := by
  rw [forest_cons_group he hblock hafter, fieldsOf, Node.fields, Entry.expand, he]

/-! ### The outline and the forest -/

/-- Behind a group come the entries of greater levels, and then others. -/
theorem exists_block (e : Entry) (entries : List Entry) : ∃ block after,
    entries = block ++ after ∧ (∀ b ∈ block, e.level < b.level) ∧
      ∀ a ∈ after.head?, a.level ≤ e.level := by
  refine ⟨entries.takeWhile fun b => e.level < b.level, entries.dropWhile fun b => e.level < b.level,
    List.takeWhile_append_dropWhile.symm, fun b hb => ?_, fun a ha => ?_⟩
  · simpa using List.mem_takeWhile_imp hb
  · have hstop := List.head?_dropWhile_not (fun b : Entry => decide (e.level < b.level)) entries
    rw [ha] at hstop
    simpa using hstop

/-- The parent of an entry is not before a group around it. -/
theorem exists_parent?_of_encloses (h : Encloses rows i j) :
    ∃ k, parent? rows j = some k ∧ i ≤ k := by
  cases hparent : parent? rows j with
  | none =>
    have hnone := List.find?_eq_none.mp hparent i (by simpa using h.2.1)
    simp [h] at hnone
  | some k => exact ⟨k, rfl, (parent?_eq_some_iff.mp hparent).2 i h⟩

/-- Entries none of which has the parent add nothing to its children. -/
theorem filter_parent?_eq_nil {entries : List Entry}
    (h : ∀ j, n ≤ j → j < n + entries.length → parent? rows j ≠ parent) :
    (entries.zipIdx n).filter (fun row => parent? rows row.2 = parent) = [] := by
  rw [List.filter_eq_nil_iff]
  intro row hrow
  have hlt := List.snd_lt_of_mem_zipIdx hrow
  simpa using h row.2 (List.le_snd_of_mem_zipIdx hrow) (by omega)

section Group

variable (hrows : rows = before ++ e :: (block ++ after))
  (hblock : ∀ b ∈ block, e.level < b.level) (hafter : ∀ a ∈ after.head?, a.level ≤ e.level)

include hrows hblock

theorem encloses_group (he : e.clause = none) (hj : before.length < j)
    (hblk : j ≤ before.length + block.length) : Encloses rows before.length j := by
  subst hrows
  exact ⟨by simp [he], below_group hblock hj hblk⟩

include hafter

theorem not_encloses_of_after (hi : before.length ≤ i) (hblk : i ≤ before.length + block.length)
    (hj : before.length + block.length < j) : ¬Encloses rows i j := by
  subst hrows
  exact fun henc => not_below_of_after hblock hafter hi hblk hj henc.2

/-- The entries whose parent is a group are among those of greater levels behind it. -/
theorem children_group : children rows (some before.length) =
    (block.zipIdx (before.length + 1)).filter fun row =>
      parent? rows row.2 = some before.length := by
  have hclosed : ∀ j, before.length + block.length < j → parent? rows j ≠ some before.length :=
    fun j hj hparent => not_encloses_of_after hrows hblock hafter (Nat.le_refl _)
      (Nat.le_add_right _ _) hj (parent?_eq_some_iff.mp hparent).1
  have hopened : ∀ j, j ≤ before.length → parent? rows j ≠ some before.length :=
    fun j hj hparent => Nat.not_lt.mpr hj (parent?_eq_some_iff.mp hparent).1.2.1
  have hzip : rows.zipIdx = before.zipIdx 0 ++ (e, before.length) ::
      (block.zipIdx (before.length + 1) ++ after.zipIdx (before.length + 1 + block.length)) := by
    rw [hrows, List.zipIdx_append, Nat.zero_add, List.zipIdx_cons, List.zipIdx_append]
  have hbefore : (before.zipIdx 0).filter (fun row => parent? rows row.2 = some before.length) = [] :=
    filter_parent?_eq_nil fun j _ hj => hopened j (by omega)
  have hbehind : (after.zipIdx (before.length + 1 + block.length)).filter
      (fun row => parent? rows row.2 = some before.length) = [] :=
    filter_parent?_eq_nil fun j hj _ => hclosed j (by omega)
  rw [children, hzip, List.filter_append, hbefore, List.nil_append,
    List.filter_cons_of_neg (by simpa using hopened _ (Nat.le_refl _)), List.filter_append, hbehind,
    List.append_nil]

end Group

/-- **A stretch of entries under one parent**: of the entries before it, the last group
around any of its entries is the same, and what comes behind it begins with a level that
closes all its groups. -/
structure Stretch (rows before entries after : List Entry) (parent : Option Nat) : Prop where
  rows_eq : rows = before ++ (entries ++ after)
  closed : ∀ a ∈ after.head?, ∀ b ∈ entries, a.level ≤ b.level
  parent_eq : ∀ j, before.length ≤ j → j < before.length + entries.length →
    lastEnclosing? rows j before.length = parent

namespace Stretch

variable {entries rest : List Entry}

/-- The first entry of a stretch has the parent of the stretch. -/
theorem parent?_head (h : Stretch rows before (e :: entries) after parent) :
    parent? rows before.length = parent :=
  h.parent_eq _ (Nat.le_refl _) (by simp)

/-- A field is around nothing, so that the stretch goes on behind it. -/
theorem tail {clause : Clause} (h : Stretch rows before (e :: entries) after parent)
    (he : e.clause = some clause) : Stretch rows (before ++ [e]) entries after parent where
  rows_eq := by simp [h.rows_eq]
  closed a ha b hb := h.closed a ha b (List.mem_cons_of_mem _ hb)
  parent_eq j hj hlt := by
    have hnot : ¬Encloses rows before.length j := fun henc => by
      simpa [h.rows_eq, he] using henc.1
    rw [List.length_append, List.length_singleton] at hj hlt ⊢
    rw [lastEnclosing?_succ, if_neg hnot]
    exact h.parent_eq j (by omega) (by rw [List.length_cons]; omega)

section Group

variable (h : Stretch rows before (e :: (block ++ rest)) after parent)
  (hblock : ∀ b ∈ block, e.level < b.level) (hrest : ∀ r ∈ rest.head?, r.level ≤ e.level)

include h

theorem rows_eq_group : rows = before ++ e :: (block ++ (rest ++ after)) := by
  simp [h.rows_eq]

include hrest

/-- What comes behind a group's entries closes the group. -/
theorem head_le : ∀ a ∈ (rest ++ after).head?, a.level ≤ e.level := by
  cases rest with
  | nil => exact fun a ha => h.closed a ha e (List.mem_cons_self ..)
  | cons r rest => exact hrest

include hblock

/-- The entries of a group are a stretch under it. -/
theorem held (he : e.clause = none) :
    Stretch rows (before ++ [e]) block (rest ++ after) (some before.length) where
  rows_eq := by simp [h.rows_eq]
  closed a ha b hb := Nat.le_trans (h.head_le hrest a ha) (Nat.le_of_lt (hblock b hb))
  parent_eq j hj hlt := by
    rw [List.length_append, List.length_singleton] at hj hlt ⊢
    rw [lastEnclosing?_succ,
      if_pos (encloses_group h.rows_eq_group hblock he (by omega) (by omega))]

/-- Behind the entries of a group the stretch goes on. -/
theorem behind : Stretch rows (before ++ e :: block) rest after parent where
  rows_eq := by simp [h.rows_eq]
  closed a ha b hb := h.closed a ha b (by simp [hb])
  parent_eq j hj hlt := by
    rw [List.length_append, List.length_cons] at hj hlt ⊢
    have hskip : lastEnclosing? rows j (before.length + (block.length + 1)) =
        lastEnclosing? rows j before.length :=
      lastEnclosing?_eq_of_le (Nat.le_add_right _ _) fun i hi hlt =>
        not_encloses_of_after h.rows_eq_group hblock (h.head_le hrest) hi (by omega) (by omega)
    rw [hskip]
    exact h.parent_eq j (by omega) (by rw [List.length_cons, List.length_append]; omega)

omit hrest in
/-- No entry of a group has the parent of the group. -/
theorem filter_held_eq_nil (he : e.clause = none) :
    (block.zipIdx (before.length + 1)).filter (fun row => parent? rows row.2 = parent) = [] := by
  refine filter_parent?_eq_nil fun j hj hlt hparent => ?_
  obtain ⟨k, hk, hle⟩ := exists_parent?_of_encloses
    (encloses_group h.rows_eq_group hblock he (show before.length < j by omega) (by omega))
  -- the parent of the group is before it, and that of an entry of the group is not
  have hgroup : parent? rows before.length = some k := h.parent?_head.trans (hparent.symm.trans hk)
  have := (parent?_eq_some_iff.mp hgroup).1.2.1
  omega

end Group

/-- **A stretch stands for the same fields by its parents and by its forest.** -/
theorem flatMap_expand (h : Stretch rows before entries after parent) (suffix : String) :
    ((entries.zipIdx before.length).filter fun row => parent? rows row.2 = parent).flatMap
        (fun row => row.1.expand suffix (expansion rows (some row.2))) =
      fieldsOf suffix (forest entries) := by
  induction hn : entries.length using Nat.strongRecOn
    generalizing before entries after parent suffix with
  | _ n ih =>
  cases entries with
  | nil => rfl
  | cons e entries =>
    rw [List.zipIdx_cons, List.filter_cons_of_pos (by simpa using h.parent?_head),
      List.flatMap_cons]
    rw [List.length_cons] at hn
    cases he : e.clause with
    | some clause =>
      have hnext := ih entries.length (by omega) (h.tail he) suffix rfl
      rw [List.length_append, List.length_singleton] at hnext
      rw [hnext, fieldsOf_forest_field he]
    | none =>
      obtain ⟨block, rest, rfl, hblock, hrest⟩ := exists_block e entries
      rw [List.length_append] at hn
      have hheld : ∀ suffix, expansion rows (some before.length) suffix =
          fieldsOf suffix (forest block) := fun suffix => by
        have hnext := ih block.length (by omega) (h.held hblock hrest he) suffix rfl
        rw [List.length_append, List.length_singleton] at hnext
        rw [expansion_eq, children_group h.rows_eq_group hblock (h.head_le hrest), hnext]
      have hbehind := ih rest.length (by omega) (h.behind hblock hrest) suffix rfl
      rw [List.length_append, List.length_cons, Nat.add_comm block.length, ← Nat.add_assoc]
        at hbehind
      rw [List.zipIdx_append, List.filter_append, h.filter_held_eq_nil hblock he, List.nil_append,
        hbehind, fieldsOf_forest_group he hblock hrest]
      simp only [Entry.expand, he, hheld]

end Stretch

/-- **The forest of entries stands for the fields of their outline.** -/
theorem fieldsOf_forest_eq_expansion (rows : List Entry) (suffix : String) :
    fieldsOf suffix (forest rows) = expansion rows none suffix := by
  have hwhole : Stretch rows [] rows [] none :=
    ⟨(List.append_nil _).symm, fun a ha => (nomatch ha), fun j _ _ => rfl⟩
  rw [expansion_eq, children]
  exact (hwhole.flatMap_expand suffix).symm

/-- **The fields of a copybook are those of its outline.** Its entries are what its
lines say, without those that lie over others and what stands below these; and the
fields are those of the entries without a parent, in order, each name with the numbers
of the copies around it, the outermost first. -/
theorem read_eq_expansion (text : String) :
    (∀ line e, readLine? line = some e ↔ Says line e) ∧
      (∀ rows i j, parent? rows j = some i ↔
        Encloses rows i j ∧ ∀ k, Encloses rows k j → k ≤ i) ∧
      read text = expansion (stored ((Text.lines text.toList).filterMap readLine?)) none "" :=
  ⟨fun _ _ => readLine?_eq_some_iff, fun _ _ _ => parent?_eq_some_iff, by
    rw [read_eq_fieldsOf_forest, fieldsOf_forest_eq_expansion, entries,
      dropOverlays_none_eq_stored]⟩

/-- Groups in groups: the part stands in each copy of the line, and the line in each of
the order; the total, of a level that was not used before, stands in the order only. -/
example : read ("01 ORDER OCCURS 2.\n 10 LINES OCCURS 2.\n  15 PART PIC X(3).\n" ++
      " 07 TOTAL PIC 9(5).\n") =
    [⟨"PART_0_0", "X(3)", none, 1⟩, ⟨"PART_0_1", "X(3)", none, 1⟩, ⟨"TOTAL_0", "9(5)", none, 1⟩,
      ⟨"PART_1_0", "X(3)", none, 1⟩, ⟨"PART_1_1", "X(3)", none, 1⟩,
      ⟨"TOTAL_1", "9(5)", none, 1⟩] := by
  decide +kernel

end FixedWidth.Copybook
