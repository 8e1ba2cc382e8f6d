import FixedWidth.Copybook.Layout
import Mathlib.Data.List.TakeWhile

/-!
# The stack and the forest

A layout is built from the first entry on, with a stack of open groups. It can be said
without a stack, from the last entry on: an entry is put before the trees of the entries
behind it, and a group takes those of greater level (`FixedWidth.Copybook.attach`,
`FixedWidth.Copybook.forest`).

What connects the two is what a stack makes of trees that are still to come
(`FixedWidth.Copybook.Draft.complete`): the innermost group takes those that are below it
and is closed, then the one around it does, and so on. To enter an entry now or to attach it
to what comes later is the same (`FixedWidth.Copybook.Draft.complete_enter`), as long as the
open groups stand below each other, which every entry leaves so. From this the whole run
builds the forest (`FixedWidth.Copybook.layOut_eq_forest`).
-/

namespace FixedWidth.Copybook

/-! ### The forest -/

/-- Puts an entry before the trees of the entries behind it. A group takes those
of greater level. -/
def attach (e : Entry) (nodes : List Node) : List Node :=
  match e.clause with
  | some clause => .item e.level ⟨e.name, clause.picture, clause.usage, e.occurs⟩ :: nodes
  | none =>
    .group e.level e.occurs (nodes.takeWhile fun n => e.level < n.level) ::
      nodes.dropWhile fun n => e.level < n.level

/-- **The forest of a layout's entries.** -/
def forest (es : List Entry) : List Node :=
  es.foldr attach []

variable {e : Entry} {es : List Entry} {level : Nat} {node : Node}
  {nodes closed later : List Node} {g : OpenGroup} {opened : List OpenGroup} {draft : Draft}

/-- What is attached begins with a tree of the entry's level. -/
theorem level_of_head?_attach : ∀ n ∈ (attach e later).head?, n.level = e.level := by
  rw [attach]
  cases e.clause <;> rintro n ⟨⟩ <;> rfl

/-! ### A stack and what comes later -/

/-- What an open group makes of the trees that come after it: it takes those below it, and
is then a tree in front of the others. -/
def OpenGroup.complete (g : OpenGroup) (later : List Node) : List Node :=
  .group g.level g.occurs (g.nodes ++ later.takeWhile fun n => g.level < n.level) ::
    later.dropWhile fun n => g.level < n.level

/-- **What a draft makes of the trees that come after it.** -/
def Draft.complete (draft : Draft) (later : List Node) : List Node :=
  draft.nodes ++ draft.opened.foldl (fun later g => g.complete later) later

theorem Draft.complete_cons : Draft.complete ⟨nodes, g :: opened⟩ later =
    Draft.complete ⟨nodes, opened⟩ (g.complete later) :=
  rfl

/-- Each of the open groups is below the one around it. -/
def Nested (opened : List OpenGroup) : Prop :=
  opened.Pairwise fun g g' => g'.level < g.level

/-- A group takes what is below it as if it had been put into it before. -/
theorem OpenGroup.complete_append (h : ∀ n ∈ closed, g.level < n.level) :
    g.complete (closed ++ later) = { g with nodes := g.nodes ++ closed }.complete later := by
  have hbelow : ∀ n ∈ closed, decide (g.level < n.level) = true := by simpa using h
  rw [complete, complete, List.takeWhile_append_of_pos hbelow, List.dropWhile_append_of_pos hbelow,
    List.append_assoc]

/-- A group that the next tree is not below takes nothing. -/
theorem OpenGroup.complete_of_le (h : ∀ n ∈ later.head?, n.level ≤ g.level) :
    g.complete later = g.toNode :: later := by
  cases later with
  | nil => rw [complete, List.takeWhile_nil, List.dropWhile_nil, List.append_nil, toNode]
  | cons n later =>
    have hnext : ¬g.level < n.level := Nat.not_lt.mpr (h n rfl)
    rw [complete, List.takeWhile_cons_of_neg (by simpa using hnext),
      List.dropWhile_cons_of_neg (by simpa using hnext), List.append_nil, toNode]

/-! ### Closing groups -/

/-- **Groups that are closed take nothing of what comes later**, if this begins at the level
that they are closed for. -/
theorem complete_closeGroups (hlater : ∀ n ∈ later.head?, n.level ≤ level)
    (hclosed : ∀ n ∈ closed, ∀ g ∈ opened, g.level < n.level) (hnested : Nested opened) :
    (closeGroups level nodes closed opened).complete later =
      Draft.complete ⟨nodes, opened⟩ (closed ++ later) := by
  induction opened generalizing closed with
  | nil => exact List.append_assoc ..
  | cons g opened ih =>
    obtain ⟨hinner, hnested⟩ := List.pairwise_cons.mp hnested
    rw [Draft.complete_cons,
      OpenGroup.complete_append fun n hn => hclosed n hn g List.mem_cons_self, closeGroups]
    dsimp only
    split
    next hlevel =>
      have hnext : ∀ n ∈ later.head?, n.level ≤ g.level :=
        fun n hn => Nat.le_trans (hlater n hn) hlevel
      have hgroup : ∀ n ∈ [OpenGroup.toNode { g with nodes := g.nodes ++ closed }],
          ∀ g' ∈ opened, g'.level < n.level := List.forall_mem_singleton.mpr hinner
      rw [OpenGroup.complete_of_le (g := { g with nodes := g.nodes ++ closed }) hnext,
        ih hgroup hnested, List.singleton_append]
    next => rfl

/-- The groups that are left open stand below each other, and have levels below the given
one. -/
theorem nested_closeGroups (hnested : Nested opened) :
    Nested (closeGroups level nodes closed opened).opened ∧
      ∀ g ∈ (closeGroups level nodes closed opened).opened, g.level < level := by
  induction opened generalizing closed with
  | nil => exact ⟨List.Pairwise.nil, fun g hg => nomatch hg⟩
  | cons g opened ih =>
    obtain ⟨hinner, houter⟩ := List.pairwise_cons.mp hnested
    rw [closeGroups]
    dsimp only
    split
    next => exact ih houter
    next hlevel =>
      have hbelow := Nat.not_le.mp hlevel
      refine ⟨List.pairwise_cons.mpr ⟨hinner, houter⟩, List.forall_mem_cons.mpr ⟨hbelow, ?_⟩⟩
      exact fun g' hg' => Nat.lt_trans (hinner g' hg') hbelow

namespace Draft

theorem complete_close (hlater : ∀ n ∈ later.head?, n.level ≤ level)
    (hnested : Nested draft.opened) : (draft.close level).complete later = draft.complete later :=
  complete_closeGroups hlater (fun _ hn => nomatch hn) hnested

theorem nested_close (level : Nat) (hnested : Nested draft.opened) :
    Nested (draft.close level).opened ∧ ∀ g ∈ (draft.close level).opened, g.level < level :=
  nested_closeGroups hnested

/-! ### Entering an entry -/

/-- A tree that is put into a draft stands in front of what comes later. -/
theorem complete_put (h : ∀ g ∈ draft.opened, g.level < node.level) :
    (draft.put node).complete later = draft.complete (node :: later) := by
  obtain ⟨nodes, opened⟩ := draft
  cases opened with
  | nil => exact List.append_assoc nodes [node] later
  | cons g opened =>
    have hgroup : g.complete ([node] ++ later) =
        { g with nodes := g.nodes ++ [node] }.complete later :=
      OpenGroup.complete_append (List.forall_mem_singleton.mpr (h g List.mem_cons_self))
    rw [List.singleton_append] at hgroup
    rw [complete_cons, hgroup]
    rfl

/-- **To enter an entry is to attach it to what comes later.** -/
theorem complete_enter (hnested : Nested draft.opened) :
    (draft.enter e).complete later = draft.complete (attach e later) := by
  have hlater : ∀ n ∈ (attach e later).head?, n.level ≤ e.level :=
    fun n hn => Nat.le_of_eq (level_of_head?_attach n hn)
  obtain ⟨-, hbelow⟩ := nested_close e.level hnested
  rw [← complete_close hlater hnested, enter, attach]
  cases e.clause with
  | some clause => exact complete_put hbelow
  | none => rfl

/-- The open groups are below each other from one entry to the next. -/
theorem nested_enter (hnested : Nested draft.opened) : Nested (draft.enter e).opened := by
  obtain ⟨hleft, hbelow⟩ := nested_close e.level hnested
  rw [enter]
  cases e.clause with
  | none => exact List.pairwise_cons.mpr ⟨hbelow, hleft⟩
  | some clause =>
    dsimp only
    -- a field changes what the innermost group has in it, and no level
    cases hdraft : draft.close e.level with
    | mk nodes opened =>
      rw [hdraft] at hleft
      cases opened with
      | nil => exact hleft
      | cons g opened =>
        obtain ⟨hinner, houter⟩ := List.pairwise_cons.mp hleft
        exact List.pairwise_cons.mpr ⟨hinner, houter⟩

/-- When all groups are closed, nothing comes later. -/
theorem finish_eq_complete (hnested : Nested draft.opened) : draft.finish = draft.complete [] := by
  obtain ⟨-, hbelow⟩ := nested_close 0 hnested
  have hnone : (draft.close 0).opened = [] :=
    List.eq_nil_iff_forall_not_mem.mpr fun g hg => Nat.not_lt_zero _ (hbelow g hg)
  have hlater : ∀ n ∈ ([] : List Node).head?, n.level ≤ 0 := fun _ hn => nomatch hn
  rw [← complete_close hlater hnested, complete, hnone, List.foldl_nil, List.append_nil, finish]

/-- **A run over entries makes of a draft what their forest does.** -/
theorem finish_foldl_enter (hnested : Nested draft.opened) :
    (es.foldl enter draft).finish = draft.complete (forest es) := by
  induction es generalizing draft with
  | nil => exact finish_eq_complete hnested
  | cons e es ih => rw [List.foldl_cons, ih (nested_enter hnested), complete_enter hnested]; rfl

end Draft

/-! ### The whole run -/

/-- **The trees of a layout are the forest of its entries.** -/
theorem layOut_eq_forest (es : List Entry) : layOut es = forest es :=
  Draft.finish_foldl_enter List.Pairwise.nil

theorem read_eq_fieldsOf_forest (text : String) :
    read text = fieldsOf "" (forest (entries text.toList)) := by
  rw [read, layOut_eq_forest]

end FixedWidth.Copybook
