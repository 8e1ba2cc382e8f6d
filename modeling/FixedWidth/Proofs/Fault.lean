import FixedWidth.Fault

/-!
# Steps that can fail

An operation that can fail is a row of steps, each of which gives an answer or a
fault, and the first fault is that of the whole. `FixedWidth.bind_eq_ok_iff` takes
an answered row apart into its answered steps, so that nothing after it has to
look into how a row is put together.

Where two operations fail together, their faults are held against each other by the
name that is reported for them (`FixedWidth.Fault.SameKind`).
-/

namespace FixedWidth

variable {ε α β : Type}

@[simp] theorem ok_bind (a : α) (f : α → Except ε β) : (Except.ok a >>= f) = f a := rfl

@[simp] theorem error_bind (fault : ε) (f : α → Except ε β) :
    ((Except.error fault : Except ε α) >>= f) = .error fault := rfl

@[simp] theorem pure_eq_ok (a : α) : (pure a : Except ε α) = .ok a := rfl

@[simp] theorem throw_eq_error (fault : ε) :
    (throw fault : Except ε α) = .error fault := rfl

/-- **A row of steps has an answer when each of its steps has one.** -/
theorem bind_eq_ok_iff {x : Except ε α} {f : α → Except ε β} {b : β} :
    (x >>= f) = .ok b ↔ ∃ a, x = .ok a ∧ f a = .ok b := by
  constructor
  · intro h
    cases x with
    | error fault => cases h
    | ok a => exact ⟨a, rfl, h⟩
  · rintro ⟨a, rfl, h⟩
    exact h

/-- A row of steps has the fault of the first step that has one. -/
theorem bind_eq_error_iff {x : Except ε α} {f : α → Except ε β} {fault : ε} :
    (x >>= f) = .error fault ↔ x = .error fault ∨ ∃ a, x = .ok a ∧ f a = .error fault := by
  cases x with
  | error fault' => simp
  | ok a => simp

theorem map_eq_ok_iff {x : Except ε α} {f : α → β} {b : β} :
    x.map f = .ok b ↔ ∃ a, x = .ok a ∧ f a = b := by
  cases x with
  | error fault => exact iff_of_false (fun h => nomatch h) fun ⟨a, h, _⟩ => nomatch h
  | ok a =>
    constructor
    · exact fun h => ⟨a, rfl, Except.ok.inj h⟩
    · rintro ⟨a', ha, rfl⟩
      rw [Except.ok.inj ha]
      rfl

/-- **A list has answers when each of its items has one**, and they are those, in order. -/
theorem mapM_eq_ok_iff {f : α → Except ε β} {as : List α} {bs : List β} :
    as.mapM f = .ok bs ↔ as.map f = bs.map .ok := by
  induction as generalizing bs with
  | nil =>
    rw [List.mapM_nil, List.map_nil, pure_eq_ok, Except.ok.injEq, eq_comm,
      eq_comm (a := ([] : List (Except ε β))), List.map_eq_nil_iff]
  | cons a as ih =>
    rw [List.mapM_cons, bind_eq_ok_iff]
    constructor
    · rintro ⟨b, hb, h⟩
      obtain ⟨bs, hbs, h⟩ := bind_eq_ok_iff.mp h
      rw [← Except.ok.inj h, List.map_cons, List.map_cons, hb, ih.mp hbs]
    · intro h
      obtain ⟨b, bs, rfl, hb, hbs⟩ := List.map_eq_cons_iff.mp h.symm
      exact ⟨b, hb.symm, bind_eq_ok_iff.mpr ⟨bs, ih.mpr hbs.symm, rfl⟩⟩

/-- Each item of an answered list is the answer for an item of the list it was made of. -/
theorem exists_mem_of_mapM {f : α → Except ε β} {as : List α} {bs : List β}
    (h : as.mapM f = .ok bs) {b : β} (hb : b ∈ bs) : ∃ a ∈ as, f a = .ok b := by
  have hmem : Except.ok b ∈ as.map f := by
    rw [mapM_eq_ok_iff.mp h]
    exact List.mem_map_of_mem hb
  exact List.mem_map.mp hmem

/-- A list has the fault of its first item that has one. -/
theorem mapM_eq_error_iff {f : α → Except ε β} {as : List α} {fault : ε} :
    as.mapM f = .error fault ↔ ∃ before a after, as = before ++ a :: after ∧
      (∀ b ∈ before, ∃ c, f b = .ok c) ∧ f a = .error fault := by
  induction as with
  | nil =>
    refine iff_of_false (fun h => nomatch h) ?_
    rintro ⟨before, a, after, h, -⟩
    cases before <;> cases h
  | cons a as ih =>
    rw [List.mapM_cons, bind_eq_error_iff]
    constructor
    · rintro (ha | ⟨b, hb, h⟩)
      · exact ⟨[], a, as, rfl, fun b hb => (nomatch hb), ha⟩
      · obtain h | ⟨bs, -, h⟩ := bind_eq_error_iff.mp h
        · obtain ⟨before, a', after, rfl, hbefore, ha'⟩ := ih.mp h
          exact ⟨a :: before, a', after, rfl, List.forall_mem_cons.mpr ⟨⟨b, hb⟩, hbefore⟩, ha'⟩
        · cases h
    · rintro ⟨_ | ⟨a', before⟩, a'', after, h, hbefore, ha⟩
      · obtain ⟨rfl, rfl⟩ := List.cons.inj h
        exact .inl ha
      · obtain ⟨rfl, rfl⟩ := List.cons.inj h
        obtain ⟨⟨b, hb⟩, hbefore⟩ := List.forall_mem_cons.mp hbefore
        have hrest := ih.mpr ⟨before, a'', after, rfl, hbefore, ha⟩
        exact .inr ⟨b, hb, bind_eq_error_iff.mpr (.inl hrest)⟩

/-- Whether an operation gives an answer is settled by running it. -/
instance decidableEqOk [DecidableEq α] (x : Except ε α) (a : α) : Decidable (x = .ok a) :=
  match x with
  | .ok b => decidable_of_iff (b = a) ⟨congrArg _, Except.ok.inj⟩
  | .error _ => isFalse (fun h => nomatch h)

/-! ### Kinds of faults -/

/-- **Faults of one kind** are reported under one name; those that are not reported
by a name are of one kind only with themselves. -/
def Fault.SameKind (a b : Fault) : Prop :=
  a.reportName? = b.reportName? ∧ (a.reportName? = none → a = b)

theorem Fault.SameKind.refl (a : Fault) : a.SameKind a :=
  ⟨rfl, fun _ => rfl⟩

end FixedWidth
