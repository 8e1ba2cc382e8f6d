import FixedWidth.Entries

/-!
# Entries whose names are all different

Where no name is given twice, nothing takes the place of anything: the entries
are the pairs as they were given (`FixedWidth.Entries.ofList_eq_self`), and a
name leads to the one value that stands beside it.
-/

namespace FixedWidth.Entries

variable {α β : Type}

/-- A new name goes to the end. -/
theorem insert_of_notMem {name : String} {entries : List (String × α)}
    (h : name ∉ entries.map Prod.fst) (value : α) :
    insert name value entries = entries ++ [(name, value)] := by
  induction entries with
  | nil => rfl
  | cons entry rest ih =>
    rw [List.map_cons, List.mem_cons, not_or] at h
    rw [insert, if_neg (Ne.symm h.1), ih h.2, List.cons_append]

/-- What was taken in already stays in front of what is still to come. -/
theorem foldl_insert_eq_append {entries pairs : List (String × α)}
    (h : ((entries ++ pairs).map Prod.fst).Nodup) :
    pairs.foldl (fun entries pair => insert pair.1 pair.2 entries) entries = entries ++ pairs := by
  induction pairs generalizing entries with
  | nil => rw [List.foldl_nil, List.append_nil]
  | cons pair pairs ih =>
    have hnew : pair.1 ∉ entries.map Prod.fst := by
      rw [List.map_append, List.nodup_append] at h
      exact fun hmem => h.2.2 _ hmem _ (List.mem_cons_self ..) rfl
    rw [List.append_cons] at h
    rw [List.foldl_cons, insert_of_notMem hnew, ih h, ← List.append_cons]

/-- **Pairs whose names are all different are their own entries.** -/
theorem ofList_eq_self {pairs : List (String × α)} (h : (pairs.map Prod.fst).Nodup) :
    ofList pairs = pairs :=
  foldl_insert_eq_append h

/-- **A name that stands once leads to the value beside it.** -/
theorem get?_of_mem {entries : List (String × α)} (h : (entries.map Prod.fst).Nodup)
    {name : String} {value : α} (hmem : (name, value) ∈ entries) :
    get? entries name = some value := by
  induction entries with
  | nil => cases hmem
  | cons entry rest ih =>
    obtain ⟨hnot, hrest⟩ := List.nodup_cons.mp h
    rcases List.mem_cons.mp hmem with rfl | hmem
    · simp [get?]
    · have hne : entry.1 ≠ name := by
        rintro rfl
        exact hnot (List.mem_map.mpr ⟨_, hmem, rfl⟩)
      simpa [get?, hne] using ih hrest hmem

/-- Entries of the same names in the same order are the same where every name leads to
one value in both. -/
theorem eq_of_forall_mem {entries entries' : List (String × α)}
    (hnames : entries.map Prod.fst = entries'.map Prod.fst)
    (hdistinct : (entries.map Prod.fst).Nodup)
    (h : ∀ name ∈ entries.map Prod.fst, ∃ value,
      (name, value) ∈ entries ∧ (name, value) ∈ entries') : entries = entries' := by
  induction entries generalizing entries' with
  | nil => exact (List.map_eq_nil_iff.mp hnames.symm).symm
  | cons entry rest ih =>
    obtain ⟨name, value⟩ := entry
    obtain ⟨⟨name', value'⟩, rest', rfl, hname, hrest⟩ := List.map_eq_cons_iff.mp hnames.symm
    obtain rfl : name' = name := hname
    obtain ⟨hnot, hdistinct⟩ := List.nodup_cons.mp hdistinct
    have hnot' : name' ∉ rest'.map Prod.fst := by rwa [hrest]
    -- a value beside the first name is the first one, as the name is nowhere else
    have hfirst : ∀ {v w : α} {pairs : List (String × α)}, name' ∉ pairs.map Prod.fst →
        (name', w) ∈ (name', v) :: pairs → w = v := by
      intro v w pairs hpairs hmem
      rcases List.mem_cons.mp hmem with heq | hmem
      · exact (Prod.mk.inj heq).2
      · exact absurd (List.mem_map_of_mem hmem) hpairs
    obtain ⟨w, hw, hw'⟩ := h name' List.mem_cons_self
    rw [← hfirst hnot hw, ← hfirst hnot' hw']
    refine congrArg _ (ih hrest.symm hdistinct fun other hother => ?_)
    obtain ⟨v, hv, hv'⟩ := h other (List.mem_cons_of_mem _ hother)
    have hne : other ≠ name' := fun heq => hnot (heq ▸ hother)
    exact ⟨v, (List.mem_cons.mp hv).resolve_left fun heq => hne (Prod.mk.inj heq).1,
      (List.mem_cons.mp hv').resolve_left fun heq => hne (Prod.mk.inj heq).1⟩

end FixedWidth.Entries
