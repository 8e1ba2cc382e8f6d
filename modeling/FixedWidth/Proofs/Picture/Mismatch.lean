import FixedWidth.Proofs.Picture.Clause

/-!
# The texts of a clause, and where other texts fail

A symbol that stands for a character takes one that it accepts, and a symbol that stands for
none takes nothing. This says what the texts of a row of symbols are
(`FixedWidth.Picture.Matches`) without counting places, and a clause accepts these texts and
no others (`FixedWidth.Picture.matches_iff`).

Every text keeps to the places of a clause up to one of them and no further: there the text
ends, or the places do, or a character is rejected (`FixedWidth.Picture.FirstFailure`). Where
the text is none of the clause's, this is the place that one would like to hear of. But a
clause looks at the length of the text before it looks at a character, and of a text of
another length it reports where the shorter of the two ends. This is the first place that
fails when nothing before it does (`FixedWidth.Picture.Clause.exists_reportsFailure`), and is
not when a character before it is rejected
(`FixedWidth.Picture.Clause.not_always_first`).
-/

namespace FixedWidth.Picture

variable {token : Token} {places tokens : List Token} {c : Char} {cs : List Char} {j k : ℕ}

/-! ### The texts of a row of symbols -/

/-- **The texts of a row of symbols.** -/
inductive Matches : List Token → List Char → Prop where
  | nil : Matches [] []
  /-- A symbol that stands for no character takes none. -/
  | silent {token : Token} {tokens : List Token} {cs : List Char} :
      token.takesPosition = false → Matches tokens cs → Matches (token :: tokens) cs
  /-- Any other symbol takes one that it accepts. -/
  | place {token : Token} {tokens : List Token} {c : Char} {cs : List Char} :
      token.takesPosition = true → token.accepts c = true → Matches tokens cs →
        Matches (token :: tokens) (c :: cs)

/-- **A text is one of a row of symbols when its characters are accepted one by one**, the
symbols that stand for none left out. -/
theorem matches_iff : Matches tokens cs ↔
    List.Forall₂ (fun token c => token.accepts c = true) (tokens.filter Token.takesPosition) cs := by
  constructor
  · intro h
    induction h with
    | nil => exact .nil
    | silent hsilent _ ih => rwa [List.filter_cons_of_neg (Bool.eq_false_iff.mp hsilent)]
    | place hplace haccepts _ ih =>
      rw [List.filter_cons_of_pos hplace]
      exact .cons haccepts ih
  · intro h
    induction tokens generalizing cs with
    | nil =>
      rw [List.filter_nil, List.forall₂_nil_left_iff] at h
      rw [h]
      exact .nil
    | cons token tokens ih =>
      cases hplace : token.takesPosition with
      | false =>
        rw [List.filter_cons_of_neg (Bool.eq_false_iff.mp hplace)] at h
        exact .silent hplace (ih h)
      | true =>
        rw [List.filter_cons_of_pos hplace] at h
        cases h with
        | cons haccepts hrest => exact .place hplace haccepts (ih hrest)

/-! ### The first place that fails -/

/-- A text keeps to a place: there is such a place, and a character of the text stands there
that it accepts. -/
def AcceptedAt (places : List Token) (cs : List Char) (k : ℕ) : Prop :=
  ∃ token c, places[k]? = some token ∧ cs[k]? = some c ∧ token.accepts c = true

/-- **The first place that a text does not keep to.** -/
structure FirstFailure (places : List Token) (cs : List Char) (k : ℕ) : Prop where
  accepted_before : ∀ j < k, AcceptedAt places cs j
  /-- The text ends here, or the places do, or the character is rejected. -/
  fails : cs[k]? = none ∨ places[k]? = none ∨
    ∃ token c, places[k]? = some token ∧ cs[k]? = some c ∧ token.accepts c = false

theorem FirstFailure.not_acceptedAt (h : FirstFailure places cs k) : ¬AcceptedAt places cs k := by
  rintro ⟨token, c, htoken, hc, haccepts⟩
  rcases h.fails with hnone | hnone | ⟨token', c', htoken', hc', hrejects⟩
  · exact nomatch hnone.symm.trans hc
  · exact nomatch hnone.symm.trans htoken
  · obtain rfl := Option.some.inj (htoken.symm.trans htoken')
    obtain rfl := Option.some.inj (hc.symm.trans hc')
    exact nomatch haccepts.symm.trans hrejects

/-- There is one first place only. -/
theorem FirstFailure.unique (hj : FirstFailure places cs j) (hk : FirstFailure places cs k) :
    j = k := by
  rcases Nat.lt_trichotomy j k with hlt | heq | hgt
  · exact absurd (hk.accepted_before j hlt) hj.not_acceptedAt
  · exact heq
  · exact absurd (hj.accepted_before k hgt) hk.not_acceptedAt

/-- Nothing stands before the first of all places. -/
theorem firstFailure_zero (h : cs[0]? = none ∨ places[0]? = none ∨
    ∃ token c, places[0]? = some token ∧ cs[0]? = some c ∧ token.accepts c = false) :
    FirstFailure places cs 0 :=
  ⟨fun j hj => absurd hj j.not_lt_zero, h⟩

/-- Behind a character that is accepted, the first place comes one later. -/
theorem FirstFailure.cons (haccepts : token.accepts c = true) (h : FirstFailure places cs k) :
    FirstFailure (token :: places) (c :: cs) (k + 1) where
  accepted_before j hj := by
    cases j with
    | zero => exact ⟨token, c, rfl, rfl, haccepts⟩
    | succ j => exact h.accepted_before j (Nat.lt_of_succ_lt_succ hj)
  fails := h.fails

/-- **The first place that fails is the one whose character is rejected first**, and where no
character is rejected, the one at which the shorter of the two ends. -/
theorem firstFailure_firstRejected? (places : List Token) (cs : List Char) :
    FirstFailure places cs
      ((Clause.firstRejected? places cs).getD (min cs.length places.length)) := by
  induction places generalizing cs with
  | nil =>
    have hnone : Clause.firstRejected? [] cs = none := by simp [Clause.firstRejected?]
    rw [hnone, Option.getD_none, List.length_nil, Nat.min_zero]
    exact firstFailure_zero (.inr (.inl rfl))
  | cons token places ih =>
    cases cs with
    | nil =>
      have hnone : Clause.firstRejected? (token :: places) [] = none := by
        simp [Clause.firstRejected?]
      rw [hnone, Option.getD_none, List.length_nil, Nat.zero_min]
      exact firstFailure_zero (.inl rfl)
    | cons c cs =>
      rw [Clause.firstRejected?]
      cases haccepts : token.accepts c with
      | false => exact firstFailure_zero (.inr (.inr ⟨token, c, rfl, rfl, haccepts⟩))
      | true =>
        have hstep := (ih cs).cons haccepts
        rw [if_pos rfl]
        cases hrest : Clause.firstRejected? places cs with
        | some k => rwa [hrest] at hstep
        | none =>
          rw [hrest, Option.getD_none] at hstep
          rwa [Option.map_none, Option.getD_none, List.length_cons, List.length_cons,
            Nat.add_min_add_right]

/-- Where nothing fails before one of the two ends, its end is the first place. -/
theorem firstFailure_min (h : ∀ j < min cs.length places.length, AcceptedAt places cs j) :
    FirstFailure places cs (min cs.length places.length) := by
  refine ⟨h, ?_⟩
  rcases Nat.le_total cs.length places.length with hle | hle
  · rw [Nat.min_eq_left hle]
    exact .inl (List.getElem?_eq_none (Nat.le_refl _))
  · rw [Nat.min_eq_right hle]
    exact .inr (.inl (List.getElem?_eq_none (Nat.le_refl _)))

/-! ### What is reported -/

namespace Clause

variable {clause : Clause}

theorem firstMismatch?_eq_none_iff :
    clause.firstMismatch? cs = none ↔ Matches clause.tokens cs := by
  rw [matches_iff, ← positions, ← accepts_iff, accepts, Option.isNone_iff_eq_none]

/-- **What a clause reports of a text** that first fails at the given place. -/
structure ReportsFailure (clause : Clause) (cs : List Char) (k : ℕ) : Prop where
  /-- Nothing is reported of its own texts, and of no other. -/
  none_iff : clause.firstMismatch? cs = none ↔ Matches clause.tokens cs
  /-- Of a text with as many characters as there are places, the first place is reported. -/
  of_length_eq : ¬Matches clause.tokens cs → cs.length = clause.width →
    clause.firstMismatch? cs = some k
  /-- Of any other, it is where the shorter of the two ends. -/
  of_length_ne : cs.length ≠ clause.width →
    clause.firstMismatch? cs = some (min cs.length clause.width)
  /-- What is reported is the first place exactly where the lengths agree or nothing fails before
  the shorter of the two ends. -/
  first_iff : ¬Matches clause.tokens cs → (clause.firstMismatch? cs = some k ↔
    cs.length = clause.width ∨ ∀ j < min cs.length clause.width, AcceptedAt clause.positions cs j)

/-- **What a clause reports is the first place that fails**, but for a text of another length
with a character that is rejected. -/
theorem exists_reportsFailure (clause : Clause) (cs : List Char) :
    ∃ k, (∀ j, FirstFailure clause.positions cs j ↔ j = k) ∧ ReportsFailure clause cs k := by
  have hfirst := firstFailure_firstRejected? clause.positions cs
  have hnone := @firstMismatch?_eq_none_iff cs clause
  refine ⟨_, fun j => ⟨fun hj => hj.unique hfirst, fun hj => hj ▸ hfirst⟩, ?_⟩
  have hsame (hother : ¬Matches clause.tokens cs) (hlength : cs.length = clause.width) :
      clause.firstMismatch? cs = some ((firstRejected? clause.positions cs).getD
        (min cs.length clause.positions.length)) := by
    have hreport : clause.firstMismatch? cs = firstRejected? clause.positions cs :=
      if_neg (not_not_intro hlength)
    rw [← hnone, hreport] at hother
    obtain ⟨k, hk⟩ := Option.ne_none_iff_exists'.mp hother
    rw [hreport, hk, Option.getD_some]
  have hends (hlength : cs.length ≠ clause.width) :
      clause.firstMismatch? cs = some (min cs.length clause.width) := if_pos hlength
  refine ⟨hnone, hsame, hends, fun hother => ?_⟩
  by_cases hlength : cs.length = clause.width
  · exact iff_of_true (hsame hother hlength) (.inl hlength)
  · rw [hends hlength, Option.some.injEq, or_iff_right hlength]
    constructor
    · intro hmin
      rw [hmin]
      exact hfirst.accepted_before
    · exact fun haccepted => (firstFailure_min haccepted).unique hfirst

/-- **Where a clause finds a fault need not be the first place that fails**: two characters
are too few for three digits, and of the two that are there the second is no digit. -/
theorem not_always_first :
    ¬∀ (picture : String) (clause : Clause) (cs : List Char) (k : ℕ),
      compile picture false = .ok clause → ¬Matches clause.tokens cs →
        FirstFailure clause.positions cs k → clause.firstMismatch? cs = some k := by
  intro h
  have hcompile : compile "999" false = .ok ⟨"999", [.digit, .digit, .digit]⟩ := by
    decide +kernel
  have hother : ¬Matches [.digit, .digit, .digit] ['1', 'x'] := by
    rw [matches_iff]
    exact fun hforall => nomatch hforall.length_eq
  have hfirst : FirstFailure [.digit, .digit, .digit] ['1', 'x'] 1 :=
    firstFailure_firstRejected? [.digit, .digit, .digit] ['1', 'x']
  exact nomatch h _ _ ['1', 'x'] 1 hcompile hother hfirst

end Clause

end FixedWidth.Picture
