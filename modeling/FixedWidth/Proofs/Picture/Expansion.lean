import FixedWidth.Proofs.Picture.Repeat
import Mathlib.Data.List.Chain

/-!
# Which pictures can be expanded

A picture as it is written can be expanded, and gives each symbol as often as it is counted.
The counts are carried out first, though, and the parentheses looked at afterwards, when those
that were counted themselves have been replaced like any other character. Counted zero times,
a parenthesis leaves nothing that could be found; and so there is one more thing that a
picture can be made of (`FixedWidth.Picture.Expands`), and with it the pictures that can be
expanded are said in full (`FixedWidth.Picture.expand_eq_ok_iff`).

The pictures in which this happens are known by two parentheses in a row, the second of them
an opening one. A picture without these can be expanded exactly when it is one that can be
written (`FixedWidth.Picture.expands_iff`); with them it never is one.
-/

namespace FixedWidth.Picture

variable {cs ds rest symbols : List Char} {c : Char} {count length taken : ℕ} {picture : String}

/-! ### What a picture is made of -/

/-- **What a picture stands for**, symbol after symbol. -/
inductive Expands : List Char → List Char → Prop where
  | nil : Expands [] []
  /-- A symbol, alone or with its count. -/
  | symbol (r : Repetition) {cs symbols : List Char} :
      Expands cs symbols → Expands (r.text ++ cs) (r.symbols ++ symbols)
  /-- A parenthesis that is counted zero times. -/
  | vanished {c : Char} {zeros cs symbols : List Char} :
      c = '(' ∨ c = ')' → zeros ≠ [] → (∀ d ∈ zeros, Text.isAnyDigit d = true) →
        Text.digitsValue zeros = 0 → Expands cs symbols →
          Expands (c :: '(' :: (zeros ++ ')' :: cs)) symbols

theorem hasParenthesis_append (cs cs' : List Char) :
    hasParenthesis (cs ++ cs') = (hasParenthesis cs || hasParenthesis cs') :=
  List.any_append

/-- A character that is repeated is a parenthesis or is none, and none is left of one that is
repeated zero times. -/
theorem hasParenthesis_replicate_eq_false_iff : hasParenthesis (List.replicate count c) = false ↔
    (c ≠ '(' ∧ c ≠ ')') ∨ count = 0 := by
  rw [hasParenthesis, List.any_replicate]
  split
  next hzero => exact iff_of_true rfl (.inr hzero)
  next hzero => simp [hzero]

/-- No digit is a parenthesis. -/
theorem ne_of_isAnyDigit (h : Text.isAnyDigit c = true) : c ≠ '(' ∧ c ≠ ')' := by
  constructor <;> rintro rfl <;> revert h <;> decide

/-! ### From what it is made of to the expansion -/

/-- No count begins where a picture does. -/
theorem Expands.countAt?_eq_none (h : Expands cs symbols) : countAt? cs = none := by
  cases h with
  | nil => rfl
  | symbol r _ => exact Picture.countAt?_eq_none fun h => r.symbol_ne_open (Option.some.inj h)
  | vanished hc _ _ _ _ =>
    -- behind an opening parenthesis stands another one, and no digit
    rcases hc with rfl | rfl <;> rfl

theorem Expands.expandFrom_eq (h : Expands cs symbols) : expandFrom 0 cs = symbols := by
  induction h with
  | nil => rfl
  | symbol r hcs ih => rw [expandFrom_text (Expands.countAt?_eq_none hcs), ih]
  | @vanished c zeros cs symbols hc hne hdigits hzero _ ih =>
    have hlineFeed : c ≠ '\n' := by rcases hc with rfl | rfl <;> decide
    rw [expandFrom_counted hlineFeed hne hdigits, hzero, List.replicate_zero, List.nil_append, ih]

/-- Of a parenthesis nothing is left. -/
theorem Expands.hasParenthesis_eq (h : Expands cs symbols) : hasParenthesis symbols = false := by
  induction h with
  | nil => rfl
  | symbol r _ ih =>
    have hsymbols : hasParenthesis r.symbols = false :=
      hasParenthesis_replicate_eq_false_iff.mpr (.inl ⟨r.symbol_ne_open, r.symbol_ne_close⟩)
    rw [hasParenthesis_append, hsymbols, ih]
    rfl
  | vanished _ _ _ _ _ ih => exact ih

/-! ### From the expansion to what it is made of -/

/-- **Where a count is found**: in parentheses, and nothing but digits. -/
theorem countAt?_eq_some_iff : countAt? cs = some (count, length) ↔
    ∃ ds rest, cs = '(' :: (ds ++ ')' :: rest) ∧ ds ≠ [] ∧
      (∀ c ∈ ds, Text.isAnyDigit c = true) ∧ count = Text.digitsValue ds ∧
      length = ds.length + 2 := by
  constructor
  · intro h
    unfold countAt? at h
    split at h
    next cs =>
      have hsplit : cs = cs.takeWhile Text.isAnyDigit ++
          cs.drop (cs.takeWhile Text.isAnyDigit).length := by
        conv => lhs; rw [← List.take_append_drop (cs.takeWhile Text.isAnyDigit).length cs]
        rw [← List.prefix_iff_eq_take.mp (List.takeWhile_prefix _)]
      dsimp only at h
      split at h
      next rest hrest =>
        split at h
        · cases h
        next hne =>
          obtain ⟨rfl, rfl⟩ := Prod.mk.inj (Option.some.inj h)
          refine ⟨cs.takeWhile Text.isAnyDigit, rest, ?_, by simpa using hne,
            List.all_eq_true.mp List.all_takeWhile, rfl, rfl⟩
          rw [← hrest, ← hsplit]
      next => cases h
    next => cases h
  · rintro ⟨ds, rest, rfl, hne, hdigits, rfl, rfl⟩
    exact countAt?_counted hne hdigits

/-- A symbol behind which no count stands. -/
theorem Expands.cons (hc : c ≠ '(' ∧ c ≠ ')') (h : Expands cs symbols) :
    Expands (c :: cs) (c :: symbols) :=
  .symbol (Repetition.alone c hc) h

/-- **A character with a count is a symbol of the picture**, unless it is a parenthesis, of which
nothing must be left. -/
theorem Expands.counted (hc : c ≠ '\n') (hne : ds ≠ [])
    (hdigits : ∀ d ∈ ds, Text.isAnyDigit d = true)
    (hleft : hasParenthesis (List.replicate (Text.digitsValue ds) c) = false)
    (h : Expands cs symbols) :
    Expands (c :: '(' :: (ds ++ ')' :: cs))
      (List.replicate (Text.digitsValue ds) c ++ symbols) := by
  by_cases hsymbol : c ≠ '(' ∧ c ≠ ')'
  · have hunit := Expands.symbol
      { symbol := c
        count := some ds
        symbol_ne_open := hsymbol.1
        symbol_ne_close := hsymbol.2
        symbol_ne_lineFeed := fun _ => hc
        count_ne_nil := fun _ hcount => Option.some.inj hcount ▸ hne
        isAnyDigit_count := fun _ hcount => Option.some.inj hcount ▸ hdigits } h
    rw [Repetition.text, Repetition.countText, List.cons_append, List.cons_append,
      List.append_assoc] at hunit
    exact hunit
  · have hzero := (hasParenthesis_replicate_eq_false_iff.mp hleft).resolve_left hsymbol
    rw [hzero, List.replicate_zero, List.nil_append]
    rw [Decidable.not_and_iff_not_or_not, not_ne_iff, not_ne_iff] at hsymbol
    exact .vanished hsymbol hne hdigits hzero h

/-- **Where no parenthesis is left, a picture is made of what it can be made of.** -/
theorem expands_of_hasParenthesis_eq_false
    (h : hasParenthesis (expandFrom taken cs) = false) :
    Expands (cs.drop taken) (expandFrom taken cs) := by
  induction taken, cs using expandFrom.induct with
  | case1 taken =>
    rw [expandFrom_nil, List.drop_nil]
    exact .nil
  | case2 taken c cs ih => exact ih h
  | case3 c cs count length hcount ih =>
    by_cases hc : c = '\n'
    · rw [if_pos hc] at hcount
      cases hcount
    · rw [if_neg hc] at hcount
      obtain ⟨ds, rest, rfl, hne, hdigits, rfl, rfl⟩ := countAt?_eq_some_iff.mp hcount
      have hdrop : List.drop (ds.length + 2) ('(' :: (ds ++ ')' :: rest)) = rest := by simp
      rw [expandFrom_eq_drop, hdrop] at ih
      rw [expandFrom_counted hc hne hdigits] at h ⊢
      rw [hasParenthesis_append, Bool.or_eq_false_iff] at h
      exact (ih h.2).counted hc hne hdigits h.1
  | case4 c cs hcount ih =>
    rw [expandFrom] at h ⊢
    simp only [hcount] at h ⊢
    rw [hasParenthesis, List.any_cons, Bool.or_eq_false_iff] at h
    exact (ih h.2).cons (by simpa using h.1)

/-- **Which pictures can be expanded, and to what.** -/
theorem expand_eq_ok_iff : expand picture = .ok symbols ↔ Expands picture.toList symbols := by
  rw [expand]
  constructor
  · intro h
    split at h
    · cases h
    next hnone =>
      rw [Bool.not_eq_true] at hnone
      rw [← Except.ok.inj h]
      exact expands_of_hasParenthesis_eq_false hnone
  · intro h
    simp only [h.expandFrom_eq, h.hasParenthesis_eq, Bool.false_eq_true, if_false]

/-! ### Parentheses that are counted -/

/-- **Whether a parenthesis is counted**: one stands directly in front of an opening one. -/
def CountsParenthesis (cs : List Char) : Prop :=
  ['(', '('] <:+: cs ∨ [')', '('] <:+: cs

/-- Where there is no opening parenthesis, nothing stands in front of one. -/
theorem isChain_cons_of_notMem (h : '(' ∉ cs) :
    (c :: cs).IsChain fun a b => b = '(' → a ≠ '(' ∧ a ≠ ')' := by
  induction cs generalizing c with
  | nil => exact .singleton c
  | cons d cs ih =>
    rw [List.mem_cons, not_or] at h
    exact .cons_cons (fun hd => absurd hd.symm h.1) (ih h.2)

/-- In front of an opening parenthesis of what is written stands the symbol that is counted. -/
theorem isChain_text (r : Repetition) :
    r.text.IsChain fun a b => b = '(' → a ≠ '(' ∧ a ≠ ')' := by
  rw [Repetition.text, Repetition.countText]
  cases hcount : r.count with
  | none => exact .singleton r.symbol
  | some ds =>
    refine .cons_cons (fun _ => ⟨r.symbol_ne_open, r.symbol_ne_close⟩) (isChain_cons_of_notMem ?_)
    rw [List.mem_append, List.mem_singleton, not_or]
    exact ⟨fun hmem => (ne_of_isAnyDigit (r.isAnyDigit_count ds hcount _ hmem)).1 rfl, by decide⟩

theorem isChain_flatMap_text (rs : List Repetition) :
    (rs.flatMap Repetition.text).IsChain fun a b => b = '(' → a ≠ '(' ∧ a ≠ ')' := by
  induction rs with
  | nil => exact .nil
  | cons r rs ih =>
    rw [List.flatMap_cons, List.isChain_append]
    refine ⟨isChain_text r, ih, fun a _ b hb hopen => ?_⟩
    exact absurd (hopen ▸ hb) head?_flatMap_text_ne

/-- **No parenthesis is counted in what is written.** -/
theorem not_countsParenthesis_flatMap_text (rs : List Repetition) :
    ¬CountsParenthesis (rs.flatMap Repetition.text) := by
  have hfront := List.isChain_iff_forall_rel_of_append_cons_cons.mp (isChain_flatMap_text rs)
  rintro (⟨front, back, h⟩ | ⟨front, back, h⟩)
  · rw [List.append_assoc] at h
    exact (hfront h.symm rfl).1 rfl
  · rw [List.append_assoc] at h
    exact (hfront h.symm rfl).2 rfl

/-- What stands behind something counts no parenthesis where the whole counts none. -/
theorem not_countsParenthesis_of_append (h : ¬CountsParenthesis (ds ++ cs)) :
    ¬CountsParenthesis cs :=
  fun hcs => h (hcs.imp (·.trans (List.suffix_append ds cs).isInfix)
    (·.trans (List.suffix_append ds cs).isInfix))

/-- **Without parentheses that are counted, a picture that can be expanded is written.** -/
theorem Expands.exists_flatMap_text (h : Expands cs symbols) (hplain : ¬CountsParenthesis cs) :
    ∃ rs : List Repetition, cs = rs.flatMap Repetition.text ∧ symbols = symbolsOf rs := by
  induction h with
  | nil => exact ⟨[], rfl, rfl⟩
  | symbol r _ ih =>
    obtain ⟨rs, rfl, rfl⟩ := ih (not_countsParenthesis_of_append hplain)
    exact ⟨r :: rs, rfl, rfl⟩
  | @vanished c zeros cs symbols hc _ _ _ _ _ =>
    refine absurd ?_ hplain
    rcases hc with rfl | rfl
    · exact .inl (List.prefix_append ['(', '('] _).isInfix
    · exact .inr (List.prefix_append [')', '('] _).isInfix

/-- **What becomes of a picture whose counts are carried out.** It stands for what it is made
of, and a picture that is made of anything else is refused for its parentheses. The pictures
that can be written, with a count behind any symbol that is no parenthesis, are those that are
taken and in which no parenthesis is counted. -/
theorem expands_iff (picture : String) :
    (∀ symbols, expand picture = .ok symbols ↔ Expands picture.toList symbols) ∧
    (expand picture = .error (.unbalancedRepeat picture) ↔
      ¬∃ symbols, Expands picture.toList symbols) ∧
    ∀ symbols, (∃ rs : List Repetition, picture = written rs ∧ symbols = symbolsOf rs) ↔
      expand picture = .ok symbols ∧ ¬CountsParenthesis picture.toList := by
  refine ⟨fun symbols => expand_eq_ok_iff, ?_, fun symbols => ?_⟩
  · simp only [← expand_eq_ok_iff]
    rw [expand]
    split
    · refine iff_of_true rfl ?_
      rintro ⟨symbols, h⟩
      cases h
    · refine iff_of_false ?_ fun h => h ⟨_, rfl⟩
      intro h
      cases h
  · constructor
    · rintro ⟨rs, rfl, rfl⟩
      refine ⟨expand_written rs, ?_⟩
      rw [written, String.toList_ofList]
      exact not_countsParenthesis_flatMap_text rs
    · rintro ⟨h, hplain⟩
      obtain ⟨rs, hrs, rfl⟩ := (expand_eq_ok_iff.mp h).exists_flatMap_text hplain
      exact ⟨rs, by rw [written, ← hrs, String.ofList_toList], rfl⟩

/-- **Not only what is written can be expanded**: two opening parentheses, of which the first is
counted zero times by the second, are no picture that can be written, and expand to nothing. -/
theorem not_only_written :
    ¬∀ (picture : String) (symbols : List Char), expand picture = .ok symbols ↔
      ∃ rs : List Repetition, picture = written rs ∧ symbols = symbolsOf rs := by
  intro h
  have hexpand : expand "((0)" = .ok [] := by decide
  obtain ⟨rs, hrs, -⟩ := (h "((0)" []).mp hexpand
  refine not_countsParenthesis_flatMap_text rs (.inl ⟨[], ['0', ')'], ?_⟩)
  rw [← String.toList_ofList (l := rs.flatMap Repetition.text)]
  exact congrArg String.toList hrs

end FixedWidth.Picture
