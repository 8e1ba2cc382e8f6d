import FixedWidth.Display.Digits
import FixedWidth.Proofs.Picture.Clause
import FixedWidth.Proofs.Picture.Geometry
import FixedWidth.Proofs.Storage.Zoned

/-!
# A number's picture as a clause and as a size

The picture of a number is read in two ways that know nothing of each other. As a clause it
is a row of symbols, and each of them stands for one character or for none. As a geometry it
is a sign and two counts of digits. The two readings agree
(`FixedWidth.Picture.clause_agrees_with_geometry`): the clause has a place for every digit of
the field and one more for its sign, and a clause of nothing but digits accepts exactly the
texts that a field of digits reads.

There has to be a digit for the last. A picture can count its digits zero times; its clause
then accepts the empty text, as any clause without places does, but there is no number in a
field without digits (`FixedWidth.Picture.not_agrees_without_digits`).
-/

namespace FixedWidth.Picture

open FixedWidth.Geometry (isDigitSymbol isNumericSymbol isNumericSymbol_of_mem_symbolsOf)

variable {symbols cs : List Char} {tokens : List Token} {token : Token} {c : Char}

/-! ### The places of a clause -/

/-- The symbols of a number that stand for a character are its digits and its sign. -/
theorem takesPosition_of_ofChar? (hc : isNumericSymbol c = true)
    (h : Token.ofChar? c = some token) : token.takesPosition = (isDigitSymbol c || c == 'S') := by
  simp only [isNumericSymbol, Bool.or_eq_true, beq_iff_eq] at hc
  rcases hc with (((rfl | rfl) | rfl) | rfl) | rfl <;>
    rw [← Option.some.inj h] <;> rfl

/-- **The places of a number's clause are its digits and its sign.** -/
theorem length_positions (h : ∀ c ∈ symbols, isNumericSymbol c = true)
    (htokens : symbols.map Token.ofChar? = tokens.map some) :
    (tokens.filter Token.takesPosition).length =
      symbols.countP isDigitSymbol + symbols.count 'S' := by
  induction symbols generalizing tokens with
  | nil =>
    rw [List.map_eq_nil_iff.mp htokens.symm]
    rfl
  | cons c symbols ih =>
    obtain ⟨token, tokens, rfl, htoken, hrest⟩ := List.map_eq_cons_iff.mp htokens.symm
    obtain ⟨hc, hsymbols⟩ := List.forall_mem_cons.mp h
    have hplace := takesPosition_of_ofChar? hc htoken.symm
    have ih := ih hsymbols hrest.symm
    -- no digit is a sign, so that no place is counted twice
    have hdisjoint : isDigitSymbol c = true → (c == 'S') = false := by
      simp only [isDigitSymbol, Bool.or_eq_true, beq_iff_eq]
      rintro (rfl | rfl) <;> rfl
    rw [List.filter_cons, hplace, List.countP_cons, List.count_cons]
    cases hdigit : isDigitSymbol c with
    | true =>
      rw [hdisjoint hdigit]
      simp only [Bool.or_false, if_true, List.length_cons, Bool.false_eq_true, if_false]
      omega
    | false =>
      cases c == 'S' <;>
        simp only [Bool.or_false, Bool.or_true, if_true, List.length_cons, Bool.false_eq_true,
          if_false] <;> omega

/-- Where only digits stand for a character, every place is one of a digit. -/
theorem eq_digit_of_mem_positions (h : ∀ c ∈ symbols, c = '9' ∨ c = 'V' ∨ c = 'P')
    (htokens : symbols.map Token.ofChar? = tokens.map some) :
    ∀ token ∈ tokens.filter Token.takesPosition, token = .digit := by
  intro token hmem
  obtain ⟨hmem, hplace⟩ := List.mem_filter.mp hmem
  have hsome : some token ∈ symbols.map Token.ofChar? := htokens ▸ List.mem_map_of_mem hmem
  obtain ⟨c, hc, hchar⟩ := List.mem_map.mp hsome
  rcases h c hc with rfl | rfl | rfl
  · exact (Option.some.inj hchar).symm
  · rw [← Option.some.inj hchar] at hplace
    cases hplace
  · rw [← Option.some.inj hchar] at hplace
    cases hplace

/-- Places of digits accept as many digits. -/
theorem forall₂_accepts_digit_iff (h : ∀ token ∈ tokens, token = .digit) :
    List.Forall₂ (fun token c => token.accepts c = true) tokens cs ↔
      cs.length = tokens.length ∧ cs.all Char.isDigit = true := by
  induction tokens generalizing cs with
  | nil =>
    rw [List.forall₂_nil_left_iff, List.length_nil, List.length_eq_zero_iff]
    refine ⟨fun hcs => ⟨hcs, ?_⟩, fun hcs => hcs.1⟩
    rw [hcs]
    rfl
  | cons token tokens ih =>
    obtain ⟨rfl, htokens⟩ := List.forall_mem_cons.mp h
    obtain _ | ⟨c, cs⟩ := cs
    · exact iff_of_false (fun h => nomatch h) fun h => nomatch h.1
    · rw [List.forall₂_cons, ih htokens, List.length_cons, List.length_cons, List.all_cons,
        Bool.and_eq_true, Nat.add_right_cancel_iff]
      exact and_left_comm

/-! ### The two readings -/

/-- **When a field of digits is read.** -/
theorem exists_parseDigits_iff {n scale : Nat} :
    (∃ d, Display.parseDigits cs n scale = .ok d) ↔
      cs.length = n ∧ cs ≠ [] ∧ cs.all Char.isDigit = true := by
  have hwidth : (cs.length : Int) ≠ n ↔ cs.length ≠ n := by omega
  simp only [Display.parseDigits, hwidth]
  by_cases hlength : cs.length = n
  · simp only [hlength, ne_eq, not_true_eq_false, if_false, true_and,
      Zoned.decode_unsigned_eq_ok_iff]
    exact ⟨fun ⟨d, _, hne, hdigits, _⟩ => ⟨hne, hdigits⟩,
      fun ⟨hne, hdigits⟩ => ⟨_, by omega, hne, hdigits, rfl⟩⟩
  · rw [if_pos hlength]
    exact iff_of_false (fun ⟨d, h⟩ => nomatch h) fun h => hlength h.1

/-- The symbols of a number are symbols of a clause. -/
theorem isControl_of_isNumericSymbol (h : isNumericSymbol c = true) : isControl c = false := by
  have hplain : ∀ s ∈ ['9', 'S', 'V', 'P', 'Z'], isControl s = false :=
    Text.forall_mem_of_all (by decide)
  exact hplain c (Geometry.isNumericSymbol_iff.mp h)

/-- **The picture of a number is a clause**, with a symbol for each of its own. -/
theorem exists_compile_written {rs : List Repetition}
    (h : ∀ r ∈ rs, isNumericSymbol r.symbol = true) :
    ∃ clause, compile (written rs) true = .ok clause ∧
      (symbolsOf rs).map Token.ofChar? = clause.tokens.map some := by
  obtain ⟨tokens, htokens⟩ := (@exists_tokensFrom_iff 0 (symbolsOf rs)).mpr fun c hc =>
    isControl_of_isNumericSymbol (isNumericSymbol_of_mem_symbolsOf h c hc)
  refine ⟨⟨written rs, tokens⟩, ?_, tokensFrom_eq_ok_iff.mp htokens⟩
  exact bind_eq_ok_iff.mpr ⟨_, expand_written rs,
    bind_eq_ok_iff.mpr ⟨tokens, htokens, rfl⟩⟩

/-- **The clause of a number's picture and its geometry agree**: the clause is as wide as
the field, with one place more where the field has a sign; and where only digits stand for
a character, and at least one does, it accepts the texts that are read as a field of as
many digits. -/
theorem clause_agrees_with_geometry {rs : List Repetition} {g : Geometry}
    (hnumeric : ∀ r ∈ rs, isNumericSymbol r.symbol = true)
    (hg : Geometry.ofPicture (written rs) = .ok g) :
    ∃ clause, compile (written rs) true = .ok clause ∧
      clause.width = (g.length + if g.isSigned then 1 else 0) ∧
      ((∀ r ∈ rs, r.symbol = '9' ∨ r.symbol = 'V' ∨ r.symbol = 'P') →
        (∃ r ∈ rs, r.symbol = '9' ∧ 0 < r.times) →
        ∀ cs, clause.accepts cs = true ↔
          ∃ d, Display.parseDigits cs g.length g.scale = .ok d) := by
  have hsymbols := isNumericSymbol_of_mem_symbolsOf hnumeric
  rw [Geometry.ofPicture_written hnumeric] at hg
  obtain ⟨clause, hclause, htokens⟩ := exists_compile_written hnumeric
  have hwidth : clause.width = (g.length + if g.isSigned then 1 else 0) := by
    rw [Geometry.length_of_ofSymbols hsymbols hg, ← Geometry.count_sign_of_ofSymbols hsymbols hg]
    exact length_positions hsymbols htokens
  refine ⟨clause, hclause, hwidth, fun honly ⟨r, hr, hdigit, htimes⟩ cs => ?_⟩
  have honly' : ∀ c ∈ symbolsOf rs, c = '9' ∨ c = 'V' ∨ c = 'P' := by
    intro c hc
    obtain ⟨r, hr, rfl, -⟩ := mem_symbolsOf_iff.mp hc
    exact honly r hr
  -- no sign is among the symbols, so that the clause has the places of the digits alone
  have hunsigned : clause.width = g.length := by
    have hsign : (symbolsOf rs).count 'S' = 0 :=
      List.count_eq_zero_of_not_mem fun hmem => by simpa using honly' 'S' hmem
    rw [hwidth, ← Geometry.count_sign_of_ofSymbols hsymbols hg, hsign, Nat.add_zero]
  have hpositive : 0 < g.length := by
    rw [Geometry.length_of_ofSymbols hsymbols hg, List.countP_pos_iff]
    exact ⟨'9', mem_symbolsOf_iff.mpr ⟨r, hr, hdigit.symm, htimes⟩, rfl⟩
  rw [Clause.accepts_iff, Clause.positions,
    forall₂_accepts_digit_iff (eq_digit_of_mem_positions honly' htokens),
    exists_parseDigits_iff]
  change cs.length = clause.width ∧ _ ↔ _
  rw [hunsigned]
  refine and_congr_right fun hlength => (and_iff_right ?_).symm
  exact List.ne_nil_of_length_pos (by omega)

/-- Four digits of which one stands behind the point, as `9(3)V9P` says. -/
def rate : List Repetition :=
  [.counted '9' ['3'], .alone 'V', .alone '9', .alone 'P']

theorem rate_clause_agrees :
    written rate = "9(3)V9P" ∧ (∀ r ∈ rate, isNumericSymbol r.symbol = true) ∧
      Geometry.ofPicture (written rate) = .ok (.numeric false 3 1) ∧
      ∃ clause, compile (written rate) true = .ok clause ∧ clause.width = 4 ∧
        ∀ cs, clause.accepts cs = true ↔
          ∃ d, Display.parseDigits cs (4 : Nat) (1 : Nat) = .ok d := by
  have hnumeric : ∀ r ∈ rate, isNumericSymbol r.symbol = true := by decide
  have hg : Geometry.ofPicture (written rate) = .ok (.numeric false 3 1) := by decide +kernel
  obtain ⟨clause, hclause, hwidth, hagree⟩ := clause_agrees_with_geometry hnumeric hg
  exact ⟨by decide, hnumeric, hg, clause, hclause, hwidth, hagree (by decide) (by decide)⟩

/-- A digit that is counted zero times, and a point, as `9(0)V` says. -/
def noDigits : List Repetition :=
  [.counted '9' ['0'], .alone 'V']

/-- **A digit that is counted zero times is none**: the clause is left with no place and
accepts the empty text, in which a field reads no number. -/
theorem not_agrees_without_digits :
    ¬∀ (rs : List Repetition) (g : Geometry), (∀ r ∈ rs, isNumericSymbol r.symbol = true) →
      Geometry.ofPicture (written rs) = .ok g →
      ∃ clause, compile (written rs) true = .ok clause ∧
        clause.width = (g.length + if g.isSigned then 1 else 0) ∧
        ((∀ r ∈ rs, r.symbol = '9' ∨ r.symbol = 'V' ∨ r.symbol = 'P') →
          (∃ r ∈ rs, r.symbol = '9') →
          ∀ cs, clause.accepts cs = true ↔
            ∃ d, Display.parseDigits cs g.length g.scale = .ok d) := by
  intro hall
  have hg : Geometry.ofPicture (written noDigits) = .ok (.numeric false 0 0) := by decide +kernel
  have hcompile : compile (written noDigits) true = .ok ⟨"9(0)V", [.impliedPoint]⟩ := by
    decide +kernel
  obtain ⟨clause, hclause, -, hagree⟩ := hall noDigits _ (by decide) hg
  obtain rfl := Except.ok.inj (hcompile.symm.trans hclause)
  obtain ⟨d, hd⟩ := (hagree (by decide) (by decide) []).mp rfl
  cases hd

end FixedWidth.Picture
