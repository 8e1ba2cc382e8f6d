import FixedWidth.Proofs.Fault
import FixedWidth.Picture.Clause
import Mathlib.Data.List.Forall2
import Mathlib.Data.Set.List

/-!
# Which pictures are clauses, and which texts they accept

Every character of a picture is a symbol of its own unless it is a control character
(`FixedWidth.Picture.tokensFrom_eq_ok_iff`). So a picture whose parentheses are taken
literally is a clause exactly where no control character stands in it
(`FixedWidth.Picture.exists_compile_iff`), and of several the first is reported, with its
place (`FixedWidth.Picture.compile_eq_error_iff`).

A text is accepted when its characters are, one by one, by the symbols that stand for a
character (`FixedWidth.Picture.Clause.accepts_iff`).
-/

namespace FixedWidth.Picture

namespace Token

/-- None of the characters that stand for a class is a control character, so that only
control characters are no symbols. -/
theorem ofChar?_eq_none_iff {c : Char} : ofChar? c = none ↔ isControl c = true := by
  have hsymbols : ['9', 'X', 'A', 'Z', 'S', 'V', 'P'].all
      (fun s => !isControl s && (ofChar? s).isSome) = true := by decide
  by_cases hmem : c ∈ ['9', 'X', 'A', 'Z', 'S', 'V', 'P']
  · obtain ⟨hcontrol, hsome⟩ := Bool.and_eq_true_iff.mp (List.all_eq_true.mp hsymbols c hmem)
    rw [Bool.not_eq_true'] at hcontrol
    rw [hcontrol]
    exact iff_of_false (Option.isSome_iff_ne_none.mp hsome) Bool.false_ne_true
  · simp only [List.mem_cons, List.not_mem_nil, or_false, not_or] at hmem
    obtain ⟨h9, hX, hA, hZ, hS, hV, hP⟩ := hmem
    simp only [ofChar?, beq_iff_eq, h9, hX, hA, hZ, hS, hV, hP, if_false]
    cases isControl c <;> simp

end Token

variable {position : Nat} {picture : String} {cs : List Char} {clause : Clause} {fault : Fault}

/-- **The symbols of a text are those of its characters**, wherever it begins. -/
theorem tokensFrom_eq_ok_iff {tokens : List Token} :
    tokensFrom position cs = .ok tokens ↔ cs.map Token.ofChar? = tokens.map some := by
  induction cs generalizing position tokens with
  | nil =>
    rw [tokensFrom, List.map_nil, eq_comm (a := []), List.map_eq_nil_iff, Except.ok.injEq, eq_comm]
  | cons c cs ih =>
    rw [tokensFrom, List.map_cons]
    cases hc : Token.ofChar? c with
    | none => cases tokens <;> simp
    | some token =>
      obtain _ | ⟨token', tokens⟩ := tokens
      · cases tokensFrom (position + 1) cs <;> simp [Except.map]
      · rw [List.map_cons, List.cons.injEq, ← @ih (position + 1), Option.some.injEq]
        cases tokensFrom (position + 1) cs <;> simp [Except.map]

theorem exists_tokensFrom_iff :
    (∃ tokens, tokensFrom position cs = .ok tokens) ↔ ∀ c ∈ cs, isControl c = false := by
  have hrange : (∃ tokens, tokensFrom position cs = .ok tokens) ↔
      cs.map Token.ofChar? ∈ Set.range (List.map some) :=
    exists_congr fun tokens => tokensFrom_eq_ok_iff.trans eq_comm
  rw [hrange, Set.range_list_map, Set.mem_ofPred_eq, List.forall_mem_map]
  refine forall₂_congr fun c _ => ?_
  rw [Set.mem_range, ← Option.ne_none_iff_exists, ne_eq, Token.ofChar?_eq_none_iff,
    Bool.not_eq_true]

/-- The symbols of a text end at the first control character. -/
theorem tokensFrom_eq_error_iff : tokensFrom position cs = .error fault ↔
    ∃ before c after, cs = before ++ c :: after ∧ (∀ b ∈ before, isControl b = false) ∧
      isControl c = true ∧ fault = .pictureToken c (position + before.length) := by
  induction cs generalizing position with
  | nil =>
    refine iff_of_false (fun h => nomatch h) ?_
    rintro ⟨before, c, after, h, -⟩
    exact List.append_ne_nil_of_right_ne_nil before (List.cons_ne_nil c after) h.symm
  | cons c cs ih =>
    rw [tokensFrom]
    cases hc : Token.ofChar? c with
    | none =>
      have hcontrol := Token.ofChar?_eq_none_iff.mp hc
      constructor
      · intro h
        exact ⟨[], c, cs, rfl, fun b hb => (nomatch hb), hcontrol, (Except.error.inj h).symm⟩
      · rintro ⟨_ | ⟨b, before⟩, d, after, h, hbefore, -, rfl⟩
        · rw [(List.cons.inj h).1]
          rfl
        · -- the control character in front would be one of those before the first one
          have hb := hbefore b List.mem_cons_self
          rw [← (List.cons.inj h).1, hcontrol] at hb
          cases hb
    | some token =>
      have hplain : isControl c = false := by
        rw [← Bool.not_eq_true, ← Token.ofChar?_eq_none_iff, hc]
        exact Option.some_ne_none token
      have hrest : (tokensFrom (position + 1) cs).map (token :: ·) = .error fault ↔
          tokensFrom (position + 1) cs = .error fault := by
        cases tokensFrom (position + 1) cs <;> simp [Except.map]
      rw [hrest, ih]
      constructor
      · rintro ⟨before, d, after, rfl, hbefore, hd, rfl⟩
        refine ⟨c :: before, d, after, rfl, List.forall_mem_cons.mpr ⟨hplain, hbefore⟩, hd, ?_⟩
        rw [List.length_cons, Nat.add_assoc, Nat.add_comm 1]
      · rintro ⟨_ | ⟨b, before⟩, d, after, h, hbefore, hd, rfl⟩
        · rw [← (List.cons.inj h).1, hplain] at hd
          cases hd
        · obtain ⟨-, hbefore⟩ := List.forall_mem_cons.mp hbefore
          refine ⟨before, d, after, (List.cons.inj h).2, hbefore, hd, ?_⟩
          rw [List.length_cons, Nat.add_assoc, Nat.add_comm 1]

/-! ### Which clause a picture is -/

/-- **A picture is the clause of its characters' symbols.** -/
theorem compile_eq_ok_iff : compile picture false = .ok clause ↔
    clause.picture = picture ∧ picture.toList.map Token.ofChar? = clause.tokens.map some := by
  constructor
  · intro h
    obtain ⟨source, hsource, hrest⟩ := bind_eq_ok_iff.mp h
    obtain ⟨tokens, htokens, hclause⟩ := bind_eq_ok_iff.mp hrest
    obtain rfl := Except.ok.inj hsource
    obtain rfl := Except.ok.inj hclause
    exact ⟨rfl, tokensFrom_eq_ok_iff.mp htokens⟩
  · obtain ⟨picture', tokens⟩ := clause
    rintro ⟨rfl, htokens⟩
    exact bind_eq_ok_iff.mpr
      ⟨_, rfl, bind_eq_ok_iff.mpr ⟨tokens, tokensFrom_eq_ok_iff.mpr htokens, rfl⟩⟩

/-- **A picture is a clause when no control character stands in it.** -/
theorem exists_compile_iff :
    (∃ clause, compile picture false = .ok clause) ↔
      ∀ c ∈ picture.toList, isControl c = false := by
  rw [← @exists_tokensFrom_iff 0]
  constructor
  · rintro ⟨clause, h⟩
    exact ⟨clause.tokens, tokensFrom_eq_ok_iff.mpr (compile_eq_ok_iff.mp h).2⟩
  · rintro ⟨tokens, htokens⟩
    exact ⟨⟨picture, tokens⟩, compile_eq_ok_iff.mpr ⟨rfl, tokensFrom_eq_ok_iff.mp htokens⟩⟩

/-- **A picture is no clause for its first control character.** -/
theorem compile_eq_error_iff : compile picture false = .error fault ↔
    ∃ before c after, picture.toList = before ++ c :: after ∧
      (∀ b ∈ before, isControl b = false) ∧ isControl c = true ∧
      fault = .pictureToken c before.length := by
  have htokens := @tokensFrom_eq_error_iff 0 picture.toList fault
  simp only [Nat.zero_add] at htokens
  rw [← htokens]
  change (tokensFrom 0 picture.toList >>= fun tokens => pure (⟨picture, tokens⟩ : Clause)) =
    .error fault ↔ _
  rw [bind_eq_error_iff]
  refine or_iff_left ?_
  rintro ⟨tokens, -, h⟩
  cases h

/-! ### Which texts are accepted -/

namespace Clause

theorem firstRejected?_eq_none_iff {tokens : List Token} {cs : List Char}
    (h : cs.length = tokens.length) :
    firstRejected? tokens cs = none ↔
      List.Forall₂ (fun token c => token.accepts c = true) tokens cs := by
  induction tokens generalizing cs with
  | nil =>
    rw [List.length_eq_zero_iff.mp h]
    exact iff_of_true rfl .nil
  | cons token tokens ih =>
    obtain _ | ⟨c, cs⟩ := cs
    · cases h
    rw [firstRejected?, List.forall₂_cons, ← ih (Nat.succ.inj h)]
    cases token.accepts c <;> simp

/-- **A text is accepted when its characters are, one by one.** -/
theorem accepts_iff {clause : Clause} {cs : List Char} :
    clause.accepts cs = true ↔
      List.Forall₂ (fun token c => token.accepts c = true) clause.positions cs := by
  rw [accepts, Option.isNone_iff_eq_none, firstMismatch?, width]
  split
  next hlength =>
    exact iff_of_false (fun h => nomatch h) fun h => hlength h.length_eq.symm
  next hlength => exact firstRejected?_eq_none_iff (not_not.mp hlength)

end Clause

end FixedWidth.Picture
