import FixedWidth.Proofs.Picture.Mismatch
import Mathlib.Logic.Relation

/-!
# Clauses put together

A picture is read character by character, and no character changes what another one stands
for. So the symbols of two pictures in a row are those of the first and then those of the
second, and so are the texts (`FixedWidth.Picture.matches_append`): a text of the whole is
one of the first picture followed by one of the second, and it can be cut at one place only,
as all texts of a clause are of one length.

Of a point that is not stored and of a scale factor nothing is left in the places of a
clause. What counts of a picture is its row of symbols without these
(`FixedWidth.Picture.heard`), and putting one in or taking one out does not change that row
wherever it is done.

What keeps a picture from being a clause is a control character, and it keeps every picture
around it from being one. `FixedWidth.Picture.pictures_compose` puts all this together.
-/

namespace FixedWidth.Picture

variable {tokens tokens' : List Token} {token : Token} {cs cs' : List Char} {c : Char}
  {clause : Clause}

/-! ### Texts in a row -/

theorem Clause.accepts_iff_matches : clause.accepts cs = true ↔ Matches clause.tokens cs :=
  accepts_iff.trans matches_iff.symm

/-- The texts of a row of symbols are of one length. -/
theorem Matches.length_eq (h : Matches tokens cs) :
    cs.length = (tokens.filter Token.takesPosition).length :=
  (matches_iff.mp h).length_eq.symm

/-- **The texts of two rows of symbols are those of the first with those of the second behind
them.** -/
theorem matches_append : Matches (tokens ++ tokens') cs ↔
    ∃ front back, cs = front ++ back ∧ Matches tokens front ∧ Matches tokens' back := by
  constructor
  · intro h
    induction tokens generalizing cs with
    | nil => exact ⟨[], cs, rfl, .nil, h⟩
    | cons token tokens ih =>
      cases h with
      | silent hsilent h =>
        obtain ⟨front, back, rfl, hfront, hback⟩ := ih h
        exact ⟨front, back, rfl, .silent hsilent hfront, hback⟩
      | @place _ _ c _ hplace haccepts h =>
        obtain ⟨front, back, rfl, hfront, hback⟩ := ih h
        exact ⟨c :: front, back, rfl, .place hplace haccepts hfront, hback⟩
  · rintro ⟨front, back, rfl, hfront, hback⟩
    induction hfront with
    | nil => exact hback
    | silent hsilent _ ih => exact .silent hsilent ih
    | place hplace haccepts _ ih => exact .place hplace haccepts ih

/-- **What two clauses are in a row.** -/
structure InRow (left right whole : Clause) : Prop where
  width_eq : whole.width = left.width + right.width
  accepts_iff : ∀ cs, whole.accepts cs = true ↔ ∃ front back, cs = front ++ back ∧
    front.length = left.width ∧ left.accepts front = true ∧ right.accepts back = true

theorem inRow_append {left right whole : Clause} (h : whole.tokens = left.tokens ++ right.tokens) :
    InRow left right whole where
  width_eq := by
    rw [Clause.width, Clause.positions, h, List.filter_append, List.length_append]
    rfl
  accepts_iff cs := by
    rw [Clause.accepts_iff_matches, h, matches_append]
    refine exists_congr fun front => exists_congr fun back => and_congr_right fun _ => ?_
    rw [Clause.accepts_iff_matches, Clause.accepts_iff_matches]
    -- the length is no further condition: a text of the left clause has its width
    exact (and_iff_right_of_imp fun h => h.1.length_eq).symm

/-! ### Symbols that stand for no character -/

/-- The two characters that are symbols for none. -/
def isSilent (c : Char) : Bool :=
  c == 'V' || c == 'P'

/-- The characters of a picture that are symbols for one. -/
def heard (cs : List Char) : List Char :=
  cs.filter fun c => !isSilent c

/-- **A picture with a silent symbol put in**, wherever it may be. -/
def PutsSilent (cs cs' : List Char) : Prop :=
  ∃ front c back, isSilent c = true ∧ cs = front ++ back ∧ cs' = front ++ c :: back

theorem PutsSilent.heard_eq (h : PutsSilent cs cs') : heard cs = heard cs' := by
  obtain ⟨front, c, back, hc, rfl, rfl⟩ := h
  rw [heard, heard, List.filter_append, List.filter_append, List.filter_cons, hc]
  rfl

/-- What is heard of a picture stays the same however many silent symbols are put in and taken
out. -/
theorem heard_eq_of_eqvGen (h : Relation.EqvGen PutsSilent cs cs') : heard cs = heard cs' := by
  induction h with
  | rel cs cs' hput => exact hput.heard_eq
  | refl cs => rfl
  | symm cs cs' _ ih => exact ih.symm
  | trans cs cs' cs'' _ _ ih ih' => exact ih.trans ih'

theorem takesPosition_eq_not_isSilent (h : Token.ofChar? c = some token) :
    token.takesPosition = !isSilent c := by
  have hclasses : ['9', 'X', 'A', 'Z', 'S', 'V', 'P'].all (fun s =>
      (Token.ofChar? s).all fun token => token.takesPosition == !isSilent s) = true := by decide
  by_cases hmem : c ∈ ['9', 'X', 'A', 'Z', 'S', 'V', 'P']
  · have hclass := List.all_eq_true.mp hclasses c hmem
    rw [h] at hclass
    exact eq_of_beq hclass
  · simp only [List.mem_cons, List.not_mem_nil, or_false, not_or] at hmem
    obtain ⟨h9, hX, hA, hZ, hS, hV, hP⟩ := hmem
    simp only [Token.ofChar?, beq_iff_eq, h9, hX, hA, hZ, hS, hV, hP, if_false] at h
    split at h
    · cases h
    · rw [← Option.some.inj h]
      simp [Token.takesPosition, isSilent, hV, hP]

/-- **The places of a clause are the symbols of what is heard of its picture.** -/
theorem map_ofChar?_heard (h : cs.map Token.ofChar? = tokens.map some) :
    (heard cs).map Token.ofChar? = (tokens.filter Token.takesPosition).map some := by
  induction cs generalizing tokens with
  | nil =>
    rw [List.map_eq_nil_iff.mp h.symm]
    rfl
  | cons c cs ih =>
    obtain ⟨token, tokens, rfl, htoken, hrest⟩ := List.map_eq_cons_iff.mp h.symm
    rw [heard, List.filter_cons, List.filter_cons, takesPosition_eq_not_isSilent htoken.symm]
    split
    · rw [List.map_cons, List.map_cons, htoken]
      exact congrArg _ (ih hrest.symm)
    · exact ih hrest.symm

/-- A silent symbol is no control character. -/
theorem isControl_of_isSilent (h : isSilent c = true) : isControl c = false := by
  simp only [isSilent, Bool.or_eq_true, beq_iff_eq] at h
  rcases h with rfl | rfl <;> rfl

/-- Whether a picture is a clause can be heard. -/
theorem forall_heard_iff : (∀ c ∈ heard cs, isControl c = false) ↔
    ∀ c ∈ cs, isControl c = false := by
  constructor
  · intro h c hc
    cases hsilent : isSilent c with
    | true => exact isControl_of_isSilent hsilent
    | false => exact h c (List.mem_filter.mpr ⟨hc, by rw [hsilent]; rfl⟩)
  · exact fun h c hc => h c (List.mem_of_mem_filter hc)

/-- **Clauses that cannot be told apart**, by any text or by their width. -/
structure SameTexts (clause clause' : Clause) : Prop where
  width_eq : clause'.width = clause.width
  accepts_eq : ∀ cs, clause'.accepts cs = clause.accepts cs

/-- A clause has no other texts than those of its places. -/
theorem sameTexts_of_positions_eq {clause clause' : Clause}
    (h : clause'.positions = clause.positions) : SameTexts clause clause' where
  width_eq := congrArg List.length h
  accepts_eq cs := by
    rw [Bool.eq_iff_iff, Clause.accepts_iff, Clause.accepts_iff, h]

/-- **Pictures of which the same is heard are clauses together, with the same texts.** -/
theorem exists_compile_of_heard_eq {p q : String} (hheard : heard p.toList = heard q.toList)
    (h : compile p false = .ok clause) :
    ∃ clause', compile q false = .ok clause' ∧ SameTexts clause clause' := by
  have hplain : ∀ c ∈ q.toList, isControl c = false := by
    rw [← forall_heard_iff, ← hheard, forall_heard_iff]
    exact exists_compile_iff.mp ⟨clause, h⟩
  obtain ⟨clause', h'⟩ := exists_compile_iff.mpr hplain
  refine ⟨clause', h', sameTexts_of_positions_eq ?_⟩
  have hplaces := map_ofChar?_heard (compile_eq_ok_iff.mp h).2
  have hplaces' := map_ofChar?_heard (compile_eq_ok_iff.mp h').2
  rw [← hheard, hplaces] at hplaces'
  exact (List.map_injective_iff.mpr (Option.some_injective Token) hplaces').symm

/-! ### The laws -/

/-- **How pictures are put together.** Two clauses in a row are a clause whose texts are those
of the first with those of the second behind them; a point that is not stored and a scale
factor can be put in and taken out anywhere; and what keeps a picture from being a clause is a
control character, of which the first one is reported with its place. -/
theorem pictures_compose (p q : String) :
    (∀ left right, compile p false = .ok left → compile q false = .ok right →
      ∃ whole, compile (p ++ q) false = .ok whole ∧ InRow left right whole) ∧
    (Relation.EqvGen PutsSilent p.toList q.toList →
      ∀ clause, compile p false = .ok clause →
        ∃ clause', compile q false = .ok clause' ∧ SameTexts clause clause') ∧
    ((∃ fault, compile p false = .error fault) ↔ ∃ c ∈ p.toList, isControl c = true) ∧
    ∀ fault, compile p false = .error fault ↔
      ∃ before c after, p.toList = before ++ c :: after ∧ (∀ b ∈ before, isControl b = false) ∧
        isControl c = true ∧ fault = .pictureToken c before.length := by
  refine ⟨fun left right hleft hright => ?_, fun hsilent clause h => ?_, ?_,
    fun fault => compile_eq_error_iff⟩
  · obtain ⟨-, hleft⟩ := compile_eq_ok_iff.mp hleft
    obtain ⟨-, hright⟩ := compile_eq_ok_iff.mp hright
    refine ⟨⟨p ++ q, left.tokens ++ right.tokens⟩, compile_eq_ok_iff.mpr ⟨rfl, ?_⟩,
      inRow_append rfl⟩
    rw [String.toList_append, List.map_append, List.map_append, hleft, hright]
  · exact exists_compile_of_heard_eq (heard_eq_of_eqvGen hsilent) h
  · constructor
    · rintro ⟨fault, h⟩
      obtain ⟨before, c, after, hp, -, hc, -⟩ := compile_eq_error_iff.mp h
      exact ⟨c, hp ▸ List.mem_append_right before List.mem_cons_self, hc⟩
    · rintro ⟨c, hmem, hc⟩
      cases h : compile p false with
      | error fault => exact ⟨fault, rfl⟩
      | ok clause =>
        have hplain := exists_compile_iff.mp ⟨clause, h⟩ c hmem
        rw [hc] at hplain
        cases hplain

end FixedWidth.Picture
