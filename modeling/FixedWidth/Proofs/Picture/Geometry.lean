import FixedWidth.Picture.Geometry
import FixedWidth.Proofs.Picture.Repeat
import FixedWidth.Proofs.Text.Bare

/-!
# The geometry of a number's picture

The geometry of a picture is read off its symbols, once white space, introducing words,
case and repeat counts are out of the way. In a picture of a number as it is written there
is nothing but the counts to be carried out (`FixedWidth.Geometry.ofPicture_written`).

Of the symbols of a number not much can be wrong: there has to be one, there may be one
point, and a sign stands in front (`FixedWidth.Geometry.ofSymbols_eq_ok_iff`). What is left
is counting.
-/

namespace FixedWidth.Geometry

open Picture (Repetition written symbolsOf)

variable {symbols : List Char} {picture : String} {g : Geometry} {c : Char}

/-! ### From the picture to its symbols -/

/-- What is left of a picture without the white space around it, the words that introduce it,
and the case of its letters. -/
def bareText (cs : List Char) : List Char :=
  Text.upper (dropIntroduction (Text.trim cs))

/-- A picture is read off what is left of it, and shown in messages as it is. -/
theorem ofPicture_eq (picture : String) : ofPicture picture =
    Picture.expand (String.ofList (bareText picture.toList)) >>=
      fun symbols => ofSymbols symbols picture :=
  rfl

/-- **A word that introduces a picture** is left out, and so are the white space behind it
and the second word, if that follows. -/
theorem afterIntroduction?_append {word gap rest : List Char}
    (hword : word = "PIC".toList ∨ word = "PICTURE".toList) (hgap : Text.IsGap gap)
    (hblank : Text.isBlank c = false) : afterIntroduction? (word ++ (gap ++ c :: rest)) =
      some (Text.dropOptional "IS".toList (c :: rest)) := by
  have hlonger : Text.dropKeyword? "TURE".toList (gap ++ c :: rest) = none :=
    Text.dropKeyword?_gap hgap (by decide)
  have hdrop : afterIntroduction? (word ++ (gap ++ c :: rest)) =
      (Text.dropBlanks? (gap ++ c :: rest)).bind fun left =>
        some (Text.dropOptional "IS".toList left) := by
    rcases hword with rfl | rfl
    · change (Text.dropBlanks? ((Text.dropKeyword? "TURE".toList (gap ++ c :: rest)).getD
        (gap ++ c :: rest))).bind _ = _
      rw [hlonger, Option.getD_none]
      rfl
    · rfl
  rw [hdrop, Text.dropBlanks?_append_cons hgap hblank, Option.bind_some]

/-- The second word of an introduction is left out only where it stands. -/
theorem dropOptional_is_cons {rest : List Char} (hI : Text.foldLetter c ≠ 'I') :
    Text.dropOptional "IS".toList (c :: rest) = c :: rest := by
  have hkeyword : Text.dropKeyword? "IS".toList (c :: rest) = none := if_neg hI
  rw [Text.dropOptional, hkeyword]
  rfl

theorem afterIntroduction?_word {word rest : List Char}
    (hword : word = "PIC".toList ∨ word = "PICTURE".toList) (hblank : Text.isBlank c = false)
    (hI : Text.foldLetter c ≠ 'I') :
    afterIntroduction? (word ++ ' ' :: c :: rest) = some (c :: rest) := by
  have hgap : Text.IsGap [' '] := ⟨List.cons_ne_nil _ _, by decide⟩
  have hdrop : afterIntroduction? (word ++ ' ' :: c :: rest) =
      some (Text.dropOptional "IS".toList (c :: rest)) :=
    afterIntroduction?_append hword hgap hblank
  rwa [dropOptional_is_cons hI] at hdrop

/-- Nothing is changed in a picture of characters that are kept. -/
theorem bareText_of_isBare {cs : List Char} (h : ∀ c ∈ cs, Text.IsBare c) : bareText cs = cs := by
  have hintroduction : afterIntroduction? cs = none := by
    have hword : Text.dropKeyword? "PIC".toList cs = none :=
      Text.dropKeyword?_eq_none (k := 'I') (by decide) fun c hc => (h c hc).2.2
    rw [afterIntroduction?, hword]
    rfl
  rw [bareText, Text.trim_eq_self fun c hc => (h c hc).2.1, dropIntroduction, hintroduction,
    Option.getD_none, Text.upper_eq_self_of_forall fun c hc => (h c hc).1]

/-- The symbols of a number are five, so that what holds of these holds of any of them. -/
theorem isNumericSymbol_iff : isNumericSymbol c = true ↔ c ∈ ['9', 'S', 'V', 'P', 'Z'] := by
  simp only [isNumericSymbol, Bool.or_eq_true, beq_iff_eq, List.mem_cons, List.not_mem_nil,
    or_false, or_assoc]

theorem isBare_of_isNumericSymbol (h : isNumericSymbol c = true) : Text.IsBare c := by
  have hbare : ∀ s ∈ ['9', 'S', 'V', 'P', 'Z'], Text.IsBare s :=
    Text.forall_mem_of_all (by decide)
  exact hbare c (isNumericSymbol_iff.mp h)

/-- The symbols of a row that is a number's are a number's symbols. -/
theorem isNumericSymbol_of_mem_symbolsOf {rs : List Repetition}
    (h : ∀ r ∈ rs, isNumericSymbol r.symbol = true) :
    ∀ c ∈ symbolsOf rs, isNumericSymbol c = true := by
  intro c hc
  obtain ⟨r, hr, rfl, -⟩ := Picture.mem_symbolsOf_iff.mp hc
  exact h r hr

theorem isBare_written {rs : List Repetition} (h : ∀ r ∈ rs, isNumericSymbol r.symbol = true) :
    ∀ c ∈ (written rs).toList, Text.IsBare c := by
  have hparentheses : Text.IsBare '(' ∧ Text.IsBare ')' := by decide
  intro c hc
  rw [written, String.toList_ofList, List.mem_flatMap] at hc
  obtain ⟨r, hr, hc⟩ := hc
  rcases List.mem_cons.mp hc with rfl | hc
  · exact isBare_of_isNumericSymbol (h r hr)
  · rw [Repetition.countText] at hc
    cases hcount : r.count with
    | none =>
      rw [hcount] at hc
      cases hc
    | some ds =>
      rw [hcount] at hc
      rcases List.mem_cons.mp hc with rfl | hc
      · exact hparentheses.1
      · rcases List.mem_append.mp hc with hc | hc
        · exact Text.isBare_of_isAnyDigit (r.isAnyDigit_count ds hcount c hc)
        · rw [List.mem_singleton.mp hc]
          exact hparentheses.2

/-- **The geometry of a number's picture is that of its symbols**, each as often as it is
counted. -/
theorem ofPicture_written {rs : List Repetition}
    (h : ∀ r ∈ rs, isNumericSymbol r.symbol = true) :
    ofPicture (written rs) = ofSymbols (symbolsOf rs) (written rs) := by
  rw [ofPicture_eq, bareText_of_isBare (isBare_written h), String.ofList_toList,
    Picture.expand_written, ok_bind]

/-! ### Counting the symbols -/

/-- **Which symbols of a number describe one, and which.** -/
theorem ofSymbols_eq_ok_iff (h : ∀ c ∈ symbols, isNumericSymbol c = true) :
    ofSymbols symbols picture = .ok g ↔
      symbols ≠ [] ∧ symbols.count 'V' ≤ 1 ∧ 'S' ∉ symbols.tail ∧
        g = .numeric (symbols.head? == some 'S')
          ((symbols.takeWhile (· != 'V')).countP isDigitSymbol)
          ((symbols.dropWhile (· != 'V')).countP isDigitSymbol) := by
  have hX : 'X' ∉ symbols := fun hmem => absurd (h _ hmem) (by decide)
  have hA : 'A' ∉ symbols := fun hmem => absurd (h _ hmem) (by decide)
  have hknown : symbols.filter (fun c => !isNumericSymbol c) = [] := by
    refine List.filter_eq_nil_iff.mpr fun c hc => ?_
    rw [h c hc]
    decide
  have hletters : ¬(symbols.contains 'X' || symbols.contains 'A') = true := by simp [hX, hA]
  rw [ofSymbols, hknown]
  simp only [if_neg hletters, List.isEmpty_nil, Bool.not_true, Bool.false_eq_true, if_false,
    List.isEmpty_iff, List.contains_iff_mem]
  constructor
  · intro hg
    split at hg
    · cases hg
    next hne =>
    split at hg
    · cases hg
    next hpoint =>
    split at hg
    · cases hg
    next hsign =>
    exact ⟨hne, by omega, hsign, (Except.ok.inj hg).symm⟩
  · rintro ⟨hne, hpoint, hsign, rfl⟩
    rw [if_neg hne, if_neg (by omega), if_neg hsign]

variable (h : ∀ c ∈ symbols, isNumericSymbol c = true) (hg : ofSymbols symbols picture = .ok g)

include h hg

/-- A number has a character for each of its digits. -/
theorem length_of_ofSymbols : g.length = symbols.countP isDigitSymbol := by
  obtain ⟨-, -, -, rfl⟩ := (ofSymbols_eq_ok_iff h).mp hg
  rw [length, ← List.countP_append, List.takeWhile_append_dropWhile]

/-- A number has a sign where its picture has one. -/
theorem count_sign_of_ofSymbols : symbols.count 'S' = if g.isSigned then 1 else 0 := by
  obtain ⟨hne, -, hsign, rfl⟩ := (ofSymbols_eq_ok_iff h).mp hg
  obtain ⟨c, rest, rfl⟩ := List.exists_cons_of_ne_nil hne
  have hrest : rest.count 'S' = 0 := List.count_eq_zero_of_not_mem hsign
  rw [List.count_cons, hrest]
  by_cases hc : c = 'S' <;> simp [isSigned, hc]

end FixedWidth.Geometry
