import FixedWidth.Proofs.Picture.Geometry
import FixedWidth.Proofs.Text.Folded
import FixedWidth.Proofs.Text.Trim
import Mathlib.Data.List.TakeWhile

/-!
# Pictures of numbers, however they are shown

The picture of a number is a row of symbols with their counts, and nothing of its geometry
depends on more than what the row comes to (`FixedWidth.Geometry.Describes`): whether it has
a geometry, whether that has a sign, and the digits on either side of the point.

A copybook shows such a picture in many ways. There may be white space around it, one of two
words in front with or without a second behind, and any of its letters may be a small one
(`FixedWidth.Geometry.Shows`). All of them are the same picture
(`FixedWidth.Geometry.bareText_of_shows`), and have the same geometry
(`FixedWidth.Geometry.geometry_of_number`). Only an empty row is not kept apart from its
introduction, since no white space is left behind the words once the ends are cut off. The
words are then the picture, and like the empty one they have no geometry.
-/

namespace FixedWidth.Geometry

open Picture (Repetition written symbolsOf)

variable {symbols whole fraction introduction word gap before after cs rest : List Char}
  {shown picture : String} {rs : List Repetition} {g : Geometry} {fault : Fault} {c : Char}

/-! ### Ways to show a picture -/

/-- **The words that introduce a picture**, each with white space behind it. -/
inductive Introduction : List Char → Prop where
  | absent : Introduction []
  | word {word gap : List Char} (hword : word = "PIC".toList ∨ word = "PICTURE".toList)
      (hgap : Text.IsGap gap) : Introduction (word ++ gap)
  | wordIs {word gap gap' : List Char} (hword : word = "PIC".toList ∨ word = "PICTURE".toList)
      (hgap : Text.IsGap gap) (hgap' : Text.IsGap gap') :
      Introduction (word ++ (gap ++ 'I' :: 'S' :: gap'))

/-- **Whether a text shows a picture**: introduced or not, in letters of either case, and
with white space around it. -/
def Shows (shown picture : String) : Prop :=
  ∃ before body after introduction, shown.toList = before ++ body ++ after ∧
    before.all Text.isBlank = true ∧ after.all Text.isBlank = true ∧
    Introduction introduction ∧
    body.map Char.toLower = (introduction ++ picture.toList).map Char.toLower

theorem shows_self (picture : String) : Shows picture picture :=
  ⟨[], picture.toList, [], [], by simp, rfl, rfl, .absent, rfl⟩

/-! ### Either case -/

theorem afterIntroduction?_map_toLower (cs : List Char) :
    afterIntroduction? (cs.map Char.toLower) =
      (afterIntroduction? cs).map (List.map Char.toLower) := by
  have hlonger : ∀ rest : List Char,
      (Text.dropKeyword? "TURE".toList (rest.map Char.toLower)).getD (rest.map Char.toLower) =
        ((Text.dropKeyword? "TURE".toList rest).getD rest).map Char.toLower := by
    intro rest
    rw [Text.dropKeyword?_map_toLower]
    cases Text.dropKeyword? "TURE".toList rest <;> rfl
  rw [afterIntroduction?, afterIntroduction?, Text.dropKeyword?_map_toLower]
  cases Text.dropKeyword? "PIC".toList cs with
  | none => rfl
  | some rest =>
    simp only [Option.map_some, Option.bind_eq_bind, Option.bind_some, Option.pure_def]
    rw [hlonger, Text.dropBlanks?_map_toLower]
    cases Text.dropBlanks? ((Text.dropKeyword? "TURE".toList rest).getD rest) with
    | none => rfl
    | some left => exact congrArg some (Text.dropOptional_map_toLower _ left)

/-- **Small letters make no other picture.** -/
theorem bareText_map_toLower (cs : List Char) : bareText (cs.map Char.toLower) = bareText cs := by
  have hdrop : dropIntroduction ((Text.trim cs).map Char.toLower) =
      (dropIntroduction (Text.trim cs)).map Char.toLower := by
    rw [dropIntroduction, dropIntroduction, afterIntroduction?_map_toLower]
    cases afterIntroduction? (Text.trim cs) <;> rfl
  rw [bareText, bareText, Text.trim_map_toLower, hdrop, Text.upper_map_toLower]

/-! ### White space around, and words in front -/

/-- **White space around a text makes no other picture.** -/
theorem bareText_around (hbefore : before.all Text.isBlank = true)
    (hafter : after.all Text.isBlank = true) (cs : List Char) :
    bareText (before ++ cs ++ after) = bareText cs := by
  rw [bareText, bareText, Text.trim, Text.trim, Text.trimWhile_around hbefore hafter]

/-- What stands behind a word that introduces a picture, and the white space after it. -/
theorem bareText_word (hword : word = "PIC".toList ∨ word = "PICTURE".toList)
    (hgap : Text.IsGap gap) (hfirst : Text.isBlank c = false)
    (hlast : ∀ d, (c :: rest).getLast? = some d → Text.isBlank d = false) :
    bareText (word ++ (gap ++ c :: rest)) =
      Text.upper (Text.dropOptional "IS".toList (c :: rest)) := by
  have htrim : Text.trim (word ++ (gap ++ c :: rest)) = word ++ (gap ++ c :: rest) := by
    refine Text.trimWhile_eq_self ?_ ?_
    · rcases hword with rfl | rfl <;>
      · rintro d ⟨⟩
        decide
    · rwa [List.getLast?_append_of_ne_nil _ (by simp),
        List.getLast?_append_of_ne_nil _ (List.cons_ne_nil c rest)]
  rw [bareText, htrim, dropIntroduction, afterIntroduction?_append hword hgap hfirst,
    Option.getD_some]

/-- The second word of an introduction is left out. -/
theorem dropOptional_is_gap (hgap : Text.IsGap gap) (hblank : Text.isBlank c = false) :
    Text.dropOptional "IS".toList ('I' :: 'S' :: (gap ++ c :: rest)) = c :: rest := by
  have hkeyword : Text.dropKeyword? "IS".toList ('I' :: 'S' :: (gap ++ c :: rest)) =
      some (gap ++ c :: rest) := rfl
  rw [Text.dropOptional, hkeyword, Option.bind_some, Text.dropBlanks?_append_cons hgap hblank]

/-- **Words in front make no other picture** of characters that are kept. -/
theorem bareText_introduced (hintroduction : Introduction introduction)
    (hbare : ∀ c ∈ cs, Text.IsBare c) (hne : cs ≠ []) : bareText (introduction ++ cs) = cs := by
  obtain ⟨c, cs, rfl⟩ := List.exists_cons_of_ne_nil hne
  obtain ⟨-, hblank, hI⟩ := hbare c List.mem_cons_self
  have hupper : Text.upper (c :: cs) = c :: cs :=
    Text.upper_eq_self_of_forall fun d hd => (hbare d hd).1
  have hlast : ∀ d, (c :: cs).getLast? = some d → Text.isBlank d = false :=
    fun d hd => (hbare d (List.mem_of_getLast? hd)).2.1
  cases hintroduction with
  | absent => exact bareText_of_isBare hbare
  | word hword hgap =>
    rw [List.append_assoc, bareText_word hword hgap hblank hlast, dropOptional_is_cons hI, hupper]
  | @wordIs word gap gap' hword hgap hgap' =>
    have hlast' : ∀ d, ('I' :: 'S' :: (gap' ++ c :: cs)).getLast? = some d →
        Text.isBlank d = false := by
      rwa [← List.cons_append, ← List.cons_append, List.getLast?_append_of_ne_nil _ hne]
    simp only [List.append_assoc, List.cons_append]
    rw [bareText_word hword hgap (by decide) hlast', dropOptional_is_gap hgap' hblank, hupper]

/-- What is left of a text that shows a picture is what is left of the picture with nothing but
words in front. -/
theorem exists_introduction_of_shows (hshows : Shows shown picture) :
    ∃ introduction, Introduction introduction ∧
      bareText shown.toList = bareText (introduction ++ picture.toList) := by
  obtain ⟨before, body, after, introduction, hshown, hbefore, hafter, hintroduction, hletters⟩ :=
    hshows
  refine ⟨introduction, hintroduction, ?_⟩
  rw [hshown, bareText_around hbefore hafter, ← bareText_map_toLower body, hletters,
    bareText_map_toLower]

/-- **However a picture is shown, it is the same picture**, so long as there is one. -/
theorem bareText_of_shows (hshows : Shows shown picture)
    (hbare : ∀ c ∈ picture.toList, Text.IsBare c) (hne : picture.toList ≠ []) :
    bareText shown.toList = picture.toList := by
  obtain ⟨introduction, hintroduction, hshown⟩ := exists_introduction_of_shows hshows
  rw [hshown, bareText_introduced hintroduction hbare hne]

/-- Where no picture follows them, the words of an introduction are the picture. -/
theorem bareText_introduction (hintroduction : Introduction introduction) :
    bareText introduction ∈ [[], "PIC".toList, "PICTURE".toList, "IS".toList] := by
  cases hintroduction with
  | absent => exact List.mem_cons_self
  | @word word gap hword hgap =>
    have hbare : bareText ([] ++ word ++ gap) = bareText word :=
      bareText_around List.all_nil hgap.2 word
    rw [List.nil_append] at hbare
    rw [hbare]
    rcases hword with rfl | rfl <;> decide +kernel
  | @wordIs word gap gap' hword hgap hgap' =>
    have hends : word ++ (gap ++ 'I' :: 'S' :: gap') =
        [] ++ (word ++ (gap ++ 'I' :: ['S'])) ++ gap' := by
      simp
    have hlast : ∀ d, ['I', 'S'].getLast? = some d → Text.isBlank d = false := by
      rintro d ⟨⟩
      decide
    rw [hends, bareText_around List.all_nil hgap'.2, bareText_word hword hgap (by decide) hlast]
    decide +kernel

/-! ### Faults -/

/-- **What is wrong with a picture is reported as a fault of pictures.** -/
theorem reportName?_of_ofPicture (h : ofPicture picture = .error fault) :
    fault.reportName? = some "PictureError" := by
  rw [ofPicture_eq] at h
  rcases bind_eq_error_iff.mp h with h | ⟨symbols, -, h⟩
  · rw [Picture.expand] at h
    split at h <;> cases h
    rfl
  · rw [ofSymbols] at h
    split at h
    · cases h
      rfl
    split at h
    · cases h
    split at h
    · cases h
      rfl
    split at h
    · cases h
      rfl
    split at h <;> cases h
    rfl

/-- Without symbols there is no geometry, and none with words in front. -/
theorem ofPicture_ne_ok_of_shows_nil (hshows : Shows shown "") : ofPicture shown ≠ .ok g := by
  obtain ⟨introduction, hintroduction, hshown⟩ := exists_introduction_of_shows hshows
  have hwords := bareText_introduction hintroduction
  rw [String.toList_empty, List.append_nil] at hshown
  rw [← hshown] at hwords
  rw [ofPicture_eq]
  simp only [List.mem_cons, List.not_mem_nil, or_false] at hwords
  -- no picture, or letters that are no symbols
  rcases hwords with h | h | h | h <;> rw [h] <;> exact fun h => nomatch h

/-! ### What the symbols of a number say -/

/-- **What symbols say of the field of a number**: a sign where they begin with one, the
digits on either side of the point, all of them before it where there is none, and in packed
storage two digits to a byte, with a half-byte for the sign. -/
structure Describes (symbols : List Char) (g : Geometry) : Prop where
  isAlphanumeric_eq : g.isAlphanumeric = false
  isSigned_iff : g.isSigned = true ↔ symbols.head? = some 'S'
  digits_without_point : 'V' ∉ symbols →
    g.integerDigits = symbols.countP isDigitSymbol ∧ g.fractionDigits = 0
  digits_around_point : ∀ whole fraction, symbols = whole ++ 'V' :: fraction →
    g.integerDigits = whole.countP isDigitSymbol ∧
      g.fractionDigits = fraction.countP isDigitSymbol
  totalDigits_eq : g.totalDigits = g.integerDigits + g.fractionDigits
  length_eq : g.length = g.totalDigits
  packed_length : ∀ usage, Usage.ofName usage = .packed →
    g.storageLength usage = .ok (g.totalDigits / 2 + 1)

/-- The symbols before a point that is the first. -/
theorem takeWhile_point (hwhole : 'V' ∉ whole) :
    (whole ++ 'V' :: fraction).takeWhile (· != 'V') = whole := by
  have hkept : ∀ c ∈ whole, (c != 'V') = true :=
    fun c hc => bne_iff_ne.mpr (ne_of_mem_of_not_mem hc hwhole)
  rw [List.takeWhile_append_of_pos hkept, List.takeWhile_cons_of_neg (by decide), List.append_nil]

/-- The digits from a point on that is the first are those behind it. -/
theorem countP_dropWhile_point (hwhole : 'V' ∉ whole) :
    ((whole ++ 'V' :: fraction).dropWhile (· != 'V')).countP isDigitSymbol =
      fraction.countP isDigitSymbol := by
  have hdropped : ∀ c ∈ whole, (c != 'V') = true :=
    fun c hc => bne_iff_ne.mpr (ne_of_mem_of_not_mem hc hwhole)
  rw [List.dropWhile_append_of_pos hdropped, List.dropWhile_cons_of_neg (by decide),
    List.countP_cons_of_neg (by decide)]

/-- No point stands before the only one. -/
theorem not_mem_of_count_point (h : (whole ++ 'V' :: fraction).count 'V' ≤ 1) : 'V' ∉ whole := by
  rw [List.count_append, List.count_cons_self] at h
  exact List.count_eq_zero.mp (by omega)

/-- **A number's field is what its symbols say.** -/
theorem describes_of_ofSymbols (h : ∀ c ∈ symbols, isNumericSymbol c = true)
    (hg : ofSymbols symbols picture = .ok g) : Describes symbols g := by
  obtain ⟨-, hpoint, -, rfl⟩ := (ofSymbols_eq_ok_iff h).mp hg
  refine ⟨rfl, beq_iff_eq, fun hnone => ?_, ?_, rfl, rfl, fun usage husage => ?_⟩
  · have hkept : ∀ c ∈ symbols, (c != 'V') = true :=
      fun c hc => bne_iff_ne.mpr (ne_of_mem_of_not_mem hc hnone)
    rw [integerDigits, fractionDigits, List.takeWhile_eq_self_iff.mpr hkept,
      List.dropWhile_eq_nil_iff.mpr hkept]
    exact ⟨rfl, rfl⟩
  · rintro whole fraction rfl
    have hwhole := not_mem_of_count_point hpoint
    exact ⟨congrArg (List.countP isDigitSymbol) (takeWhile_point hwhole),
      countP_dropWhile_point hwhole⟩
  · have hbytes : ∀ n : Nat, (Packed.length n).toNat = n / 2 + 1 := by
      intro n
      rw [Packed.length]
      omega
    rw [storageLength, husage]
    exact congrArg Except.ok (hbytes _)

/-! ### Signed decimals -/

/-- No symbol of a number is a parenthesis or ends a line. -/
theorem ne_of_isNumericSymbol (h : isNumericSymbol c = true) : c ≠ '(' ∧ c ≠ ')' ∧ c ≠ '\n' := by
  have hsymbols : ∀ s ∈ ['9', 'S', 'V', 'P', 'Z'], s ≠ '(' ∧ s ≠ ')' ∧ s ≠ '\n' :=
    Text.forall_mem_of_all (by decide)
  exact hsymbols c (isNumericSymbol_iff.mp h)

theorem ne_parenthesis_of_isNumericSymbol (h : isNumericSymbol c = true) : c ≠ '(' ∧ c ≠ ')' :=
  ⟨(ne_of_isNumericSymbol h).1, (ne_of_isNumericSymbol h).2.1⟩

/-- A symbol of a number. -/
def symbol (c : Char) (h : isNumericSymbol c = true := by decide) : Repetition :=
  .alone c (ne_parenthesis_of_isNumericSymbol h)

/-- A symbol of a number, counted `n` times. -/
def repeated (c : Char) (n : Nat) (h : isNumericSymbol c = true := by decide) : Repetition :=
  .counted c (Nat.toDigits 10 n) (ne_of_isNumericSymbol h)
    ⟨Nat.toDigits_ne_nil, Text.all_isDigit_toDigits n⟩

/-- A sign, `n` digits before the point and `m` behind it. -/
def signedDecimal (n m : Nat) : List Repetition :=
  [symbol 'S', repeated '9' n, symbol 'V', repeated '9' m]

theorem written_signedDecimal (n m : Nat) :
    written (signedDecimal n m) = "S9(" ++ toString n ++ ")V9(" ++ toString m ++ ")" := by
  rw [← String.toList_inj]
  simp [written, signedDecimal, symbol, repeated, Repetition.text, Repetition.countText,
    Repetition.alone, Repetition.counted, Nat.toString_eq_repr, Nat.toList_repr]

theorem symbolsOf_signedDecimal (n m : Nat) : symbolsOf (signedDecimal n m) =
    ('S' :: List.replicate n '9') ++ 'V' :: List.replicate m '9' := by
  simp [symbolsOf, signedDecimal, symbol, repeated, Repetition.symbols, Repetition.times,
    Repetition.alone, Repetition.counted, Text.digitsValue_toDigits]

/-- **A signed decimal has the digits that it counts.** -/
theorem ofPicture_signedDecimal (n m : Nat) :
    ofPicture ("S9(" ++ toString n ++ ")V9(" ++ toString m ++ ")") = .ok (.numeric true n m) := by
  have hnumeric : ∀ r ∈ signedDecimal n m, isNumericSymbol r.symbol = true := by
    simp only [signedDecimal, List.forall_mem_cons]
    exact ⟨rfl, rfl, rfl, rfl, fun _ hr => nomatch hr⟩
  have hdigits : ∀ k, (List.replicate k '9').countP isDigitSymbol = k := by
    intro k
    rw [List.countP_replicate]
    rfl
  have hwhole : 'V' ∉ 'S' :: List.replicate n '9' := by simp
  rw [← written_signedDecimal, ofPicture_written hnumeric,
    ofSymbols_eq_ok_iff (isNumericSymbol_of_mem_symbolsOf hnumeric), symbolsOf_signedDecimal,
    takeWhile_point hwhole, countP_dropWhile_point hwhole, hdigits,
    List.countP_cons_of_neg (by decide), hdigits]
  refine ⟨by simp, by simp [List.count_replicate], by simp, rfl⟩

/-! ### The geometry of a number -/

/-- **The geometry of a number's picture.** There is one when the picture has symbols, with
at most one point, and no sign but in front; it is what the symbols describe; and it is the
same however the picture is shown. -/
theorem geometry_of_number (hnumeric : ∀ r ∈ rs, isNumericSymbol r.symbol = true) :
    Picture.expand (written rs) = .ok (symbolsOf rs) ∧
    ((∃ g, ofPicture (written rs) = .ok g) ↔
      symbolsOf rs ≠ [] ∧ (symbolsOf rs).count 'V' ≤ 1 ∧ 'S' ∉ (symbolsOf rs).tail) ∧
    (∀ g, ofPicture (written rs) = .ok g → Describes (symbolsOf rs) g) ∧
    (∀ shown, Shows shown (written rs) →
      (∀ g, ofPicture shown = .ok g ↔ ofPicture (written rs) = .ok g) ∧
      ∀ fault, ofPicture shown = .error fault → fault.reportName? = some "PictureError") ∧
    ∀ n m : Nat, ofPicture ("S9(" ++ toString n ++ ")V9(" ++ toString m ++ ")") =
      .ok (.numeric true n m) := by
  have hsymbols := isNumericSymbol_of_mem_symbolsOf hnumeric
  refine ⟨Picture.expand_written rs, ?_, ?_, fun shown hshows => ⟨fun g => ?_, ?_⟩,
    ofPicture_signedDecimal⟩
  · rw [ofPicture_written hnumeric]
    simp only [ofSymbols_eq_ok_iff hsymbols, exists_and_left, exists_eq, and_true]
  · intro g hg
    rw [ofPicture_written hnumeric] at hg
    exact describes_of_ofSymbols hsymbols hg
  · by_cases hne : (written rs).toList = []
    · -- nothing is kept apart from the introduction, and neither text has a geometry
      rw [String.toList_eq_nil_iff.mp hne] at hshows ⊢
      exact iff_of_false (ofPicture_ne_ok_of_shows_nil hshows)
        (ofPicture_ne_ok_of_shows_nil (shows_self ""))
    · rw [ofPicture_written hnumeric, ofPicture_eq,
        bareText_of_shows hshows (isBare_written hnumeric) hne, String.ofList_toList,
        Picture.expand_written, ok_bind, ofSymbols_eq_ok_iff hsymbols, ofSymbols_eq_ok_iff hsymbols]
  · exact fun fault => reportName?_of_ofPicture

/-- Three places that may be blank, a scale that counts for nothing, and two digits behind
the point, as `SZ(3)PV99` says. -/
def reading : List Repetition :=
  [symbol 'S', repeated 'Z' 3, symbol 'P', symbol 'V', symbol '9', symbol '9']

theorem reading_geometry :
    (∀ r ∈ reading, isNumericSymbol r.symbol = true) ∧ written reading = "SZ(3)PV99" ∧
      Shows "  Picture is sZ(3)pv99 " (written reading) ∧
      ofPicture "  Picture is sZ(3)pv99 " = .ok (.numeric true 3 2) ∧
      Describes (symbolsOf reading) (.numeric true 3 2) := by
  have hnumeric : ∀ r ∈ reading, isNumericSymbol r.symbol = true := by decide
  have hshows : Shows "  Picture is sZ(3)pv99 " (written reading) :=
    ⟨[' ', ' '], "Picture is sZ(3)pv99".toList, [' '], "PICTURE IS ".toList, by decide, by decide,
      by decide, .wordIs (.inr rfl) ⟨List.cons_ne_nil ' ' [], by decide⟩
        ⟨List.cons_ne_nil ' ' [], by decide⟩, by decide⟩
  have hg : ofPicture (written reading) = .ok (.numeric true 3 2) := by decide +kernel
  obtain ⟨-, -, hdescribes, hshown, -⟩ := geometry_of_number hnumeric
  exact ⟨hnumeric, by decide, hshows, ((hshown _ hshows).1 _).mpr hg, hdescribes _ hg⟩

end FixedWidth.Geometry
