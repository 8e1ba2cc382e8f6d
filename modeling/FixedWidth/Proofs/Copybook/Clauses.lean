import FixedWidth.Copybook.Line
import FixedWidth.Proofs.Picture.Geometry
import FixedWidth.Proofs.Text.Scan
import Mathlib.Data.List.Infix

/-!
# Clauses at a place of a line

What each clause of a copybook line needs at the place where it begins, when the line is
written in words with blanks between them.

A usage is settled within its word (`FixedWidth.Copybook.usageAt?_append`). A count needs
its keyword at the end of a word and a number behind it
(`FixedWidth.Copybook.occursAt?_eq_none_of_word`), and so does a picture, which takes
*any* word that ends in its keyword for the keyword: the word itself has to be `PIC` or
`PICTURE` from the place on (`FixedWidth.Copybook.pictureAt?_eq_none_of_word`), but what
stands in front of the place does not count. The word for lying over another item is only
found between characters that do not belong to a word
(`FixedWidth.Copybook.isSome_redefinesFrom?_iff`).

For each clause it is then said which words a search for it passes.
-/

namespace FixedWidth.Copybook

open Text (IsPlain AfterWord Passes)

variable {cs word part rest tail picture ds : List Char} {c : Char} {before : Option Char}

/-! ### Usage -/

theorem findSome?_congr {α β : Type} {f g : α → Option β} {l : List α} (h : ∀ a ∈ l, f a = g a) :
    l.findSome? f = l.findSome? g := by
  induction l with
  | nil => rfl
  | cons a l ih =>
    obtain ⟨ha, hl⟩ := List.forall_mem_cons.mp h
    rw [List.findSome?_cons, List.findSome?_cons, ha, ih hl]

theorem not_mem_usageWord : ∀ u ∈ usageWords, ' ' ∉ u.toList ∧ '.' ∉ u.toList := by
  decide

/-- **The word for a usage is settled within its word.** -/
theorem usageAt?_append (htail : AfterWord tail) : usageAt? (part ++ tail) = usageAt? part := by
  refine findSome?_congr fun u hu => ?_
  rw [Text.dropKeyword?_append (not_mem_usageWord u hu) htail]
  cases hfound : Text.dropKeyword? u.toList part with
  | none => rfl
  | some left =>
    obtain ⟨found, rfl, hlen⟩ := Text.dropKeyword?_eq_some_iff.mp hfound
    have hle : u.length ≤ (found ++ left).length := by
      rw [← String.length_toList, ← hlen, List.length_map, List.length_append]
      omega
    simp only [Option.map_some, Text.wordEnds_append htail, List.take_append_of_le_length hle]

/-- The words for usages are found as they are. -/
theorem usageAt?_usageWord : ∀ u ∈ usageWords, usageAt? u.toList = some u.toList := by
  decide +kernel

/-- A picture holds no word for a usage: each of these has a letter that is no symbol. -/
theorem usageAt?_eq_none_of_picture (h : ∀ c ∈ part, IsPlain c ∧ isPictureChar c = true) :
    usageAt? part = none := by
  have hletter : ∀ u ∈ usageWords, (u.toList.any fun k => !isPictureChar k) = true := by decide
  refine List.findSome?_eq_none_iff.mpr fun u hu => ?_
  obtain ⟨k, hk, hsymbol⟩ := List.any_eq_true.mp (hletter u hu)
  rw [Text.dropKeyword?_eq_none hk]
  rintro c hc rfl
  obtain ⟨hplain, hpicture⟩ := h c hc
  rw [hplain.foldLetter_eq, hpicture] at hsymbol
  cases hsymbol

/-- A usage is looked for where a word can begin. -/
def usageFrom? (before : Option Char) (cs : List Char) : Option (List Char) :=
  if Text.wordCanBegin before then usageAt? cs else none

theorem usageIn_eq : usageIn rest =
    (Text.firstPlace? usageFrom? none rest).map fun word =>
      canonicalUsage (String.ofList (Text.upper word)) :=
  rfl

theorem passes_usageFrom? (h : ∀ part, part <:+ word → usageAt? part = none) :
    Passes usageFrom? word := fun part hpart _ htail _ => by
  rw [usageFrom?, usageAt?_append htail, h part hpart, ite_self]

/-! ### Counts -/

/-- A count is looked for anywhere. -/
def occursFrom? (_ : Option Char) (cs : List Char) : Option Nat :=
  occursAt? cs

theorem occursIn_eq : occursIn cs = (Text.firstPlace? occursFrom? none cs).getD 1 :=
  rfl

/-- A count needs its keyword. -/
theorem passes_occursFrom?
    (h : ∀ part, part <:+ word → Text.dropKeyword? "OCCURS".toList part = none) :
    Passes occursFrom? word := fun part hpart _ htail _ => by
  rw [occursFrom?, occursAt?, Text.dropKeyword?_append (by decide) htail, h part hpart]
  rfl

/-- **A word followed by one that begins with no digit gives no count**, even if it
ends in the keyword. -/
theorem occursAt?_eq_none_of_word (hword : ∀ c ∈ part, IsPlain c) (hc : IsPlain c)
    (hdigit : Text.isAnyDigit c = false) : occursAt? (part ++ ' ' :: c :: rest) = none := by
  rw [occursAt?, Text.dropKeyword?_append (by decide) (.blank _)]
  cases hfound : Text.dropKeyword? "OCCURS".toList part with
  | none => rfl
  | some left =>
    obtain rfl := (Text.dropKeyword?_eq_some_iff_of_plain hword).mp hfound
    cases left with
    | nil =>
      simp only [Option.map_some, Option.bind_some, List.nil_append,
        Text.dropBlanks?_space_cons hc.isBlank_eq]
      rw [List.takeWhile_cons_of_neg (by rw [hdigit]; decide)]
      rfl
    | cons d left =>
      have hd : IsPlain d := hword d (by simp)
      simp only [Option.map_some, Option.bind_some, List.cons_append,
        Text.dropBlanks?_cons_of_not_isBlank hd.isBlank_eq]

/-- The clause of a count. -/
theorem occursAt?_count (hne : ds ≠ []) (hdigits : ∀ c ∈ ds, IsPlain c ∧ Text.isAnyDigit c = true)
    : occursAt? ("OCCURS".toList ++ ' ' :: (ds ++ ' ' :: rest)) = some (Text.digitsValue ds) := by
  obtain ⟨d, ds, rfl⟩ := List.exists_cons_of_ne_nil hne
  have htake : (d :: ds ++ ' ' :: rest).takeWhile Text.isAnyDigit = d :: ds := by
    rw [List.takeWhile_append_of_pos fun c hc => (hdigits c hc).2,
      List.takeWhile_cons_of_neg (by decide), List.append_nil]
  rw [occursAt?, Text.dropKeyword?_self_append _ _ (Text.forall_mem_of_all (by decide)),
    Option.bind_some, List.cons_append,
    Text.dropBlanks?_space_cons (hdigits d (by simp)).1.isBlank_eq]
  simp only [← List.cons_append, htake, List.isEmpty_cons, Bool.false_eq_true, if_false]

/-! ### Pictures -/

/-- A picture is looked for anywhere. -/
def pictureFrom? (_ : Option Char) (cs : List Char) : Option (List Char × List Char) :=
  pictureAt? cs

theorem clauseIn_of_firstPlace? (h : Text.firstPlace? pictureFrom? none cs = some (picture, rest)) :
    clauseIn cs = some ⟨String.ofList (Text.upper picture), usageIn rest⟩ := by
  change Text.firstPlace? (fun _ cs => pictureAt? cs) none cs = _ at h
  rw [clauseIn, h]

/-- A picture needs its keyword. -/
theorem passes_pictureFrom?
    (h : ∀ part, part <:+ word → Text.dropKeyword? "PIC".toList part = none) :
    Passes pictureFrom? word := fun part hpart _ htail _ => by
  rw [pictureFrom?, pictureAt?, Geometry.afterIntroduction?,
    Text.dropKeyword?_append (by decide) htail, h part hpart]
  rfl

/-- The two words that introduce a picture. -/
def IntroducesPicture (word : List Char) : Prop :=
  word = "PIC".toList ∨ word = "PICTURE".toList

/-- **A word gives a picture only if it is, from the place on, one of the two that
introduce it.** -/
theorem pictureAt?_eq_none_of_word (hword : ∀ c ∈ part, IsPlain c) (h : ¬IntroducesPicture part) :
    pictureAt? (part ++ ' ' :: rest) = none := by
  suffices Geometry.afterIntroduction? (part ++ ' ' :: rest) = none by rw [pictureAt?, this]
  rw [Geometry.afterIntroduction?, Text.dropKeyword?_append (by decide) (.blank _)]
  cases hfound : Text.dropKeyword? "PIC".toList part with
  | none => rfl
  | some left =>
    obtain rfl := (Text.dropKeyword?_eq_some_iff_of_plain hword).mp hfound
    have hleft : ∀ c ∈ left, IsPlain c := fun c hc => hword c (List.mem_append_right _ hc)
    -- what is left of the word is neither empty nor the rest of the longer keyword
    have hlonger : ∃ d ds, ((Text.dropKeyword? "TURE".toList (left ++ ' ' :: rest)).getD
        (left ++ ' ' :: rest)) = d :: ds ∧ IsPlain d := by
      rw [Text.dropKeyword?_append (by decide) (.blank _)]
      cases hture : Text.dropKeyword? "TURE".toList left with
      | none =>
        obtain ⟨d, left, rfl⟩ : ∃ d ds, left = d :: ds :=
          List.exists_cons_of_ne_nil fun hnil => h (.inl (by rw [hnil, List.append_nil]))
        exact ⟨d, _, rfl, hleft d (by simp)⟩
      | some left' =>
        obtain rfl := (Text.dropKeyword?_eq_some_iff_of_plain hleft).mp hture
        obtain ⟨d, left', rfl⟩ : ∃ d ds, left' = d :: ds :=
          List.exists_cons_of_ne_nil fun hnil => h (.inr (by rw [hnil]; rfl))
        exact ⟨d, _, rfl, hleft d (by simp)⟩
    obtain ⟨d, ds, hlonger, hd⟩ := hlonger
    simp only [Option.map_some, bind, Option.bind_some, hlonger, Text.dropBlanks?_cons_of_not_isBlank hd.isBlank_eq,
      Option.bind_none]

/-- **The clause of a picture**: what is taken is as many symbols as stand there. -/
theorem pictureAt?_introduced (hword : IntroducesPicture word) (hne : picture ≠ [])
    (hpicture : ∀ c ∈ picture, IsPlain c ∧ isPictureChar c = true)
    (htail : tail.takeWhile isPictureChar = []) :
    pictureAt? (word ++ ' ' :: (picture ++ tail)) = some (picture, tail) := by
  obtain ⟨p, ps, rfl⟩ := List.exists_cons_of_ne_nil hne
  obtain ⟨hplain, hsymbol⟩ := hpicture p (by simp)
  have htake : (p :: ps ++ tail).takeWhile isPictureChar = p :: ps := by
    rw [List.takeWhile_append_of_pos fun c hc => (hpicture c hc).2, htail, List.append_nil]
  have hintro : Geometry.afterIntroduction? (word ++ ' ' :: (p :: ps ++ tail)) =
      some (p :: ps ++ tail) := by
    refine Geometry.afterIntroduction?_word hword hplain.isBlank_eq ?_
    rw [hplain.foldLetter_eq]
    rintro rfl
    exact absurd hsymbol (by decide)
  rw [pictureAt?, hintro]
  simp only [htake, List.isEmpty_cons, Bool.false_eq_true, if_false, List.drop_left]

/-- A picture ends where its word does. -/
theorem takeWhile_isPictureChar_of_afterWord (htail : AfterWord tail) :
    tail.takeWhile isPictureChar = [] := by
  cases htail <;> rfl

/-! ### Lying over another item -/

/-- The word for lying over another item, where it is a word. -/
def redefinesFrom? (before : Option Char) (cs : List Char) : Option Unit :=
  match Text.dropKeyword? "REDEFINES".toList cs with
  | some rest => if Text.wordCanBegin before && Text.wordEnds rest then some () else none
  | none => none

theorem redefinesIn_eq : redefinesIn cs = (Text.firstPlace? redefinesFrom? none cs).isSome :=
  rfl

theorem wordCanBegin_iff :
    Text.wordCanBegin before = true ↔ ∀ c ∈ before, Text.isWord c = false := by
  cases before <;> simp [Text.wordCanBegin]

theorem wordEnds_iff : Text.wordEnds rest = true ↔ ∀ c ∈ rest.head?, Text.isWord c = false := by
  cases rest <;> simp [Text.wordEnds]

theorem isSome_redefinesFrom?_iff : (redefinesFrom? before cs).isSome = true ↔
    ∃ rest, Text.dropKeyword? "REDEFINES".toList cs = some rest ∧
      Text.wordCanBegin before = true ∧ Text.wordEnds rest = true := by
  rw [redefinesFrom?]
  cases Text.dropKeyword? "REDEFINES".toList cs with
  | none => simp
  | some rest => simp

theorem passes_redefinesFrom?
    (h : ∀ part, part <:+ word → Text.dropKeyword? "REDEFINES".toList part = none) :
    Passes redefinesFrom? word := fun part hpart _ htail _ => by
  rw [redefinesFrom?, Text.dropKeyword?_append (by decide) htail, h part hpart]
  rfl

end FixedWidth.Copybook
