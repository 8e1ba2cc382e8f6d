import FixedWidth.Proofs.Number.Digits
import FixedWidth.Text.Lines
import FixedWidth.Text.Scan
import FixedWidth.Text.Word

/-!
# Where a clause is found

A search goes through the places of a line from the left. It finds something exactly
when there is a place at which its clause begins
(`FixedWidth.Text.isSome_firstPlace?_iff`), and it passes a text in which its clause
begins nowhere (`FixedWidth.Text.firstPlace?_append`).

A line is written in words, each of which ends with a blank or a full stop. A keyword
does not reach across the end of a word (`FixedWidth.Text.dropKeyword?_append`), so that
it stands at a place of a word exactly when the word alone shows it. What a search
passes is therefore a matter of single words: `FixedWidth.Text.Passes` says so of a word
whatever stands behind it, and a search through a line is then a chain of such steps.

Capitals, digits and the signs around them stand for themselves wherever case or white
space is looked at; `FixedWidth.Text.IsPlain` is the row of characters from the
exclamation mark up to the small letters, for which this is settled once.
-/

namespace FixedWidth.Text

/-! ### Plain characters -/

/-- **Whether a character is one of those from the exclamation mark up to the small
letters**, among them the capitals and the digits. -/
def IsPlain (c : Char) : Prop :=
  0x20 < c.toNat ∧ c.toNat < 0x61

instance (c : Char) : Decidable (IsPlain c) := by
  unfold IsPlain
  infer_instance

namespace IsPlain

variable {c : Char}

theorem of_isDigit (h : c.isDigit = true) : IsPlain c := by
  obtain ⟨hlow, hhigh⟩ := isDigit_iff.mp h
  exact ⟨by omega, by omega⟩

theorem toUpper_eq (h : IsPlain c) : c.toUpper = c := by
  have hlow : ¬(97 : UInt32) ≤ c.val := by
    rw [UInt32.le_iff_toNat_le]
    exact Nat.not_le.mpr h.2
  exact dif_neg fun hsmall => hlow hsmall.1

/-- Its case does not count. -/
theorem foldLetter_eq (h : IsPlain c) : foldLetter c = c := by
  have := h.2
  simp only [foldLetter, beq_iff_eq, Bool.or_eq_true]
  rw [if_neg (by omega), if_neg (by omega), if_neg (by omega), h.toUpper_eq]

theorem upperChar_eq (h : IsPlain c) : upperChar c = [c] := by
  have := h.2
  rw [upperChar_of_ascii (by omega), h.toUpper_eq]

/-- It is no white space. -/
theorem isBlank_eq (h : IsPlain c) : isBlank c = false := by
  obtain ⟨hlow, hhigh⟩ := h
  simp only [isBlank, Bool.or_eq_false_iff, Bool.and_eq_false_iff, decide_eq_false_iff_not,
    beq_eq_false_iff_ne, ne_eq]
  omega

theorem isLineEnd_eq (h : IsPlain c) : isLineEnd c = false := by
  obtain ⟨hlow, hhigh⟩ := h
  simp only [isLineEnd, Bool.or_eq_false_iff, Bool.and_eq_false_iff, decide_eq_false_iff_not,
    beq_eq_false_iff_ne, ne_eq]
  omega

end IsPlain

/-- A text is its own upper case where each of its characters is. -/
theorem upper_eq_self_of_forall {cs : List Char} (h : ∀ c ∈ cs, upperChar c = [c]) :
    upper cs = cs := by
  induction cs with
  | nil => rfl
  | cons c cs ih =>
    obtain ⟨hc, hcs⟩ := List.forall_mem_cons.mp h
    rw [upper, List.flatMap_cons, hc]
    exact congrArg (c :: ·) (ih hcs)

/-- A text of plain characters is its own upper case. -/
theorem upper_eq_self {cs : List Char} (h : ∀ c ∈ cs, IsPlain c) : upper cs = cs :=
  upper_eq_self_of_forall fun c hc => (h c hc).upperChar_eq

/-- What holds of every character of a text is settled by going through the text, not
through all characters. -/
theorem forall_mem_of_all {p : Char → Prop} [DecidablePred p] {cs : List Char}
    (h : cs.all (fun c => decide (p c)) = true) : ∀ c ∈ cs, p c :=
  fun c hc => of_decide_eq_true (List.all_eq_true.mp h c hc)

/-! ### Keywords -/

variable {keyword word cs rest : List Char} {stop k : Char}

/-- **What a keyword is found as**: the same letters, in either case. -/
theorem dropKeyword?_eq_some_iff : dropKeyword? keyword cs = some rest ↔
    ∃ found, cs = found ++ rest ∧ found.map foldLetter = keyword := by
  induction keyword generalizing cs with
  | nil => simp [dropKeyword?]
  | cons k keyword ih =>
    cases cs with
    | nil =>
      refine iff_of_false (by simp [dropKeyword?]) ?_
      rintro ⟨found, hcs, hfound⟩
      obtain ⟨rfl, -⟩ := List.append_eq_nil_iff.mp hcs.symm
      cases hfound
    | cons c cs =>
      rw [dropKeyword?]
      split
      next hc =>
        rw [ih]
        constructor
        · rintro ⟨found, rfl, rfl⟩
          exact ⟨c :: found, rfl, by rw [List.map_cons, hc]⟩
        · rintro ⟨found, hcs, hfound⟩
          obtain ⟨d, found, rfl, rfl, rfl⟩ := List.map_eq_cons_iff.mp hfound
          obtain ⟨-, rfl⟩ := List.cons.inj hcs
          exact ⟨found, rfl, rfl⟩
      next hc =>
        refine iff_of_false (by simp) ?_
        rintro ⟨found, hcs, hfound⟩
        obtain ⟨d, found, rfl, rfl, rfl⟩ := List.map_eq_cons_iff.mp hfound
        exact hc (congrArg foldLetter (List.cons.inj hcs).1)

/-- Among plain characters a keyword is found as it is. -/
theorem dropKeyword?_eq_some_iff_of_plain (h : ∀ c ∈ cs, IsPlain c) :
    dropKeyword? keyword cs = some rest ↔ cs = keyword ++ rest := by
  have hself : ∀ found : List Char, (∀ c ∈ found, IsPlain c) → found.map foldLetter = found :=
    fun found hfound =>
      (List.map_congr_left fun c hc => (hfound c hc).foldLetter_eq).trans (List.map_id found)
  rw [dropKeyword?_eq_some_iff]
  constructor
  · rintro ⟨found, rfl, rfl⟩
    rw [hself found fun c hc => h c (List.mem_append_left rest hc)]
  · rintro rfl
    exact ⟨keyword, rfl, hself keyword fun c hc => h c (List.mem_append_left rest hc)⟩

/-- A keyword is not found in a text without one of its letters. -/
theorem dropKeyword?_eq_none (hk : k ∈ keyword) (h : ∀ c ∈ cs, foldLetter c ≠ k) :
    dropKeyword? keyword cs = none := by
  rw [Option.eq_none_iff_forall_ne_some]
  intro rest hrest
  obtain ⟨found, rfl, rfl⟩ := dropKeyword?_eq_some_iff.mp hrest
  obtain ⟨c, hc, hck⟩ := List.mem_map.mp hk
  exact h c (List.mem_append_left rest hc) hck

/-- A keyword does not reach across a character that it does not hold. -/
theorem dropKeyword?_append_cons (h : ∀ k ∈ keyword, foldLetter stop ≠ k) :
    dropKeyword? keyword (word ++ stop :: rest) =
      (dropKeyword? keyword word).map (· ++ stop :: rest) := by
  induction keyword generalizing word with
  | nil => rfl
  | cons k keyword ih =>
    obtain ⟨hk, hkeyword⟩ := List.forall_mem_cons.mp h
    cases word with
    | nil => simp only [List.nil_append, dropKeyword?, if_neg hk, Option.map_none]
    | cons c word =>
      rw [List.cons_append, dropKeyword?, dropKeyword?]
      split
      · exact ih hkeyword
      · rfl

/-! ### Blanks -/

/-- **White space between words**: a blank, or more of them. -/
def IsGap (gap : List Char) : Prop :=
  gap ≠ [] ∧ gap.all isBlank = true

/-- White space ends where anything else begins. -/
theorem dropBlanks?_append_cons {gap : List Char} {c : Char} (hgap : IsGap gap)
    (h : isBlank c = false) : dropBlanks? (gap ++ c :: rest) = some (c :: rest) := by
  obtain ⟨b, gap, rfl⟩ := List.exists_cons_of_ne_nil hgap.1
  obtain ⟨hb, hblanks⟩ := List.forall_mem_cons.mp (List.all_eq_true.mp hgap.2)
  rw [List.cons_append, dropBlanks?, if_pos hb, List.dropWhile_append_of_pos hblanks,
    List.dropWhile_cons_of_neg (by rw [h]; decide)]

theorem dropBlanks?_space_cons {c : Char} (h : isBlank c = false) :
    dropBlanks? (' ' :: c :: rest) = some (c :: rest) := by
  have hgap : IsGap [' '] := ⟨List.cons_ne_nil _ _, by decide⟩
  exact dropBlanks?_append_cons hgap h

theorem dropBlanks?_cons_of_not_isBlank {c : Char} (h : isBlank c = false) :
    dropBlanks? (c :: rest) = none := by
  rw [dropBlanks?, h, if_neg Bool.false_ne_true]

/-- A blank is no letter, so that its case does not count. -/
theorem foldLetter_of_isBlank {c : Char} (h : isBlank c = true) : foldLetter c = c := by
  simp only [isBlank, Bool.or_eq_true, Bool.and_eq_true, decide_eq_true_eq, beq_iff_eq] at h
  have hsmall : ¬(97 ≤ c.val ∧ c.val ≤ 122) := by
    rw [UInt32.le_iff_toNat_le, UInt32.le_iff_toNat_le]
    change ¬(97 ≤ c.toNat ∧ c.toNat ≤ 122)
    omega
  simp only [foldLetter, beq_iff_eq, Bool.or_eq_true]
  rw [if_neg (by omega), if_neg (by omega), if_neg (by omega)]
  exact dif_neg hsmall

/-- A keyword does not begin with a blank. -/
theorem dropKeyword?_gap {gap : List Char} (hgap : IsGap gap) (hk : isBlank k = false) :
    dropKeyword? (k :: keyword) (gap ++ rest) = none := by
  obtain ⟨b, gap, rfl⟩ := List.exists_cons_of_ne_nil hgap.1
  have hb : isBlank b = true := List.all_eq_true.mp hgap.2 b List.mem_cons_self
  refine if_neg ?_
  rw [foldLetter_of_isBlank hb]
  rintro rfl
  rw [hk] at hb
  cases hb

/-! ### Places -/

variable {α : Type} {f : Option Char → List Char → Option α} {before : Option Char} {a : α}

/-- A clause that begins where the search begins is the one that is found. -/
theorem firstPlace?_of_eq_some (h : f before cs = some a) : firstPlace? f before cs = some a := by
  cases cs with
  | nil => exact h
  | cons c cs => rw [firstPlace?, h]

theorem firstPlace?_cons_of_eq_none {c : Char} (h : f before (c :: cs) = none) :
    firstPlace? f before (c :: cs) = firstPlace? f (some c) cs := by
  rw [firstPlace?, h]

/-- **A search passes a text in which its clause begins nowhere.** -/
theorem firstPlace?_append
    (h : ∀ part, part <:+ word → part ≠ [] → ∀ before, f before (part ++ rest) = none) :
    firstPlace? f before (word ++ rest) = firstPlace? f (word.getLast?.or before) rest := by
  induction word generalizing before with
  | nil => rfl
  | cons c word ih =>
    have hfirst : f before (c :: (word ++ rest)) = none :=
      h (c :: word) List.suffix_rfl (List.cons_ne_nil c word) before
    rw [List.cons_append, firstPlace?_cons_of_eq_none hfirst,
      ih fun part hpart => h part (hpart.trans (List.suffix_cons c word)), List.getLast?_cons]
    cases word.getLast? <;> rfl

/-- **A search finds something exactly when there is a place at which its clause
begins.** -/
theorem isSome_firstPlace?_iff : (firstPlace? f before cs).isSome = true ↔
    ∃ left right, cs = left ++ right ∧ (f (left.getLast?.or before) right).isSome = true := by
  induction cs generalizing before with
  | nil =>
    constructor
    · exact fun h => ⟨[], [], rfl, h⟩
    · rintro ⟨left, right, hcs, h⟩
      obtain ⟨rfl, rfl⟩ := List.append_eq_nil_iff.mp hcs.symm
      exact h
  | cons c cs ih =>
    cases hf : f before (c :: cs) with
    | some a =>
      refine iff_of_true (by rw [firstPlace?_of_eq_some hf, Option.isSome_some]) ?_
      exact ⟨[], c :: cs, rfl, by rw [List.getLast?_nil, Option.none_or, hf, Option.isSome_some]⟩
    | none =>
      rw [firstPlace?_cons_of_eq_none hf, ih]
      -- the first place is not the one, so that the places are those behind it
      constructor
      · rintro ⟨left, right, rfl, h⟩
        refine ⟨c :: left, right, rfl, ?_⟩
        rw [List.getLast?_cons]
        cases hleft : left.getLast? <;> simpa [hleft] using h
      · rintro ⟨left, right, hcs, h⟩
        cases left with
        | nil =>
          rw [List.nil_append] at hcs
          rw [← hcs, List.getLast?_nil, Option.none_or, hf] at h
          cases h
        | cons d left =>
          obtain ⟨rfl, rfl⟩ := List.cons.inj hcs
          refine ⟨left, right, rfl, ?_⟩
          rw [List.getLast?_cons] at h
          cases hleft : left.getLast? <;> simpa [hleft] using h

/-! ### Words of a line -/

variable {tail : List Char}

/-- **Whether a word has ended where the text begins**, with a blank or a full stop. -/
inductive AfterWord : List Char → Prop where
  | blank (rest : List Char) : AfterWord (' ' :: rest)
  | fullStop (rest : List Char) : AfterWord ('.' :: rest)

/-- **A keyword does not reach across the end of a word.** -/
theorem dropKeyword?_append (hkeyword : ' ' ∉ keyword ∧ '.' ∉ keyword) (htail : AfterWord tail) :
    dropKeyword? keyword (word ++ tail) = (dropKeyword? keyword word).map (· ++ tail) := by
  have hblank : foldLetter ' ' = ' ' := rfl
  have hfullStop : foldLetter '.' = '.' := rfl
  cases htail with
  | blank rest =>
    refine dropKeyword?_append_cons fun k hk hfold => hkeyword.1 ?_
    rwa [← hblank, hfold]
  | fullStop rest =>
    refine dropKeyword?_append_cons fun k hk hfold => hkeyword.2 ?_
    rwa [← hfullStop, hfold]

/-- Where a word ends is not changed by what stands behind it. -/
theorem wordEnds_append (htail : AfterWord tail) : wordEnds (word ++ tail) = wordEnds word := by
  cases word with
  | cons c word => rfl
  | nil => cases htail <;> rfl

/-- **Whether a search passes a word**: its clause begins nowhere in the word, nor at its
end, whatever stands behind it. -/
def Passes (f : Option Char → List Char → Option α) (word : List Char) : Prop :=
  ∀ part, part <:+ word → ∀ tail, AfterWord tail → ∀ before, f before (part ++ tail) = none

namespace Passes

/-- The end of a word is passed with the word. -/
theorem firstPlace?_cons (h : Passes f word) (htail : AfterWord (stop :: rest)) :
    firstPlace? f before (stop :: rest) = firstPlace? f (some stop) rest :=
  firstPlace?_cons_of_eq_none (h [] List.nil_suffix _ htail before)

/-- What comes before the end of a word does not count behind it. -/
theorem firstPlace?_append (h : Passes f word) (htail : AfterWord tail)
    (before before' : Option Char) :
    firstPlace? f before (word ++ tail) = firstPlace? f before' tail := by
  obtain ⟨stop, rest, rfl⟩ : ∃ stop rest, tail = stop :: rest := by
    cases htail <;> exact ⟨_, _, rfl⟩
  rw [Text.firstPlace?_append fun part hpart _ before => h part hpart _ htail before,
    h.firstPlace?_cons htail, h.firstPlace?_cons htail]

/-- **A search steps over a word that it passes**, and over the character that ends it. -/
theorem firstPlace?_append_cons (h : Passes f word) (htail : AfterWord (stop :: rest)) :
    firstPlace? f before (word ++ stop :: rest) = firstPlace? f (some stop) rest :=
  (h.firstPlace?_append htail before none).trans (h.firstPlace?_cons htail)

end Passes

end FixedWidth.Text
