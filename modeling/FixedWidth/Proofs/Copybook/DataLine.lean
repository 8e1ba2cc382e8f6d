import FixedWidth.Proofs.Copybook.Clauses
import FixedWidth.Proofs.Copybook.Forest
import FixedWidth.Proofs.Copybook.Line
import FixedWidth.Proofs.Number.Digits

/-!
# The line of an elementary item

`FixedWidth.Copybook.DataLine` is the line of one elementary item as a data division has
it: a level, a name, a picture, and perhaps a usage and a count. Read alone it is one
field with just these, unless its name gets in the way.

A name gets in the way in two ways, and `FixedWidth.Copybook.DataLine.read_text_eq_field_iff` says
that there are no others. The keyword of a picture is found at the end of a longer word
too, so that a name which ends in it makes a picture of the first letter of the keyword
that follows; and a hyphen ends a word, so that a name with `REDEFINES` between hyphens
makes the line one that lies over another item.
-/

namespace FixedWidth.Copybook

open Text (IsPlain AfterWord Passes)

/-- Whether a data name is written with the character. -/
def isNameSymbol (c : Char) : Bool :=
  c.isUpper || c.isDigit || c == '-'

/-- Whether a picture is written with the character. -/
def isPictureSymbol (c : Char) : Bool :=
  "XASVPZ()".toList.contains c || c.isDigit

/-- **The line of one elementary item.** -/
structure DataLine where
  level : Nat
  name : List Char
  picture : List Char
  /-- The word for a usage, if the line has one. -/
  usage : Option String
  /-- The count, if the line has one. -/
  occurs : Option Nat
  level_pos : 1 ≤ level
  level_le : level ≤ 49
  name_ne_nil : name ≠ []
  isNameSymbol_name : ∀ c ∈ name, isNameSymbol c = true
  picture_ne_nil : picture ≠ []
  isPictureSymbol_picture : ∀ c ∈ picture, isPictureSymbol c = true
  usage_mem : ∀ word ∈ usage, word ∈ usageWords

namespace DataLine

/-- The level in two digits. -/
def levelText (d : DataLine) : List Char :=
  [Nat.digitChar (d.level / 10), Nat.digitChar (d.level % 10)]

def usageText (d : DataLine) : List Char :=
  match d.usage with
  | none => []
  | some word => " USAGE IS ".toList ++ word.toList

def occursText (d : DataLine) : List Char :=
  match d.occurs with
  | none => []
  | some n => " OCCURS ".toList ++ (Nat.toDigits 10 n ++ " TIMES".toList)

/-- What follows the picture. -/
def clauses (d : DataLine) : List Char :=
  d.usageText ++ (d.occursText ++ ['.'])

/-- **The line as it is written**: `LEVEL NAME PIC picture`, then `USAGE IS` with a usage
and `OCCURS` with a count, and a full stop. -/
def text (d : DataLine) : List Char :=
  d.levelText ++ ' ' :: (d.name ++ ' ' :: ("PIC".toList ++ ' ' :: (d.picture ++ d.clauses)))

/-- **The field that the line is meant to give.** -/
def field (d : DataLine) : Field where
  name := String.ofList d.name
  picture := String.ofList d.picture
  usage := d.usage.map canonicalUsage
  occurs := d.occurs.getD 1

end DataLine

/-- Whether `REDEFINES` stands in a name between hyphens, or between one and an end of the
name, or is all of it. -/
def HoldsRedefines (name : List Char) : Prop :=
  ∃ left right, name = left ++ ("REDEFINES".toList ++ right) ∧
    (∀ c ∈ left.getLast?, c = '-') ∧ ∀ c ∈ right.head?, c = '-'

/-- Whether a name ends in a word that introduces a picture. -/
def EndsInPicture (name : List Char) : Prop :=
  ∃ word, IntroducesPicture word ∧ word <:+ name

/-! ### The characters of a line -/

variable {c : Char}

theorem isPlain_of_isUpper (h : c.isUpper = true) : IsPlain c := by
  obtain ⟨hlow, hhigh⟩ : (65 : UInt32) ≤ c.val ∧ c.val ≤ 90 := of_decide_eq_true h
  rw [UInt32.le_iff_toNat_le] at hlow hhigh
  change 65 ≤ c.toNat at hlow
  change c.toNat ≤ 90 at hhigh
  exact ⟨by omega, by omega⟩

theorem isPlain_of_isNameSymbol (h : isNameSymbol c = true) : IsPlain c := by
  simp only [isNameSymbol, Bool.or_eq_true, beq_iff_eq] at h
  rcases h with (hupper | hdigit) | rfl
  · exact isPlain_of_isUpper hupper
  · exact IsPlain.of_isDigit hdigit
  · decide

theorem isNameChar_of_isNameSymbol (h : isNameSymbol c = true) : isNameChar c = true := by
  have hplain := isPlain_of_isNameSymbol h
  simp only [isNameSymbol, Bool.or_eq_true] at h
  simp only [isNameChar, hplain.foldLetter_eq, Bool.or_eq_true]
  rcases h with (hupper | hdigit) | hhyphen
  · exact .inl (.inl (.inl hupper))
  · exact .inl (.inl (.inr hdigit))
  · exact .inr hhyphen

/-- Of the characters of a name only the hyphen ends a word. -/
theorem isWord_of_isNameSymbol (h : isNameSymbol c = true) :
    Text.isWord c = false ↔ c = '-' := by
  have hhigh := (isPlain_of_isNameSymbol h).2
  rw [Text.isWord, if_pos (by omega)]
  constructor
  · intro hword
    simp only [isNameSymbol, Bool.or_eq_true, beq_iff_eq] at h
    change (c.isUpper || c.isLower || c.isDigit || c == '_') = false at hword
    simp only [Bool.or_eq_false_iff] at hword
    rcases h with (hupper | hdigit) | rfl
    · rw [hword.1.1.1] at hupper
      cases hupper
    · rw [hword.1.2] at hdigit
      cases hdigit
    · rfl
  · rintro rfl
    decide

theorem isPictureChar_of_isPictureSymbol (h : isPictureSymbol c = true) :
    IsPlain c ∧ isPictureChar c = true := by
  simp only [isPictureSymbol, Bool.or_eq_true, List.contains_iff_mem] at h
  have hsymbols : ∀ c ∈ "XASVPZ()".toList, IsPlain c ∧ isPictureChar c = true :=
    Text.forall_mem_of_all (by decide)
  rcases h with hsymbol | hdigit
  · exact hsymbols c hsymbol
  · exact ⟨IsPlain.of_isDigit hdigit, by simp [isPictureChar, hdigit]⟩

/-- Whether a character stands in a line behind the name: it is a blank or plain, and not
the letter that only the word for lying over an item has. -/
def IsClauseChar (c : Char) : Prop :=
  (c = ' ' ∨ IsPlain c) ∧ c ≠ 'F'

instance (c : Char) : Decidable (IsClauseChar c) := by
  unfold IsClauseChar
  infer_instance

theorem IsClauseChar.of_isPictureSymbol (h : isPictureSymbol c = true) : IsClauseChar c := by
  refine ⟨.inr (isPictureChar_of_isPictureSymbol h).1, ?_⟩
  rintro rfl
  exact absurd h (by decide)

theorem isPictureSymbol_of_mem_toDigits {n : Nat} (h : c ∈ Nat.toDigits 10 n) :
    isPictureSymbol c = true := by
  simp [isPictureSymbol, Nat.isDigit_of_mem_toDigits (by decide) (by decide) h]

namespace DataLine

variable (d : DataLine)

theorem isPlain_name : ∀ c ∈ d.name, IsPlain c :=
  fun c hc => isPlain_of_isNameSymbol (d.isNameSymbol_name c hc)

theorem isPictureChar_picture : ∀ c ∈ d.picture, IsPlain c ∧ isPictureChar c = true :=
  fun c hc => isPictureChar_of_isPictureSymbol (d.isPictureSymbol_picture c hc)

/-- The level, digit by digit. -/
theorem levelText_spec : (∀ c ∈ d.levelText, c.isDigit = true) ∧
    Text.digitsValue d.levelText = d.level := by
  have hlevels : ∀ n ≤ 49,
      [Nat.digitChar (n / 10), Nat.digitChar (n % 10)].all Char.isDigit = true ∧
        Text.digitsValue [Nat.digitChar (n / 10), Nat.digitChar (n % 10)] = n := by
    decide +kernel
  obtain ⟨hdigits, hvalue⟩ := hlevels d.level d.level_le
  exact ⟨List.all_eq_true.mp hdigits, hvalue⟩

theorem isClauseChar_usageText : ∀ c ∈ d.usageText, IsClauseChar c := by
  have hwords : ∀ word ∈ usageWords,
      (" USAGE IS ".toList ++ word.toList).all (fun c => decide (IsClauseChar c)) = true := by
    decide +kernel
  rw [usageText]
  cases husage : d.usage with
  | none => exact fun c hc => absurd hc List.not_mem_nil
  | some word => exact Text.forall_mem_of_all (hwords word (d.usage_mem word husage))

theorem isClauseChar_occursText : ∀ c ∈ d.occursText, IsClauseChar c := by
  have hwords : ∀ c ∈ " OCCURS ".toList ++ " TIMES".toList, IsClauseChar c :=
    Text.forall_mem_of_all (by decide)
  rw [occursText]
  cases d.occurs with
  | none => exact fun c hc => absurd hc List.not_mem_nil
  | some n =>
    intro c hc
    rcases List.mem_append.mp hc with hc | hc
    · exact hwords c (List.mem_append_left _ hc)
    · rcases List.mem_append.mp hc with hc | hc
      · exact .of_isPictureSymbol (isPictureSymbol_of_mem_toDigits hc)
      · exact hwords c (List.mem_append_right _ hc)

theorem isClauseChar_clauses : ∀ c ∈ d.clauses, IsClauseChar c := by
  intro c hc
  rcases List.mem_append.mp hc with hc | hc
  · exact d.isClauseChar_usageText c hc
  · rcases List.mem_append.mp hc with hc | hc
    · exact d.isClauseChar_occursText c hc
    · rw [List.mem_singleton.mp hc]
      decide

/-- What follows the name and the blank behind it. -/
def behindName : List Char :=
  "PIC".toList ++ ' ' :: (d.picture ++ d.clauses)

theorem text_eq : d.text = d.levelText ++ ' ' :: (d.name ++ ' ' :: d.behindName) :=
  rfl

theorem isClauseChar_behindName : ∀ c ∈ d.behindName, IsClauseChar c := by
  have hpic : ∀ c ∈ "PIC".toList ++ [' '], IsClauseChar c :=
    Text.forall_mem_of_all (by decide)
  intro c hc
  rw [behindName, List.append_cons] at hc
  rcases List.mem_append.mp hc with hc | hc
  · exact hpic c hc
  · rcases List.mem_append.mp hc with hc | hc
    · exact .of_isPictureSymbol (d.isPictureSymbol_picture c hc)
    · exact d.isClauseChar_clauses c hc

theorem lines_text : Text.lines d.text = [d.text] := by
  have hend : ∀ c, c = ' ' ∨ IsPlain c → Text.isLineEnd c = false := by
    rintro c (rfl | hc)
    · decide
    · exact hc.isLineEnd_eq
  refine Text.lines_eq_singleton (fun c hc => hend c ?_) (by simp [text, levelText])
  rcases List.mem_append.mp hc with hc | hc
  · exact .inr (IsPlain.of_isDigit (d.levelText_spec.1 c hc))
  · rcases List.mem_cons.mp hc with rfl | hc
    · exact .inl rfl
    · rcases List.mem_append.mp hc with hc | hc
      · exact .inr (d.isPlain_name c hc)
      · rcases List.mem_cons.mp hc with rfl | hc
        · exact .inl rfl
        · exact (d.isClauseChar_behindName c hc).1

/-! ### Words of a line -/

/-- The clause of a count, word by word. -/
theorem occursText_of_some {n : Nat} (h : d.occurs = some n) : d.occursText ++ ['.'] =
    ' ' :: ("OCCURS".toList ++ ' ' :: (Nat.toDigits 10 n ++ ' ' :: ("TIMES".toList ++ ['.']))) := by
  simp [occursText, h]

/-- The clause of a usage, word by word. -/
theorem clauses_of_some {word : String} (h : d.usage = some word) : d.clauses =
    ' ' :: ("USAGE".toList ++ ' ' :: ("IS".toList ++ ' ' ::
      (word.toList ++ (d.occursText ++ ['.'])))) := by
  simp [clauses, usageText, h]

theorem clauses_of_none (h : d.usage = none) : d.clauses = d.occursText ++ ['.'] := by
  simp [clauses, usageText, h]

theorem afterWord_occursText : AfterWord (d.occursText ++ ['.']) := by
  cases h : d.occurs with
  | none =>
    rw [occursText, h]
    exact .fullStop []
  | some n =>
    rw [d.occursText_of_some h]
    exact .blank _

theorem afterWord_clauses : AfterWord d.clauses := by
  cases h : d.usage with
  | none =>
    rw [d.clauses_of_none h]
    exact d.afterWord_occursText
  | some word =>
    rw [d.clauses_of_some h]
    exact .blank _

/-- A word of the symbols of pictures, among them the digits, holds no keyword with
another letter. -/
theorem dropKeyword?_eq_none_of_symbols {keyword word : List Char} {k : Char} (hk : k ∈ keyword)
    (hletter : isPictureSymbol k = false) (hword : ∀ c ∈ word, isPictureSymbol c = true) :
    ∀ part, part <:+ word → Text.dropKeyword? keyword part = none := by
  intro part hpart
  refine Text.dropKeyword?_eq_none hk fun c hc => ?_
  have hsymbol := hword c (hpart.subset hc)
  rw [(isPictureChar_of_isPictureSymbol hsymbol).1.foldLetter_eq]
  rintro rfl
  rw [hletter] at hsymbol
  cases hsymbol

theorem isPictureSymbol_levelText : ∀ c ∈ d.levelText, isPictureSymbol c = true := fun c hc => by
  simp [isPictureSymbol, d.levelText_spec.1 c hc]

/-! ### The usage -/

/-- The words of a line that a search for a usage passes. -/
theorem passes_usageFrom?_of_mem {word : String}
    (hword : word ∈ ["IC", "USAGE", "IS", "OCCURS", "TIMES"]) : Passes usageFrom? word.toList := by
  have hwords : ∀ word ∈ ["IC", "USAGE", "IS", "OCCURS", "TIMES"], ∀ part ∈ word.toList.tails,
      usageAt? part = none := by decide +kernel
  exact passes_usageFrom? fun part hpart => hwords word hword part ((List.mem_tails part _).mpr hpart)

theorem passes_usageFrom?_of_symbols {word : List Char}
    (h : ∀ c ∈ word, isPictureSymbol c = true) : Passes usageFrom? word :=
  passes_usageFrom? fun _ hpart => usageAt?_eq_none_of_picture fun c hc =>
    isPictureChar_of_isPictureSymbol (h c (hpart.subset hc))

theorem firstPlace?_usageFrom?_occursText (before : Option Char) :
    Text.firstPlace? usageFrom? before (d.occursText ++ ['.']) = none := by
  have htimes : Passes usageFrom? "TIMES".toList := passes_usageFrom?_of_mem (by decide)
  have hend : Text.firstPlace? usageFrom? (some '.') [] = none := by decide
  cases hoccurs : d.occurs with
  | none =>
    rw [occursText, hoccurs, List.nil_append, htimes.firstPlace?_cons (.fullStop _), hend]
  | some n =>
    have hkeyword : Passes usageFrom? "OCCURS".toList := passes_usageFrom?_of_mem (by decide)
    have hdigits : Passes usageFrom? (Nat.toDigits 10 n) :=
      passes_usageFrom?_of_symbols fun c => isPictureSymbol_of_mem_toDigits
    rw [d.occursText_of_some hoccurs, htimes.firstPlace?_cons (.blank _),
      hkeyword.firstPlace?_append_cons (.blank _), hdigits.firstPlace?_append_cons (.blank _),
      htimes.firstPlace?_append_cons (.fullStop _), hend]

theorem firstPlace?_usageFrom?_clauses (before : Option Char) :
    Text.firstPlace? usageFrom? before d.clauses = d.usage.map String.toList := by
  cases husage : d.usage with
  | none =>
    rw [d.clauses_of_none husage]
    exact d.firstPlace?_usageFrom?_occursText before
  | some word =>
    have hkeyword : Passes usageFrom? "USAGE".toList := passes_usageFrom?_of_mem (by decide)
    have his : Passes usageFrom? "IS".toList := passes_usageFrom?_of_mem (by decide)
    have hword : usageFrom? (some ' ') (word.toList ++ (d.occursText ++ ['.'])) =
        some word.toList := by
      rw [usageFrom?, if_pos (by decide), usageAt?_append d.afterWord_occursText,
        usageAt?_usageWord word (d.usage_mem word husage)]
    rw [d.clauses_of_some husage, his.firstPlace?_cons (.blank _),
      hkeyword.firstPlace?_append_cons (.blank _), his.firstPlace?_append_cons (.blank _),
      Text.firstPlace?_of_eq_some hword]
    rfl

theorem usageIn_of_firstPlace? {cs : List Char}
    (h : Text.firstPlace? usageFrom? none cs = d.usage.map String.toList) :
    usageIn cs = d.usage.map canonicalUsage := by
  have hupper : ∀ word ∈ usageWords, String.ofList (Text.upper word.toList) = word := by
    decide +kernel
  rw [usageIn_eq, h]
  cases husage : d.usage with
  | none => rfl
  | some word => simp only [Option.map_some, hupper word (d.usage_mem word husage)]

theorem usageIn_clauses : usageIn d.clauses = d.usage.map canonicalUsage :=
  d.usageIn_of_firstPlace? (d.firstPlace?_usageFrom?_clauses none)

/-- Where the second half of the keyword is taken for what follows the picture, the
usage is still the one behind the picture. -/
theorem usageIn_behindKeyword :
    usageIn ("IC".toList ++ ' ' :: (d.picture ++ d.clauses)) = d.usage.map canonicalUsage := by
  have hhalf : Passes usageFrom? "IC".toList := passes_usageFrom?_of_mem (by decide)
  have hpicture : Passes usageFrom? d.picture :=
    passes_usageFrom?_of_symbols d.isPictureSymbol_picture
  refine d.usageIn_of_firstPlace? ?_
  rw [hhalf.firstPlace?_append_cons (.blank _),
    hpicture.firstPlace?_append d.afterWord_clauses _ none, d.firstPlace?_usageFrom?_clauses]

/-! ### The count -/

/-- The words of a line that a search for a count passes. -/
theorem passes_occursFrom?_of_mem {word : String}
    (hword : word ∈ "PIC" :: "USAGE" :: "IS" :: usageWords) : Passes occursFrom? word.toList := by
  have hwords : ∀ word ∈ "PIC" :: "USAGE" :: "IS" :: usageWords, ∀ part ∈ word.toList.tails,
      Text.dropKeyword? "OCCURS".toList part = none := by decide +kernel
  exact passes_occursFrom? fun part hpart =>
    hwords word hword part ((List.mem_tails part _).mpr hpart)

theorem passes_occursFrom?_of_symbols {word : List Char}
    (h : ∀ c ∈ word, isPictureSymbol c = true) : Passes occursFrom? word :=
  passes_occursFrom? (dropKeyword?_eq_none_of_symbols (k := 'O') (by decide) (by decide) h)

theorem firstPlace?_occursFrom?_occursText (before : Option Char) :
    Text.firstPlace? occursFrom? before (d.occursText ++ ['.']) = d.occurs := by
  have hpic : Passes occursFrom? "PIC".toList := passes_occursFrom?_of_mem (by decide)
  cases hoccurs : d.occurs with
  | none =>
    rw [occursText, hoccurs, List.nil_append, hpic.firstPlace?_cons (.fullStop _)]
    rfl
  | some n =>
    have hdigit : ∀ c ∈ Nat.toDigits 10 n, c.isDigit = true :=
      fun c => Nat.isDigit_of_mem_toDigits (by decide) (by decide)
    have hvalue : Text.digitsValue (Nat.toDigits 10 n) = n := Text.digitsValue_toDigits n
    have hcount : occursFrom? (some ' ') ("OCCURS".toList ++ ' ' ::
        (Nat.toDigits 10 n ++ ' ' :: ("TIMES".toList ++ ['.']))) =
          some (Text.digitsValue (Nat.toDigits 10 n)) :=
      occursAt?_count Nat.toDigits_ne_nil fun c hc =>
        ⟨IsPlain.of_isDigit (hdigit c hc), Text.isAnyDigit_of_isDigit (hdigit c hc)⟩
    rw [d.occursText_of_some hoccurs, hpic.firstPlace?_cons (.blank _),
      Text.firstPlace?_of_eq_some hcount, hvalue]

theorem firstPlace?_occursFrom?_clauses (before : Option Char) :
    Text.firstPlace? occursFrom? before d.clauses = d.occurs := by
  cases husage : d.usage with
  | none =>
    rw [d.clauses_of_none husage]
    exact d.firstPlace?_occursFrom?_occursText before
  | some word =>
    have hkeyword : Passes occursFrom? "USAGE".toList := passes_occursFrom?_of_mem (by decide)
    have his : Passes occursFrom? "IS".toList := passes_occursFrom?_of_mem (by decide)
    have hword : Passes occursFrom? word.toList := passes_occursFrom?_of_mem
      (List.mem_append_right ["PIC", "USAGE", "IS"] (d.usage_mem word husage))
    rw [d.clauses_of_some husage, his.firstPlace?_cons (.blank _),
      hkeyword.firstPlace?_append_cons (.blank _), his.firstPlace?_append_cons (.blank _),
      hword.firstPlace?_append d.afterWord_occursText _ none,
      d.firstPlace?_occursFrom?_occursText]

/-- **The count of a line is the one of its clause.** -/
theorem occursIn_text : occursIn d.text = d.occurs.getD 1 := by
  have hlevel : Passes occursFrom? d.levelText :=
    passes_occursFrom?_of_symbols d.isPictureSymbol_levelText
  have hpic : Passes occursFrom? "PIC".toList := passes_occursFrom?_of_mem (by decide)
  have hpicture : Passes occursFrom? d.picture :=
    passes_occursFrom?_of_symbols d.isPictureSymbol_picture
  -- a keyword at the end of the name has a word behind it that is no number
  have hname : ∀ part, part <:+ d.name → part ≠ [] → ∀ before,
      occursFrom? before (part ++ ' ' :: d.behindName) = none :=
    fun part hpart _ _ => occursAt?_eq_none_of_word
      (fun c hc => d.isPlain_name c (hpart.subset hc)) (by decide) (by decide)
  have hfound : Text.firstPlace? occursFrom? none d.text = d.occurs := by
    rw [text_eq, hlevel.firstPlace?_append_cons (.blank _), Text.firstPlace?_append hname,
      hpic.firstPlace?_cons (.blank _), behindName, hpic.firstPlace?_append_cons (.blank _),
      hpicture.firstPlace?_append d.afterWord_clauses _ none, d.firstPlace?_occursFrom?_clauses]
  rw [occursIn_eq, hfound]

/-! ### The picture -/

/-- The search for a picture passes the level. -/
theorem passes_pictureFrom?_levelText : Passes pictureFrom? d.levelText :=
  passes_pictureFrom? (dropKeyword?_eq_none_of_symbols (k := 'I') (by decide) (by decide)
    d.isPictureSymbol_levelText)

/-- **The picture of a line is the one of its clause**, if the name does not end in a
word that introduces one. -/
theorem clauseIn_text (h : ¬EndsInPicture d.name) :
    clauseIn d.text = some ⟨String.ofList d.picture, d.usage.map canonicalUsage⟩ := by
  have hlevel := d.passes_pictureFrom?_levelText
  have hname : ∀ part, part <:+ d.name → part ≠ [] → ∀ before,
      pictureFrom? before (part ++ ' ' :: d.behindName) = none :=
    fun part hpart _ _ => pictureAt?_eq_none_of_word
      (fun c hc => d.isPlain_name c (hpart.subset hc)) fun hword => h ⟨part, hword, hpart⟩
  have hpicture : pictureFrom? (some ' ') d.behindName = some (d.picture, d.clauses) :=
    pictureAt?_introduced (.inl rfl) d.picture_ne_nil d.isPictureChar_picture
      (takeWhile_isPictureChar_of_afterWord d.afterWord_clauses)
  have hfound : Text.firstPlace? pictureFrom? none d.text = some (d.picture, d.clauses) := by
    rw [text_eq, hlevel.firstPlace?_append_cons (.blank _), Text.firstPlace?_append hname,
      hlevel.firstPlace?_cons (.blank _), Text.firstPlace?_of_eq_some hpicture]
  rw [clauseIn_of_firstPlace? hfound, d.usageIn_clauses,
    Text.upper_eq_self fun c hc => (d.isPictureChar_picture c hc).1]

/-- Of a text that introduces a picture no part behind its beginning does. -/
theorem eq_nil_of_introducesPicture {part word : List Char} (hword : IntroducesPicture word)
    (h : IntroducesPicture (part ++ word)) : part = [] := by
  have hnot : ¬"PIC".toList <:+ "PICTURE".toList := by decide
  rcases hword with rfl | rfl <;> rcases h with h | h
  · exact List.append_left_eq_self.mp h
  · exact absurd ⟨part, h⟩ hnot
  · have hlength := congrArg List.length h
    rw [List.length_append] at hlength
    exact absurd (Nat.le.intro ((Nat.add_comm _ _).trans hlength)) (by decide)
  · exact List.append_left_eq_self.mp h

/-- **If the name ends in a word that introduces a picture**, the picture is the first
letter of the keyword behind the name. -/
theorem clauseIn_text_of_endsInPicture (h : EndsInPicture d.name) :
    clauseIn d.text = some ⟨"P", d.usage.map canonicalUsage⟩ := by
  obtain ⟨word, hword, left, hname⟩ := h
  have hlevel := d.passes_pictureFrom?_levelText
  have hleft : ∀ part, part <:+ left → part ≠ [] → ∀ before,
      pictureFrom? before (part ++ (word ++ ' ' :: d.behindName)) = none := by
    intro part hpart hne before
    rw [← List.append_assoc]
    refine pictureAt?_eq_none_of_word (fun c hc => d.isPlain_name c ?_)
      fun hintro => hne (eq_nil_of_introducesPicture hword hintro)
    rw [← hname]
    rcases List.mem_append.mp hc with hc | hc
    · exact List.mem_append_left _ (hpart.subset hc)
    · exact List.mem_append_right _ hc
  have hpicture : ∀ before, pictureFrom? before (word ++ ' ' :: d.behindName) =
      some (['P'], "IC".toList ++ ' ' :: (d.picture ++ d.clauses)) := fun _ =>
    pictureAt?_introduced hword (List.cons_ne_nil 'P' []) (Text.forall_mem_of_all (by decide)) rfl
  have hfound : Text.firstPlace? pictureFrom? none d.text =
      some (['P'], "IC".toList ++ ' ' :: (d.picture ++ d.clauses)) := by
    rw [text_eq, hlevel.firstPlace?_append_cons (.blank _), ← hname, List.append_assoc,
      Text.firstPlace?_append hleft, Text.firstPlace?_of_eq_some (hpicture _)]
  rw [clauseIn_of_firstPlace? hfound, d.usageIn_behindKeyword]
  rfl

/-! ### Lying over another item -/

/-- In a name a word can begin at the beginning and behind a hyphen. -/
theorem wordCanBegin_of_name {left : List Char} (h : ∀ c ∈ left, isNameSymbol c = true) :
    Text.wordCanBegin (left.getLast?.or (some ' ')) = true ↔ ∀ c ∈ left.getLast?, c = '-' := by
  have hspace : Text.isWord ' ' = false := by decide
  rw [wordCanBegin_iff]
  cases hlast : left.getLast? with
  | none => simp [hspace]
  | some last =>
    simp only [Option.some_or, Option.mem_some_iff, forall_eq']
    exact isWord_of_isNameSymbol (h last (List.mem_of_getLast? hlast))

/-- And a word ends at its end and before a hyphen. -/
theorem wordEnds_of_name {right tail : List Char} (h : ∀ c ∈ right, isNameSymbol c = true)
    (htail : AfterWord tail) :
    Text.wordEnds (right ++ tail) = true ↔ ∀ c ∈ right.head?, c = '-' := by
  rw [Text.wordEnds_append htail, wordEnds_iff]
  cases right with
  | nil => simp
  | cons first right =>
    simp only [List.head?_cons, Option.mem_some_iff, forall_eq']
    exact isWord_of_isNameSymbol (h first List.mem_cons_self)

/-- The word for lying over another item at a place of the name. -/
theorem isSome_redefinesFrom?_iff_of_name {left part : List Char} (hname : d.name = left ++ part) :
    (redefinesFrom? (left.getLast?.or (some ' ')) (part ++ ' ' :: d.behindName)).isSome = true ↔
      ∃ right, part = "REDEFINES".toList ++ right ∧ (∀ c ∈ left.getLast?, c = '-') ∧
        ∀ c ∈ right.head?, c = '-' := by
  have hsymbol : ∀ c ∈ left ++ part, isNameSymbol c = true := hname ▸ d.isNameSymbol_name
  obtain ⟨hleft, hpart⟩ := List.forall_mem_append.mp hsymbol
  rw [isSome_redefinesFrom?_iff, wordCanBegin_of_name hleft,
    Text.dropKeyword?_append (by decide) (.blank _)]
  constructor
  · rintro ⟨rest, hrest, hbegin, hend⟩
    obtain ⟨right, hright, rfl⟩ := Option.map_eq_some_iff.mp hrest
    obtain rfl := (Text.dropKeyword?_eq_some_iff_of_plain fun c hc =>
      isPlain_of_isNameSymbol (hpart c hc)).mp hright
    have hright := (List.forall_mem_append.mp hpart).2
    exact ⟨right, rfl, hbegin, (wordEnds_of_name hright (.blank _)).mp hend⟩
  · rintro ⟨right, rfl, hbegin, hend⟩
    have hright := (List.forall_mem_append.mp hpart).2
    refine ⟨right ++ ' ' :: d.behindName, ?_, hbegin, (wordEnds_of_name hright (.blank _)).mpr hend⟩
    rw [Text.dropKeyword?_self_append _ _ (Text.forall_mem_of_all (by decide)), Option.map_some]

/-- Behind the name there is no such word: a letter of it stands nowhere there. -/
theorem dropKeyword?_redefines_behindName {left right : List Char}
    (h : ' ' :: d.behindName = left ++ right) :
    Text.dropKeyword? "REDEFINES".toList right = none := by
  refine Text.dropKeyword?_eq_none (k := 'F') (by decide) fun c hc => ?_
  have hmem : c ∈ ' ' :: d.behindName := h ▸ List.mem_append_right left hc
  rcases List.mem_cons.mp hmem with rfl | hmem
  · decide
  · obtain ⟨rfl | hplain, hne⟩ := d.isClauseChar_behindName c hmem
    · decide
    · rwa [hplain.foldLetter_eq]

/-- **A line lies over another item** only if its name says so. -/
theorem redefinesIn_text : redefinesIn d.text = true ↔ HoldsRedefines d.name := by
  have hlevel : Passes redefinesFrom? d.levelText := passes_redefinesFrom?
    (dropKeyword?_eq_none_of_symbols (k := 'R') (by decide) (by decide) d.isPictureSymbol_levelText)
  rw [redefinesIn_eq, text_eq, hlevel.firstPlace?_append_cons (.blank _),
    Text.isSome_firstPlace?_iff]
  constructor
  · rintro ⟨left, right, hline, hat⟩
    rcases List.append_eq_append_iff.mp hline with ⟨behind, -, hright⟩ | ⟨part, hname, rfl⟩
    · obtain ⟨rest, hrest, -⟩ := isSome_redefinesFrom?_iff.mp hat
      rw [d.dropKeyword?_redefines_behindName hright] at hrest
      cases hrest
    · obtain ⟨right, rfl, hbegin, hend⟩ := (d.isSome_redefinesFrom?_iff_of_name hname).mp hat
      exact ⟨left, right, hname, hbegin, hend⟩
  · rintro ⟨left, right, hname, hbegin, hend⟩
    refine ⟨left, "REDEFINES".toList ++ right ++ ' ' :: d.behindName, by simp [hname], ?_⟩
    exact (d.isSome_redefinesFrom?_iff_of_name hname).mpr ⟨right, rfl, hbegin, hend⟩

/-! ### The entry and the field -/

theorem levelAndName?_text : levelAndName? d.text = some (d.level, d.name) := by
  obtain ⟨hdigit, hvalue⟩ := d.levelText_spec
  have hblanks : d.text.dropWhile Text.isBlank = d.text := by
    have hfirst := (IsPlain.of_isDigit (hdigit _ List.mem_cons_self)).isBlank_eq
    exact List.dropWhile_cons_of_neg (by rw [hfirst]; decide)
  have hdigits : d.text.takeWhile Text.isAnyDigit = d.levelText := by
    rw [text, List.takeWhile_append_of_pos fun c hc => Text.isAnyDigit_of_isDigit (hdigit c hc),
      List.takeWhile_cons_of_neg (by decide), List.append_nil]
  have hrest : Text.dropBlanks? (' ' :: (d.name ++ ' ' :: d.behindName)) =
      some (d.name ++ ' ' :: d.behindName) := by
    obtain ⟨c, cs, hname⟩ := List.exists_cons_of_ne_nil d.name_ne_nil
    rw [hname]
    exact Text.dropBlanks?_space_cons (d.isPlain_name c (by simp [hname])).isBlank_eq
  have hname : (d.name ++ ' ' :: d.behindName).takeWhile isNameChar = d.name := by
    rw [List.takeWhile_append_of_pos fun c hc =>
      isNameChar_of_isNameSymbol (d.isNameSymbol_name c hc),
      List.takeWhile_cons_of_neg (by decide), List.append_nil]
  have hdrop : d.text.drop d.levelText.length = ' ' :: (d.name ++ ' ' :: d.behindName) :=
    List.drop_left
  have hlength : d.levelText.length = 1 ∨ d.levelText.length = 2 := .inr rfl
  simp only [levelAndName?, hblanks, hdigits, if_pos hlength, hdrop, hrest, hname, hvalue,
    List.isEmpty_iff, d.name_ne_nil, if_false]

theorem readLine?_text : readLine? d.text = some ⟨d.level, String.ofList d.name, d.occurs.getD 1,
    redefinesIn d.text, clauseIn d.text⟩ := by
  have hle := d.level_le
  rw [readLine?_of_levelAndName? d.levelAndName?_text, isSkippedLevel_of_ne (by omega) (by omega),
    if_neg Bool.false_ne_true, normalizeLevel, if_neg (by omega), Text.upper_eq_self d.isPlain_name,
    d.occursIn_text]

theorem read_text_of_redefines (h : HoldsRedefines d.name) : read (String.ofList d.text) = [] := by
  rw [read, entries, String.toList_ofList, d.lines_text, List.filterMap_cons_some d.readLine?_text,
    List.filterMap_nil, dropOverlays]
  simp only [Option.any_none, Bool.false_eq_true, if_false, if_pos (d.redefinesIn_text.mpr h)]
  rfl

theorem read_text_of_clauseIn (h : ¬HoldsRedefines d.name) {clause : Clause}
    (hclause : clauseIn d.text = some clause) : read (String.ofList d.text) =
      [⟨String.ofList d.name, clause.picture, clause.usage, d.occurs.getD 1⟩] := by
  have hstored : ¬redefinesIn d.text = true := fun hredefines => h (d.redefinesIn_text.mp hredefines)
  rw [read_eq_fieldsOf_forest, entries, String.toList_ofList, d.lines_text,
    List.filterMap_cons_some d.readLine?_text, List.filterMap_nil, dropOverlays]
  simp only [Option.any_none, Bool.false_eq_true, if_false, if_neg hstored, dropOverlays, forest,
    List.foldr_cons, List.foldr_nil, attach, hclause, fieldsOf, Node.fields, String.append_empty,
    List.append_nil]

/-- **When the line of an elementary item gives the field that it is meant to give.** Its
name must not hold `REDEFINES` between hyphens, since the line then gives no field; and it
must not end in a word that introduces a picture, since the field then has the picture
`P`, unless that is its picture anyway. Nothing else in a name gets in the way, and neither
do the level, the picture, the usage and the count. -/
theorem read_text_eq_field_iff (d : DataLine) :
    (read (String.ofList d.text) = [d.field] ↔
      ¬HoldsRedefines d.name ∧ (EndsInPicture d.name → d.picture = ['P'])) ∧
    (HoldsRedefines d.name → read (String.ofList d.text) = []) ∧
    (¬HoldsRedefines d.name → EndsInPicture d.name →
      read (String.ofList d.text) = [{ d.field with picture := "P" }]) := by
  refine ⟨?_, d.read_text_of_redefines, fun h hends =>
    d.read_text_of_clauseIn h (d.clauseIn_text_of_endsInPicture hends)⟩
  by_cases h : HoldsRedefines d.name
  · rw [d.read_text_of_redefines h]
    exact iff_of_false (List.cons_ne_nil _ _).symm fun hfield => hfield.1 h
  by_cases hends : EndsInPicture d.name
  · rw [d.read_text_of_clauseIn h (d.clauseIn_text_of_endsInPicture hends)]
    constructor
    · intro hfield
      have hpicture : "P" = String.ofList d.picture :=
        congrArg Field.picture (List.cons.inj hfield).1
      exact ⟨h, fun _ => by rw [← String.toList_ofList (l := d.picture), ← hpicture]; rfl⟩
    · rintro ⟨-, hpicture⟩
      rw [field, hpicture hends]
  · rw [d.read_text_of_clauseIn h (d.clauseIn_text hends)]
    exact iff_of_true rfl ⟨h, fun hends' => absurd hends' hends⟩

/-- A hyphen ends a word. -/
example : read "05 A-REDEFINES PIC 9(4)." = [] := by
  decide +kernel

/-- The topic of a record, in four digits. -/
def topic : DataLine where
  level := 5
  name := "TOPIC".toList
  picture := "9(4)".toList
  usage := none
  occurs := none
  level_pos := by decide
  level_le := by decide
  name_ne_nil := by decide
  isNameSymbol_name := List.all_eq_true.mp (by decide)
  picture_ne_nil := by decide
  isPictureSymbol_picture := List.all_eq_true.mp (by decide)
  usage_mem := by decide

/-- The name of the topic gets in the way. -/
theorem read_topic_ne_field : topic.text = "05 TOPIC PIC 9(4).".toList ∧
    read (String.ofList topic.text) = [{ topic.field with picture := "P" }] ∧
    read (String.ofList topic.text) ≠ [topic.field] := by
  decide +kernel

end DataLine

end FixedWidth.Copybook
