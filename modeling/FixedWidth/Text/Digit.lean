/-!
# Decimal digits of every script

A count in a picture or in a copybook clause may be written with the decimal
digits of any script. Every script has its ten digits in order, so a table of
the zeros gives them all.

The digits of a *value* are another matter: there only `0` to `9` count, which
is `Char.isDigit`.
-/

namespace FixedWidth.Text

/-- The zeros of the scripts of Unicode 14. -/
def zeroDigits : List Nat := [
  0x30, 0x660, 0x6F0, 0x7C0, 0x966, 0x9E6, 0xA66, 0xAE6, 0xB66, 0xBE6, 0xC66, 0xCE6, 0xD66,
  0xDE6, 0xE50, 0xED0, 0xF20, 0x1040, 0x1090, 0x17E0, 0x1810, 0x1946, 0x19D0, 0x1A80, 0x1A90,
  0x1B50, 0x1BB0, 0x1C40, 0x1C50, 0xA620, 0xA8D0, 0xA900, 0xA9D0, 0xA9F0, 0xAA50, 0xABF0, 0xFF10,
  0x104A0, 0x10D30, 0x11066, 0x110F0, 0x11136, 0x111D0, 0x112F0, 0x11450, 0x114D0, 0x11650,
  0x116C0, 0x11730, 0x118E0, 0x11950, 0x11C50, 0x11D50, 0x11DA0, 0x16A60, 0x16AC0, 0x16B50,
  0x1D7CE, 0x1D7D8, 0x1D7E2, 0x1D7EC, 0x1D7F6, 0x1E140, 0x1E2F0, 0x1E950, 0x1FBF0]
/-- The value of a decimal digit of any script. -/
def digitValue? (c : Char) : Option Nat :=
  if c.toNat < 0x80 then
    if c.isDigit then some (c.toNat - '0'.toNat) else none
  else (zeroDigits.find? fun z => z ≤ c.toNat && c.toNat < z + 10).map (c.toNat - ·)

/-- Whether the character is a decimal digit of any script. -/
def isAnyDigit (c : Char) : Bool :=
  (digitValue? c).isSome

/-- The number that decimal digits spell, most significant first; other
characters count as zero. -/
def digitsValue (cs : List Char) : Nat :=
  cs.foldl (fun n c => 10 * n + (digitValue? c).getD 0) 0

/-- The value of an ASCII digit. -/
def digitOf (c : Char) : Nat :=
  c.toNat - '0'.toNat

/-- The first character that is no ASCII digit, with its position, where the
text begins at the given position. -/
def firstNonDigit? (position : Nat) : List Char → Option (Char × Nat)
  | [] => none
  | c :: cs => if c.isDigit then firstNonDigit? (position + 1) cs else some (c, position)

theorem firstNonDigit?_eq_none_iff {position : Nat} {cs : List Char} :
    firstNonDigit? position cs = none ↔ cs.all Char.isDigit = true := by
  induction cs generalizing position with
  | nil => simp [firstNonDigit?]
  | cons c cs ih => by_cases h : c.isDigit = true <;> simp [firstNonDigit?, h, ih]

/-- The character that is found is no digit, and there are only digits before it. -/
theorem exists_append_of_firstNonDigit? {position k : Nat} {c : Char} {cs : List Char}
    (h : firstNonDigit? position cs = some (c, k)) :
    ∃ before after, cs = before ++ c :: after ∧ before.all Char.isDigit = true ∧
      ¬c.isDigit = true ∧ k = position + before.length := by
  induction cs generalizing position with
  | nil => cases h
  | cons c' cs ih =>
    rw [firstNonDigit?] at h
    split at h
    next hc' =>
      obtain ⟨before, after, rfl, hbefore, hc, rfl⟩ := ih h
      refine ⟨c' :: before, after, rfl, ?_, hc, ?_⟩
      · rw [List.all_cons, hc', hbefore]
        rfl
      · rw [List.length_cons]
        omega
    next hc =>
      obtain ⟨rfl, rfl⟩ := Prod.mk.inj (Option.some.inj h)
      exact ⟨[], cs, rfl, rfl, hc, rfl⟩

theorem digitValue?_of_isDigit {c : Char} (h : c.isDigit = true) :
    digitValue? c = some (c.toNat - '0'.toNat) := by
  have hc : c.toNat < 0x80 := by
    simp only [Char.isDigit, Bool.and_eq_true, decide_eq_true_eq] at h
    have := h.2
    simp only [UInt32.le_iff_toNat_le] at this
    exact Nat.lt_of_le_of_lt this (by decide)
  simp [digitValue?, hc, h]

theorem isAnyDigit_of_isDigit {c : Char} (h : c.isDigit = true) : isAnyDigit c = true := by
  rw [isAnyDigit, digitValue?_of_isDigit h, Option.isSome_some]

/-- On ASCII digits the number spelt is the one the library's reader gives. -/
theorem digitsValue_eq_ofDigitChars {cs : List Char} (h : cs.all Char.isDigit = true) :
    digitsValue cs = Nat.ofDigitChars 10 cs 0 := by
  have aux : ∀ (cs : List Char) (n : Nat), cs.all Char.isDigit = true →
      cs.foldl (fun n c => 10 * n + (digitValue? c).getD 0) n = Nat.ofDigitChars 10 cs n := by
    intro cs
    induction cs with
    | nil => intro n _; rfl
    | cons c cs ih =>
      intro n h
      simp only [List.all_cons, Bool.and_eq_true] at h
      simp only [List.foldl_cons, digitValue?_of_isDigit h.1, Option.getD_some,
        Nat.ofDigitChars_cons]
      exact ih _ h.2
  exact aux cs 0 h

end FixedWidth.Text
