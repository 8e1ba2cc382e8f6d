import FixedWidth.Proofs.Number.Digits
import FixedWidth.Proofs.Text.Scan

/-!
# Characters that a picture keeps

Before the symbols of a picture are looked at, white space around it goes, then the words
that introduce it, and what is left is put into upper case. A character is
*bare* when none of this touches it (`FixedWidth.Text.IsBare`).

The digits of a repeat count are bare, whatever their script
(`FixedWidth.Text.isBare_of_isAnyDigit`). What has to be looked through for this are two
tables, of digits and of letters with an upper case. The ten digits of a script stand in a
row, so that they lie beside a run of letters as soon as their zero does, and the tables
are compared row by row.
-/

namespace FixedWidth.Text

/-- **Whether a character stands in a picture as it is**: it is its own upper case, no
white space, and no letter that the words for introducing a picture need. -/
def IsBare (c : Char) : Prop :=
  upperChar c = [c] ∧ isBlank c = false ∧ foldLetter c ≠ 'I'

instance (c : Char) : Decidable (IsBare c) := by
  unfold IsBare
  infer_instance

/-- A digit has its place behind one of the zeros. -/
theorem exists_zero_of_isAnyDigit {c : Char} (h : isAnyDigit c = true) :
    ∃ z ∈ zeroDigits, ∃ k < 10, c.toNat = z + k := by
  rw [isAnyDigit, Option.isSome_iff_exists] at h
  obtain ⟨d, hd⟩ := h
  rw [digitValue?] at hd
  split at hd
  next hlow =>
    split at hd
    next hdigit =>
      obtain ⟨hzero, hnine⟩ := isDigit_iff.mp hdigit
      exact ⟨0x30, by decide, c.toNat - 0x30, by omega, by omega⟩
    next => cases hd
  next =>
    obtain ⟨z, hz, -⟩ := Option.map_eq_some_iff.mp hd
    have hrange := List.find?_some hz
    simp only [Bool.and_eq_true, decide_eq_true_eq] at hrange
    exact ⟨z, List.mem_of_find?_eq_some hz, c.toNat - z, by omega, by omega⟩

/-- The ten digits behind a zero lie beside a run of characters, all below it or all
above it. -/
def besideRun (z first last : Nat) : Bool :=
  Nat.ble (z + 10) first || Nat.blt last z

theorem not_mem_of_besideRun {z first last k : Nat} (h : besideRun z first last = true)
    (hk : k < 10) : ¬(first ≤ z + k ∧ z + k ≤ last) := by
  simp only [besideRun, Bool.or_eq_true, Nat.ble_eq, Nat.blt_eq] at h
  omega

/-- **No digit has an upper case**: the digits of every script lie beside all runs of the
table. -/
theorem upperChar_of_isAnyDigit {c : Char} (h : isAnyDigit c = true) : upperChar c = [c] := by
  have hzeros : ∀ z ∈ zeroDigits, z = 0x30 ∨ 0x80 ≤ z := by decide +kernel
  have hruns : (zeroDigits.all fun z =>
      upperRuns.all fun run => besideRun z run.1 run.2.1) = true := by decide +kernel
  have hexpansions : (zeroDigits.all fun z =>
      upperExpansions.all fun entry => besideRun z entry.1 entry.1) = true := by decide +kernel
  obtain ⟨z, hz, k, hk, hplace⟩ := exists_zero_of_isAnyDigit h
  rcases hzeros z hz with rfl | hhigh
  · exact IsPlain.upperChar_eq ⟨by omega, by omega⟩
  · have hexpansion : upperExpansions.find? (·.1 == c.toNat) = none := by
      refine List.find?_eq_none.mpr fun entry hentry hequal => ?_
      have hbeside := List.all_eq_true.mp (List.all_eq_true.mp hexpansions z hz) entry hentry
      have hplace' : entry.1 = c.toNat := eq_of_beq hequal
      exact not_mem_of_besideRun hbeside hk ⟨by omega, by omega⟩
    have hrun : (upperRuns.find? fun run => run.1 ≤ c.toNat && c.toNat ≤ run.2.1 &&
        (c.toNat - run.1) % run.2.2.1 == 0) = none := by
      refine List.find?_eq_none.mpr fun run hrun hinside => ?_
      have hbeside := List.all_eq_true.mp (List.all_eq_true.mp hruns z hz) run hrun
      simp only [Bool.and_eq_true, decide_eq_true_eq] at hinside
      exact not_mem_of_besideRun hbeside hk ⟨by omega, by omega⟩
    simp only [upperChar, if_neg (show ¬c.toNat < 0x80 by omega), hexpansion, hrun]

theorem isBare_of_isAnyDigit {c : Char} (h : isAnyDigit c = true) : IsBare c := by
  have hall : (zeroDigits.all fun z => (List.range 10).all fun k =>
      !isBlank (Char.ofNat (z + k)) && foldLetter (Char.ofNat (z + k)) != 'I') = true := by
    decide +kernel
  obtain ⟨z, hz, k, hk, hplace⟩ := exists_zero_of_isAnyDigit h
  have hchar := List.all_eq_true.mp (List.all_eq_true.mp hall z hz) k (List.mem_range.mpr hk)
  rw [← hplace, Char.ofNat_toNat] at hchar
  refine ⟨upperChar_of_isAnyDigit h, ?_⟩
  simpa using hchar

end FixedWidth.Text
