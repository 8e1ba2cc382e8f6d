import FixedWidth.Proofs.Display.Signed.Form
import FixedWidth.Proofs.Number.Fixed

/-!
# Signed numbers on display are rounded numbers

What a field shows of a number is the number rounded to the field's places, and this is
said here without the computation: the rounded number is the one whose magnitude is the
nearest by the mode (`FixedWidth.Decimal.IsRounded`), it has too many digits before the
point where its value is not below the power of ten, and it is shown in the form of the
field (`FixedWidth.Display.InForm`), from which it is read back.

The precision that writing asks for is a formula of the digits and the places, and has
room for the digit that a carry brings in. So a number is never refused for its digits as
such, within the limits of the arithmetic; what a carry can do is to make the part before the
point too long for the field. `FixedWidth.Decimal.toFixed` rounds by the same formula, and
its text means the number that the field shows.
-/

namespace FixedWidth

namespace Display

open Decimal (make)

variable {d v : Decimal} {i f : ℕ} {mode : Rounding}

/-- What is written of a number that fits is its sign and a row in form. -/
theorem exists_inForm (hscale : d.scale = f) (hfits : d.wholePart < Nat.pow 10 i) :
    ∃ cs, signedText d i f = withSign d.negative cs ∧ InForm i f cs := by
  obtain ⟨ds, hshown, hdigits, hlength, -⟩ := exists_pointed_digits hscale hfits
  refine ⟨pointed i f ds, ?_, inForm_iff.mpr ⟨ds, rfl, hdigits, hlength⟩⟩
  rw [signedText_eq, hshown]

/-- **How a field shows a number** that is rounded to another. -/
structure ShowsRounded (v r : Decimal) (i f : ℕ) (mode : Rounding) : Prop where
  /-- The precision is never too small. -/
  not_overflow : v.Roundable f mode → ∀ (digits : ℕ) (capacity : ℤ),
    formatSigned (.decimal v) i f mode ≠ .error (.overflow digits capacity)
  /-- What cannot be rounded is not shown. -/
  limit_refused : ¬v.Roundable f mode →
    ∃ fault ∈ v.limitFaults f, formatSigned (.decimal v) i f mode = .error fault
  /-- A number is refused for its digits before the point exactly where the rounded number
  has more of them than the field. -/
  refused_iff (digits : ℕ) (capacity : ℤ) :
    formatSigned (.decimal v) i f mode = .error (.digitOverflow digits capacity) ↔
      v.Roundable f mode ∧ 10 ^ i ≤ |r.toRat| ∧ digits = r.integerDigits ∧ capacity = i
  /-- Any other is shown with its sign and in the form of the field; it is read back as the
  rounded number, which is also what its text with so many places means. -/
  shown : v.Roundable f mode → |r.toRat| < 10 ^ i →
    ∃ cs fixed, formatSigned (.decimal v) i f mode = .ok (withSign r.negative cs) ∧
      InForm i f cs ∧ parseSigned (withSign r.negative cs) i f = .ok r ∧
      v.toFixed f mode = .ok fixed ∧ Decimal.ofText (String.ofList fixed) = .ok r

theorem showsRounded_roundTo (hf : f ≤ 999999) (v : Decimal) (i : ℕ) (mode : Rounding) :
    ShowsRounded v (v.roundTo f mode) i f mode where
  not_overflow hroundable digits capacity := by
    rw [formatSigned_decimal, formatNumber_eq hf hroundable]
    split
    · exact fun h => nomatch h
    · exact fun h => nomatch h
  limit_refused hroundable := by
    rw [formatSigned_decimal]
    exact exists_formatNumber_limitFault hf hroundable
  refused_iff digits capacity := by
    rw [formatSigned_decimal, ← not_lt, ← Decimal.wholePart_lt_iff]
    by_cases hroundable : v.Roundable f mode
    · rw [formatNumber_eq hf hroundable, and_iff_right hroundable]
      by_cases hfits : (v.roundTo f mode).wholePart < Nat.pow 10 i
      · rw [if_neg (not_not_intro hfits)]
        exact iff_of_false (fun h => nomatch h) fun h => h.1 hfits
      · rw [if_pos hfits, and_iff_right hfits, Except.error.injEq, Fault.digitOverflow.injEq,
          @eq_comm _ digits, @eq_comm _ capacity]
    · obtain ⟨fault, hmem, hfault⟩ := exists_formatNumber_limitFault (i := i) hf hroundable
      refine iff_of_false (fun h => ?_) fun h => hroundable h.1
      -- no limit is told of as the digits before the point
      rw [hfault, Except.error.injEq] at h
      rw [h, Decimal.limitFaults] at hmem
      simp at hmem
  shown hroundable hbelow := by
    have hfits := (Decimal.wholePart_lt_iff _).mpr hbelow
    have hscale := v.scale_roundTo f mode
    obtain ⟨cs, htext, hform⟩ := exists_inForm hscale hfits
    obtain ⟨fixed, hfixed, hmeans⟩ := Decimal.exists_toFixed hf hroundable
    refine ⟨cs, fixed, ?_, hform, ?_, hfixed, hmeans⟩
    · rw [formatSigned_decimal, formatNumber_eq hf hroundable, if_neg (not_not_intro hfits), htext]
    · rw [← htext, parseSigned_signedText hscale hfits]

/-- **A field shows a number rounded to its places**, and nothing but the digits before the
point can stand in the way, within the limits of the arithmetic. -/
theorem exists_showsRounded (hf : f ≤ 999999) (v : Decimal) (i : ℕ) (mode : Rounding) :
    ∃ r, (∀ r', v.IsRounded f mode r' ↔ r' = r) ∧ ShowsRounded v r i f mode :=
  ⟨v.roundTo f mode, fun _ => Decimal.isRounded_iff, showsRounded_roundTo hf v i mode⟩

/-- A debt of two digits before the point is rounded to one of three: a field of two does not
show it, and a field of three does. -/
theorem debt_showsRounded :
    (make 9995 true 2).IsRounded 1 .halfUp (make 1000 true 1) ∧
      formatSigned (.decimal (make 9995 true 2)) (2 : ℕ) (1 : ℕ) .halfUp =
        .error (.digitOverflow 3 2) ∧
      ∃ cs, formatSigned (.decimal (make 9995 true 2)) (3 : ℕ) (1 : ℕ) .halfUp = .ok cs ∧
        parseSigned cs (3 : ℕ) (1 : ℕ) = .ok (make 1000 true 1) := by
  have hrounded : (make 9995 true 2).IsRounded 1 .halfUp (make 1000 true 1) :=
    Decimal.isRounded_iff.mpr (by decide +kernel)
  have hroundable : (make 9995 true 2).Roundable 1 .halfUp :=
    Decimal.roundable_of_digitCount_le (by decide) (by decide) (by decide +kernel) _
  obtain ⟨r, hr, hnarrow⟩ :=
    exists_showsRounded (f := 1) (by decide) (make 9995 true 2) 2 .halfUp
  obtain ⟨r', hr', hwide⟩ :=
    exists_showsRounded (f := 1) (by decide) (make 9995 true 2) 3 .halfUp
  obtain rfl := (hr _).mp hrounded
  obtain rfl := (hr' _).mp hrounded
  have hlong : ¬|(make 1000 true 1).toRat| < 10 ^ 2 := by
    rw [← Decimal.wholePart_lt_iff]
    decide
  have hshort : |(make 1000 true 1).toRat| < 10 ^ 3 := by
    rw [← Decimal.wholePart_lt_iff]
    decide
  refine ⟨hrounded, ?_, ?_⟩
  · exact (hnarrow.refused_iff 3 2).mpr ⟨hroundable, not_lt.mp hlong, by decide +kernel, rfl⟩
  · obtain ⟨cs, -, hshown, -, hread, -⟩ := hwide.shown hroundable hshort
    exact ⟨_, hshown, hread⟩

/-- **The precision does not always suffice**: a number that has too many places for the
arithmetic is told of as one of too many digits. -/
theorem not_never_overflow :
    ¬∀ (v : Decimal) (i f : ℕ) (mode : Rounding), f ≤ 999999 → ∀ (digits : ℕ) (capacity : ℤ),
      formatSigned (.decimal v) i f mode ≠ .error (.overflow digits capacity) := by
  intro h
  have hrefused := @formatNumber_of_finest 1 0 (by decide) (make 1 false 2000000000000000000)
    (by decide) (by decide) (by decide +kernel) .halfUp
  rw [← formatSigned_decimal] at hrefused
  exact h _ _ _ _ (by decide) _ _ hrefused

end Display

end FixedWidth
