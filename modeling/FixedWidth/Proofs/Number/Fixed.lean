import FixedWidth.Proofs.Number.Literal
import FixedWidth.Proofs.Number.Rescale.Exact

/-!
# Numbers written with a chosen count of places

To be written with so many places a number is rounded to them, and the precision that this
is done under is a formula of its digits and the places. The formula has room for all that
can come of it: for the places that are gained, for the digit that a carry brings in, and for
the one digit of a zero, however small the number was. So a number is written in plain form,
and its text means what it was rounded to (`FixedWidth.Decimal.toFixed_exact`).

The formula has no say over the limits of the arithmetic that places are lost in. A number
beyond them is not written, also one that is rounded to zero
(`FixedWidth.Decimal.not_toFixed_total`).
-/

namespace FixedWidth.Decimal

variable {v r : Decimal} {places : ℕ} {mode : Rounding}

theorem toFixed_eq (h : places ≤ 999999) (hroundable : v.Roundable places mode) :
    v.toFixed places mode = .ok (v.roundTo places mode).text := by
  rw [toFixed, rescale_ample h hroundable]
  rfl

/-- A number written with a chosen count of places is rounded to them, and its text means
the rounded number. -/
theorem exists_toFixed (h : places ≤ 999999) (hroundable : v.Roundable places mode) :
    ∃ fixed, v.toFixed places mode = .ok fixed ∧
      ofText (String.ofList fixed) = .ok (v.roundTo places mode) :=
  ⟨_, toFixed_eq h hroundable, ofText_toText _⟩

/-- **How a number is written with so many places** that is rounded to another number. -/
structure WritesRounded (v r : Decimal) (places : ℕ) (mode : Rounding) : Prop where
  /-- The text is in plain form and means the rounded number. -/
  written : v.Roundable places mode → ∃ cs, v.toFixed places mode = .ok cs ∧
    PlainForm r.negative places cs ∧
    ∀ context, parse (.text (String.ofList cs)) none context = .ok r
  /-- The sign is that of a value below zero. -/
  negative_iff : r.negative = true ↔ r.toRat < 0
  /-- What cannot be rounded is not written. -/
  limit_refused : ¬v.Roundable places mode →
    ∃ fault ∈ v.limitFaults places, v.toFixed places mode = .error fault

/-- **A number is written as what it is rounded to**, and there is nothing to refuse it for
but the limits of the arithmetic. -/
theorem toFixed_exact (h : places ≤ 999999) (v : Decimal) (mode : Rounding) :
    ∃ r, (∀ r', v.IsRounded places mode r' ↔ r' = r) ∧ WritesRounded v r places mode := by
  refine ⟨v.roundTo places mode, fun _ => isRounded_iff, fun hroundable => ?_,
    negative_iff_toRat_lt _, fun hroundable => ?_⟩
  · refine ⟨_, toFixed_eq h hroundable, ?_, fun context => ?_⟩
    · have hplain := (v.roundTo places mode).plainForm_text
      rwa [scale_roundTo] at hplain
    · rw [parse_none]
      exact ofText_toText _
  · obtain ⟨fault, hmem, hfault⟩ := exists_limitFault h hroundable
    exact ⟨fault, hmem, by rw [toFixed, hfault]; rfl⟩

/-- A debt is rounded up to one digit more, and a smaller one to a zero, which has no sign. -/
theorem debts_toFixed :
    (make 9995 true 3).IsRounded 2 .halfUp (make 1000 true 2) ∧
      (make 4 true 3).IsRounded 2 .halfUp (make 0 false 2) ∧
      (∃ cs, (make 9995 true 3).toFixed (2 : ℕ) .halfUp = .ok cs ∧ PlainForm true 2 cs ∧
        parse (.text (String.ofList cs)) none ⟨31, .halfUp⟩ = .ok (make 1000 true 2)) ∧
      ∃ cs, (make 4 true 3).toFixed (2 : ℕ) .halfUp = .ok cs ∧ PlainForm false 2 cs ∧
        parse (.text (String.ofList cs)) none ⟨31, .halfUp⟩ = .ok (make 0 false 2) := by
  have hcarried : (make 9995 true 3).IsRounded 2 .halfUp (make 1000 true 2) :=
    isRounded_iff.mpr (by decide +kernel)
  have hzero : (make 4 true 3).IsRounded 2 .halfUp (make 0 false 2) :=
    isRounded_iff.mpr (by decide +kernel)
  obtain ⟨r, hr, hlarge⟩ := toFixed_exact (by decide : 2 ≤ 999999) (make 9995 true 3) .halfUp
  obtain ⟨r', hr', hsmall⟩ := toFixed_exact (by decide : 2 ≤ 999999) (make 4 true 3) .halfUp
  obtain rfl := (hr _).mp hcarried
  obtain rfl := (hr' _).mp hzero
  obtain ⟨cs, hcs, hform, hread⟩ :=
    hlarge.written (roundable_of_digitCount_le (by decide) (by decide) (by decide +kernel) _)
  obtain ⟨cs', hcs', hform', hread'⟩ :=
    hsmall.written (roundable_of_digitCount_le (by decide) (by decide) (by decide +kernel) _)
  exact ⟨hcarried, hzero, ⟨cs, hcs, hform, hread _⟩, cs', hcs', hform', hread' _⟩

/-- **Not every number is written**: one that has too many places for the arithmetic is not
rounded to zero. -/
theorem not_toFixed_total :
    ¬∀ (v : Decimal) (places : ℕ) (mode : Rounding), places ≤ 999999 →
      ∃ cs, v.toFixed places mode = .ok cs := by
  intro h
  obtain ⟨cs, hcs⟩ := h (make 1 false 2000000000000000000) 0 .halfUp (by decide)
  obtain ⟨r, hr, -⟩ := map_eq_ok_iff.mp hcs
  have hroundable := ((rescale_ample_eq_ok_iff (by decide)).mp hr).1
  exact absurd (hroundable (by decide)).2.1 (by decide)

end FixedWidth.Decimal
