import FixedWidth.Number.Literal
import Mathlib.Algebra.Order.Field.Basic
import Mathlib.Algebra.Order.Field.Rat
import Mathlib.Tactic.FieldSimp
import Mathlib.Tactic.Positivity

/-!
# The value of a decimal

A decimal is a way of writing a rational number (`FixedWidth.Decimal.toRat`), and
its arithmetic is that of the rational numbers: sums, differences, products and signs
are exact (`FixedWidth.Decimal.toRat_add` and the lemmas after it). The scale says no
more than how the value is written.

Rounding is not here: it is the one operation that changes a value by writing it.
-/

namespace FixedWidth.Decimal

/-- **The value of a decimal.** -/
def toRat (d : Decimal) : ℚ :=
  d.signed / 10 ^ d.scale

theorem ten_pow_ne_zero (s : ℕ) : (10 : ℚ) ^ s ≠ 0 :=
  pow_ne_zero s (by norm_num)

@[simp] theorem toRat_ofInt (z : ℤ) (s : ℕ) : (ofInt z s).toRat = z / 10 ^ s := by
  rw [toRat, signed_ofInt, scale_ofInt]

/-- A zero can be made with either sign. -/
theorem signed_make (n : ℕ) (negative : Bool) (s : ℕ) :
    (make n negative s).signed = if negative then -(n : ℤ) else n := by
  rw [signed, negative_make, unscaled_make]
  cases negative with
  | false => rfl
  | true =>
    by_cases hzero : n = 0
    · simp [hzero]
    · simp [hzero]

theorem toRat_make (n : ℕ) (negative : Bool) (s : ℕ) :
    (make n negative s).toRat = (if negative then -(n : ℚ) else n) / 10 ^ s := by
  rw [toRat, signed_make, scale_make]
  cases negative <;> simp

/-- In units of a finer place a number is a greater integer, of the same value. -/
theorem cast_signed_mul_pow (d : Decimal) {s : ℕ} (h : d.scale ≤ s) :
    ((d.signed * Nat.pow 10 (s - d.scale) : ℤ) : ℚ) = d.toRat * 10 ^ s := by
  have hpow : (10 : ℚ) ^ s = 10 ^ (s - d.scale) * 10 ^ d.scale := by
    rw [← pow_add, Nat.sub_add_cancel h]
  have hunit := ten_pow_ne_zero d.scale
  rw [toRat, hpow, Nat.pow_eq]
  push_cast
  field_simp

/-- Alignment writes both numbers in units of the finer of their last places. -/
theorem cast_align_fst (a b : Decimal) :
    ((a.align b).1 : ℚ) = a.toRat * 10 ^ max a.scale b.scale :=
  a.cast_signed_mul_pow (le_max_left _ _)

theorem cast_align_snd (a b : Decimal) :
    ((a.align b).2 : ℚ) = b.toRat * 10 ^ max a.scale b.scale :=
  b.cast_signed_mul_pow (le_max_right _ _)

/-! ### Exact arithmetic -/

@[simp] theorem scale_add (a b : Decimal) : (a + b).scale = max a.scale b.scale := rfl

@[simp] theorem scale_sub (a b : Decimal) : (a - b).scale = max a.scale b.scale := rfl

@[simp] theorem scale_mul (a b : Decimal) : (a * b).scale = a.scale + b.scale := rfl

@[simp] theorem scale_neg (d : Decimal) : (-d).scale = d.scale := rfl

@[simp] theorem scale_abs (d : Decimal) : d.abs.scale = d.scale := rfl

@[simp] theorem toRat_add (a b : Decimal) : (a + b).toRat = a.toRat + b.toRat := by
  have hunit := ten_pow_ne_zero (max a.scale b.scale)
  change (ofInt ((a.align b).1 + (a.align b).2) (max a.scale b.scale)).toRat = _
  rw [toRat_ofInt, Int.cast_add, cast_align_fst, cast_align_snd, ← add_mul,
    mul_div_cancel_right₀ _ hunit]

@[simp] theorem toRat_sub (a b : Decimal) : (a - b).toRat = a.toRat - b.toRat := by
  have hunit := ten_pow_ne_zero (max a.scale b.scale)
  change (ofInt ((a.align b).1 - (a.align b).2) (max a.scale b.scale)).toRat = _
  rw [toRat_ofInt, Int.cast_sub, cast_align_fst, cast_align_snd, ← sub_mul,
    mul_div_cancel_right₀ _ hunit]

@[simp] theorem toRat_mul (a b : Decimal) : (a * b).toRat = a.toRat * b.toRat := by
  change (ofInt (a.signed * b.signed) (a.scale + b.scale)).toRat = _
  rw [toRat_ofInt, Int.cast_mul, pow_add, mul_div_mul_comm, toRat, toRat]

theorem signed_neg (d : Decimal) : (-d).signed = -d.signed := by
  change (make d.unscaled (!d.negative) d.scale).signed = _
  by_cases hzero : d.unscaled = 0
  · simp [signed, hzero]
  · cases hneg : d.negative <;> simp [signed, hneg, hzero]

@[simp] theorem toRat_neg (d : Decimal) : (-d).toRat = -d.toRat := by
  rw [toRat, signed_neg, scale_neg, Int.cast_neg, neg_div, toRat]

theorem signed_abs (d : Decimal) : d.abs.signed = |d.signed| := by
  have habs : d.abs.signed = d.unscaled := rfl
  rw [habs, signed]
  split
  · rw [abs_neg, Nat.abs_cast]
  · rw [Nat.abs_cast]

@[simp] theorem toRat_abs (d : Decimal) : d.abs.toRat = |d.toRat| := by
  have hunit : (0 : ℚ) ≤ 10 ^ d.scale := by positivity
  rw [toRat, signed_abs, scale_abs, Int.cast_abs, toRat, abs_div, abs_of_nonneg hunit]

/-! ### Magnitude and sign -/

theorem abs_toRat (d : Decimal) : |d.toRat| = d.unscaled / 10 ^ d.scale := by
  rw [← toRat_abs, toRat, scale_abs]
  rfl

/-- Zero has no sign, so that a sign says that the value is below zero. -/
theorem negative_iff_toRat_lt (d : Decimal) : d.negative = true ↔ d.toRat < 0 := by
  have hunit : (0 : ℚ) < 10 ^ d.scale := by positivity
  rw [toRat, div_lt_iff₀ hunit, zero_mul, Int.cast_lt_zero, signed]
  cases hnegative : d.negative with
  | false =>
    refine iff_of_false Bool.false_ne_true ?_
    rw [if_neg Bool.false_ne_true]
    omega
  | true =>
    have hnonzero : d.unscaled ≠ 0 := fun hzero => by simp [d.zero_unsigned hzero] at hnegative
    refine iff_of_true rfl ?_
    rw [if_pos rfl]
    omega

/-- What stands before the point is bounded as the magnitude is. -/
theorem wholePart_lt_iff (d : Decimal) {k : ℕ} :
    d.wholePart < Nat.pow 10 k ↔ |d.toRat| < 10 ^ k := by
  have hplaces : 0 < Nat.pow 10 d.scale := Nat.pow_pos (by decide)
  have hunit : (0 : ℚ) < 10 ^ d.scale := by positivity
  rw [wholePart, Nat.div_lt_iff_lt_mul hplaces, abs_toRat, div_lt_iff₀ hunit, Nat.pow_eq,
    Nat.pow_eq]
  exact_mod_cast Iff.rfl

/-! ### A value from its parts -/

/-- **A decimal is what its parts make**: they pass the checks of a number that is
given in parts, and the sign is not changed. -/
theorem ofParts_self (d : Decimal) : ofParts d.unscaled d.negative d.scale = .ok d := by
  have hunscaled : ¬(d.unscaled : ℤ) < 0 := by omega
  have hscale : ¬(d.scale : ℤ) < 0 := by omega
  rw [ofParts, if_neg hunscaled, if_neg hscale, Int.toNat_natCast, Int.toNat_natCast, make_self]

end FixedWidth.Decimal
