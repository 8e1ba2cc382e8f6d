import FixedWidth.Proofs.Number.Rescale
import FixedWidth.Proofs.Number.Rounding
import FixedWidth.Proofs.Number.Value

/-!
# Changing the scale is rounding the value

A number gains places by a multiplication and loses them by a division, and the two have
little in common as they run. In both, what comes out is the value rounded to the places
(`FixedWidth.Decimal.IsRounded`): in units of the last place, the magnitude is rounded to
an integer, and where this is not zero the sign is kept. Where places are gained the
magnitude is an integer of those units already, so that nothing is rounded.

`FixedWidth.Decimal.rescale_exact` says with this what changing the scale gives, under
any precision that can be used: the one number that is rounded so, or a fault where it
has more digits than the precision. The arithmetic that places are lost in has limits
besides, and gives the same fault beyond them; each of them is met by a number that is
rounded to one of few enough digits (`FixedWidth.Decimal.not_rescale_exact`).
-/

namespace FixedWidth.Decimal

variable {a b d r : Decimal} {s : ℕ} {mode : Rounding} {context : Context}

/-! ### Units of the last place -/

theorem abs_toRat_mul_of_le (h : d.scale ≤ s) :
    |d.toRat| * 10 ^ s = (d.unscaled * Nat.pow 10 (s - d.scale) : ℕ) := by
  have hpow : (10 : ℚ) ^ s = 10 ^ d.scale * 10 ^ (s - d.scale) := by
    rw [← pow_add, Nat.add_sub_cancel' h]
  rw [abs_toRat, hpow, ← mul_assoc, div_mul_cancel₀ _ (ten_pow_ne_zero _), Nat.pow_eq]
  push_cast
  rfl

theorem abs_toRat_mul_of_ge (h : s ≤ d.scale) :
    |d.toRat| * 10 ^ s = d.unscaled / (Nat.pow 10 (d.scale - s) : ℕ) := by
  have hpow : (10 : ℚ) ^ d.scale = 10 ^ (d.scale - s) * 10 ^ s := by
    rw [← pow_add, Nat.sub_add_cancel h]
  rw [abs_toRat, hpow, ← div_div, div_mul_cancel₀ _ (ten_pow_ne_zero _), Nat.pow_eq]
  push_cast
  rfl

/-! ### Rounded to a place -/

/-- **A number rounded to so many places.** -/
structure IsRounded (d : Decimal) (s : ℕ) (mode : Rounding) (r : Decimal) : Prop where
  /-- The magnitude, in units of the last place, is rounded to an integer. -/
  rounds : mode.Rounds (|d.toRat| * 10 ^ s) r.unscaled
  scale_eq : r.scale = s
  /-- The sign is kept, but not by a zero. -/
  negative_iff : r.negative = true ↔ d.negative = true ∧ r.unscaled ≠ 0

theorem IsRounded.unique (ha : d.IsRounded s mode a) (hb : d.IsRounded s mode b) : a = b := by
  have hunscaled := ha.rounds.unique hb.rounds
  have hnegative : a.negative = b.negative := by
    rw [Bool.eq_iff_iff, ha.negative_iff, hb.negative_iff, hunscaled]
  exact Decimal.ext hunscaled hnegative (ha.scale_eq.trans hb.scale_eq.symm)

theorem isRounded_roundTo (d : Decimal) (s : ℕ) (mode : Rounding) :
    d.IsRounded s mode (d.roundTo s mode) := by
  have hsign (n : ℕ) : (make n d.negative s).negative = true ↔ d.negative = true ∧ n ≠ 0 := by
    rw [negative_make, Bool.and_eq_true, bne_iff_ne]
  by_cases hgains : d.scale ≤ s
  · rw [roundTo_of_gain hgains]
    refine ⟨?_, rfl, hsign _⟩
    rw [abs_toRat_mul_of_le hgains]
    exact mode.rounds_natCast _
  · rw [roundTo_of_loss (not_le.mp hgains)]
    refine ⟨?_, rfl, hsign _⟩
    rw [abs_toRat_mul_of_ge (by omega)]
    exact mode.rounds_div _ (Nat.pow_pos (by decide))

/-- **What a number is rounded to is what is computed.** -/
theorem isRounded_iff : d.IsRounded s mode r ↔ r = d.roundTo s mode := by
  constructor
  · exact fun h => h.unique (d.isRounded_roundTo s mode)
  · rintro rfl
    exact d.isRounded_roundTo s mode

/-- **Changing the scale rounds the value**, and is refused exactly where what comes out
has more digits than the precision, or the change is beyond the limits of the arithmetic. -/
theorem rescale_exact (hs : s ≤ 999999) (hreaches : d.Reaches s context) :
    ∃ r, (∀ r', d.IsRounded s context.rounding r' ↔ r' = r) ∧
      d.rescale s context =
        if (r.digitCount : ℤ) ≤ context.precision ∧ d.InRange r then .ok r
        else .error (.overflow (if s < d.scale then d.digitCount else r.digitCount)
          context.precision) := by
  refine ⟨d.roundTo s context.rounding, fun r' => isRounded_iff, ?_⟩
  exact rescale_eq hs hreaches

/-- A debt is rounded to the unit: the half goes to the even hundred, which is one digit
longer. There is room for it under a precision of three digits, and not under one of two. -/
theorem debt_rescale_exact :
    (make 995 true 1).Reaches 0 ⟨3, .halfEven⟩ ∧ (make 995 true 1).Reaches 0 ⟨2, .halfEven⟩ ∧
      (make 995 true 1).IsRounded 0 .halfEven (make 100 true 0) ∧
      (make 995 true 1).rescale (0 : ℕ) ⟨3, .halfEven⟩ = .ok (make 100 true 0) ∧
      (make 995 true 1).rescale (0 : ℕ) ⟨2, .halfEven⟩ = .error (.overflow 3 2) := by
  have hwide : (make 995 true 1).Reaches 0 ⟨3, .halfEven⟩ := by decide
  have hnarrow : (make 995 true 1).Reaches 0 ⟨2, .halfEven⟩ := by decide
  have hrounded : (make 995 true 1).IsRounded 0 .halfEven (make 100 true 0) :=
    isRounded_iff.mpr (by decide)
  obtain ⟨r, hr, hfits⟩ := rescale_exact (by decide) hwide
  obtain ⟨r', hr', hrefused⟩ := rescale_exact (by decide) hnarrow
  obtain rfl := (hr _).mp hrounded
  obtain rfl := (hr' _).mp hrounded
  exact ⟨hwide, hnarrow, hrounded, hfits.trans (if_pos (by decide +kernel)),
    hrefused.trans (if_neg (by decide +kernel))⟩

/-- A power of ten has one digit more than it has zeros. -/
theorem digitCount_pow (k : ℕ) (negative : Bool) (scale : ℕ) :
    (make (Nat.pow 10 k) negative scale).digitCount = k + 1 := by
  have hle : (make (Nat.pow 10 k) negative scale).digitCount ≤ k + 1 :=
    (digitCount_le_iff _ k.succ_pos).mpr (Nat.pow_lt_pow_right (by decide) k.lt_succ_self)
  have hlt : k < (make (Nat.pow 10 k) negative scale).digitCount := by
    rcases k.eq_zero_or_pos with rfl | hpos
    · exact digitCount_pos _
    · exact not_le.mp fun h => ((digitCount_le_iff _ hpos).mp h).false
  omega

/-- A power of ten loses a zero, and no more than that. -/
theorem isRounded_pow (k : ℕ) (mode : Rounding) :
    (make (Nat.pow 10 (k + 1)) false 1).IsRounded 0 mode (make (Nat.pow 10 k) false 0) := by
  have hquotient : mode.quotient (Nat.pow 10 (k + 1)) (Nat.pow 10 1) = Nat.pow 10 k :=
    mode.quotient_exact _ (by decide)
  have hloses : 0 < (make (Nat.pow 10 (k + 1)) false 1).scale := Nat.one_pos
  rw [isRounded_iff, roundTo_of_loss hloses]
  exact congrArg (make · false 0) hquotient.symm

/-- **The limits have to be asked for**: to lose places there has to be such a precision,
and such a number, and such a result. -/
theorem not_rescale_exact :
    (¬∀ (d : Decimal) (s : ℕ) (context : Context), s ≤ 999999 → 1 ≤ context.precision →
      d.Convertible → ∀ r, d.IsRounded s context.rounding r →
        (r.digitCount : ℤ) ≤ context.precision → d.rescale s context = .ok r) ∧
    (¬∀ (d : Decimal) (s : ℕ) (context : Context), s ≤ 999999 → 1 ≤ context.precision →
      context.Exists → ∀ r, d.IsRounded s context.rounding r →
        (r.digitCount : ℤ) ≤ context.precision → d.rescale s context = .ok r) ∧
    ¬∀ (d : Decimal) (s : ℕ) (context : Context), s ≤ 999999 → 1 ≤ context.precision →
      d.Convertible → context.Exists → ∀ r, d.IsRounded s context.rounding r →
        (r.digitCount : ℤ) ≤ context.precision → d.rescale s context = .ok r := by
  refine ⟨fun h => ?_, fun h => ?_, fun h => ?_⟩
  · have hprice := h (make 125 false 2) 1 ⟨1000000000000000000, .halfUp⟩ (by decide) (by decide)
      (by decide +kernel) (make 13 false 1) (isRounded_iff.mpr (by decide +kernel))
      (by decide +kernel)
    have hreaches := ((rescale_eq_ok_iff_roundTo (by decide) (by decide)).mp hprice).1
    exact absurd hreaches (by decide)
  · have hsmall := h (make 1 false 2000000000000000000) 0 ⟨31, .halfUp⟩ (by decide) (by decide)
      (by decide) (make 0 false 0) (isRounded_iff.mpr (by decide +kernel)) (by decide +kernel)
    have hrange := ((rescale_eq_ok_iff_roundTo (by decide) (by decide)).mp hsmall).2.1
    exact absurd (hrange (by decide +kernel)).1 (by decide +kernel)
  · -- the power is never written down
    obtain ⟨k, hk⟩ : ∃ k : ℕ, k = 1000000 := ⟨_, rfl⟩
    have hlong := digitCount_pow k false 0
    have hconvertible : (make (Nat.pow 10 (k + 1)) false 1).Convertible := by
      rw [Convertible, digitCount_pow, scale_make, finestOperand, maxPrecision]
      omega
    have hlarge := h _ 0 ⟨2000000, .halfUp⟩ (by decide) (by decide) hconvertible (by decide) _
      (isRounded_pow k .halfUp) (by rw [hlong]; simp only; omega)
    obtain ⟨-, hrange, -, hrounded⟩ := (rescale_eq_ok_iff_roundTo (by decide) (by decide)).mp hlarge
    rw [← hrounded] at hrange
    have hexponent := (hrange Nat.one_pos).2
    rw [hlong, scale_make, greatestExponent] at hexponent
    omega

end FixedWidth.Decimal
