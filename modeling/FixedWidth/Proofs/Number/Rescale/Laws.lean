import FixedWidth.Proofs.Number.Order
import FixedWidth.Proofs.Number.Rescale.Exact

/-!
# The laws of changing the scale

What a number is rounded to depends on its value only, and so do the laws that hold of
two numbers brought to the same places, one of which may gain places and the other lose
them: greater numbers do not come out smaller, numbers of one value come out the same, and
the sign can be changed before or after. The laws of two changes in a row hold because the
first one loses nothing, or loses nothing that the second would have kept.

That the second change is not refused takes an argument of its own, since rounding up can
make a number longer: it has lost a digit before
(`FixedWidth.Decimal.digitCount_roundTo_le_of_le`).

`FixedWidth.Decimal.RescaleLaws` lists the laws as they hold under one context. Where a law
needs a change to be possible at all, it asks that the change is within the limits of the
arithmetic (`FixedWidth.Decimal.CanReach`); `FixedWidth.Decimal.not_rescale_laws` says that
this has to be asked.
-/

namespace FixedWidth.Decimal

variable {a b d g q r : Decimal} {s t : ℕ} {mode : Rounding} {context : Context}

/-! ### Rounded numbers and their values -/

theorem toRat_eq_zero_iff (d : Decimal) : d.toRat = 0 ↔ d.unscaled = 0 := by
  rw [← abs_eq_zero, abs_toRat, div_eq_zero_iff, or_iff_left (ten_pow_ne_zero _),
    Nat.cast_eq_zero]

/-- Zero is rounded to zero. -/
theorem IsRounded.toRat_ne_zero (h : d.IsRounded s mode r) (hr : r.unscaled ≠ 0) :
    d.toRat ≠ 0 := by
  intro hzero
  have hrounds := h.rounds
  rw [hzero, abs_zero, zero_mul, ← Nat.cast_zero] at hrounds
  exact hr (hrounds.unique (mode.rounds_natCast 0))

theorem IsRounded.nonneg (h : d.IsRounded s mode r) (hd : 0 ≤ d.toRat) : 0 ≤ r.toRat := by
  rw [← not_lt, ← negative_iff_toRat_lt, h.negative_iff, negative_iff_toRat_lt]
  exact fun hr => hr.1.not_ge hd

theorem IsRounded.nonpos (h : d.IsRounded s mode r) (hd : d.toRat < 0) : r.toRat ≤ 0 := by
  by_cases hzero : r.unscaled = 0
  · exact ((toRat_eq_zero_iff r).mpr hzero).le
  · have hnegative := h.negative_iff.mpr ⟨(negative_iff_toRat_lt d).mpr hd, hzero⟩
    exact ((negative_iff_toRat_lt r).mp hnegative).le

/-- **What a number is rounded to depends on its value only.** -/
theorem IsRounded.of_toRat_eq (ha : a.IsRounded s mode r) (h : a.toRat = b.toRat) :
    b.IsRounded s mode r := by
  refine ⟨?_, ha.scale_eq, ?_⟩
  · rw [← h]
    exact ha.rounds
  · rw [ha.negative_iff, negative_iff_toRat_lt, negative_iff_toRat_lt, h]

theorem IsRounded.unscaled_mono (ha : a.IsRounded s mode q) (hb : b.IsRounded s mode r)
    (h : |a.toRat| ≤ |b.toRat|) : q.unscaled ≤ r.unscaled :=
  ha.rounds.mono hb.rounds (mul_le_mul_of_nonneg_right h (by positivity))

theorem IsRounded.abs_mono (ha : a.IsRounded s mode q) (hb : b.IsRounded s mode r)
    (h : |a.toRat| ≤ |b.toRat|) : |q.toRat| ≤ |r.toRat| := by
  have hle : (q.unscaled : ℚ) ≤ r.unscaled := by exact_mod_cast ha.unscaled_mono hb h
  rw [abs_toRat, abs_toRat, ha.scale_eq, hb.scale_eq]
  exact div_le_div_of_nonneg_right hle (by positivity)

/-- **Greater numbers are not rounded to smaller ones.** -/
theorem IsRounded.mono (ha : a.IsRounded s mode q) (hb : b.IsRounded s mode r)
    (h : a.toRat ≤ b.toRat) : q.toRat ≤ r.toRat := by
  rcases lt_or_ge a.toRat 0 with hanegative | hapositive
  · rcases lt_or_ge b.toRat 0 with hbnegative | hbpositive
    · have habs := hb.abs_mono ha (abs_le_abs_of_nonpos hbnegative.le h)
      rw [abs_of_nonpos (ha.nonpos hanegative), abs_of_nonpos (hb.nonpos hbnegative)] at habs
      exact neg_le_neg_iff.mp habs
    · exact (ha.nonpos hanegative).trans (hb.nonneg hbpositive)
  · have hbpositive := hapositive.trans h
    have habs := ha.abs_mono hb (abs_le_abs_of_nonneg hapositive h)
    rwa [abs_of_nonneg (ha.nonneg hapositive), abs_of_nonneg (hb.nonneg hbpositive)] at habs

/-- The sign can be changed before rounding or after it. -/
theorem IsRounded.neg (h : d.IsRounded s mode r) : (-d).IsRounded s mode (-r) := by
  refine ⟨?_, h.scale_eq, ?_⟩
  · rw [toRat_neg, abs_neg]
    exact h.rounds
  · have hunscaled : (-r).unscaled = r.unscaled := rfl
    rw [negative_iff_toRat_lt, negative_iff_toRat_lt, toRat_neg, toRat_neg, neg_lt_zero,
      neg_lt_zero, hunscaled]
    constructor
    · intro hr
      have hnonzero : r.unscaled ≠ 0 := fun hzero => hr.ne' ((toRat_eq_zero_iff r).mpr hzero)
      refine ⟨lt_of_le_of_ne (not_lt.mp fun hd => ?_) (h.toRat_ne_zero hnonzero).symm, hnonzero⟩
      exact (h.nonpos hd).not_gt hr
    · rintro ⟨hd, hnonzero⟩
      exact lt_of_le_of_ne (h.nonneg hd.le) fun hzero =>
        hnonzero ((toRat_eq_zero_iff r).mp hzero.symm)

/-- **Where places are gained the value is kept.** -/
theorem IsRounded.toRat_eq (h : a.IsRounded t mode g) (hgains : a.scale ≤ t) :
    g.toRat = a.toRat := by
  have habs : |g.toRat| = |a.toRat| := by
    have hrounds := h.rounds
    rw [abs_toRat_mul_of_le hgains] at hrounds
    rw [abs_toRat g, hrounds.unique (mode.rounds_natCast _), h.scale_eq,
      ← abs_toRat_mul_of_le hgains, mul_div_cancel_right₀ _ (ten_pow_ne_zero t)]
  rcases lt_or_ge a.toRat 0 with hnegative | hpositive
  · rwa [abs_of_nonpos (h.nonpos hnegative), abs_of_neg hnegative, neg_inj] at habs
  · rwa [abs_of_nonneg (h.nonneg hpositive), abs_of_nonneg hpositive] at habs

/-- **Toward zero, what a first rounding loses the second would have lost too.** -/
theorem IsRounded.down_trans (ha : a.IsRounded t .down g) (hst : s ≤ t)
    (hg : g.IsRounded s .down r) : a.IsRounded s .down r := by
  refine ⟨?_, hg.scale_eq, ?_⟩
  · have hunit : 0 < Nat.pow 10 (t - s) := Nat.pow_pos (by decide)
    have hunit' : ((Nat.pow 10 (t - s) : ℕ) : ℚ) ≠ 0 := by exact_mod_cast hunit.ne'
    have hpow : (10 : ℚ) ^ t = 10 ^ s * (Nat.pow 10 (t - s) : ℕ) := by
      rw [Nat.pow_eq, Nat.cast_pow, Nat.cast_ofNat, ← pow_add, Nat.add_sub_cancel' hst]
    have hrounds := hg.rounds
    rw [abs_toRat_mul_of_ge (ha.scale_eq ▸ hst), ha.scale_eq, ← ha.rounds.down_div_iff hunit,
      hpow, ← mul_assoc, mul_div_cancel_right₀ _ hunit'] at hrounds
    exact hrounds
  · rw [hg.negative_iff, ha.negative_iff]
    constructor
    · exact fun ⟨⟨hnegative, _⟩, hr⟩ => ⟨hnegative, hr⟩
    · rintro ⟨hnegative, hr⟩
      exact ⟨⟨hnegative, mt (toRat_eq_zero_iff g).mpr (hg.toRat_ne_zero hr)⟩, hr⟩

/-! ### Changes that are not refused -/

theorem digitCount_mono (h : a.unscaled ≤ b.unscaled) : a.digitCount ≤ b.digitCount := by
  have hb := (b.digitCount_le_iff b.digitCount_pos).mp le_rfl
  exact (a.digitCount_le_iff b.digitCount_pos).mpr (h.trans_lt hb)

/-- **When the scale is changed, and to what.** -/
theorem rescale_eq_ok_iff (hs : s ≤ 999999) (hone : 1 ≤ context.precision) :
    d.rescale s context = .ok r ↔
      d.Reaches s context ∧ d.InRange r ∧ r.digitCount ≤ context.precision ∧
        d.IsRounded s context.rounding r := by
  rw [rescale_eq_ok_iff_roundTo hs hone, isRounded_iff]
  constructor
  · rintro ⟨hreaches, hrange, hfits, rfl⟩
    exact ⟨hreaches, hrange, hfits, rfl⟩
  · rintro ⟨hreaches, hrange, hfits, rfl⟩
    exact ⟨hreaches, hrange, hfits, rfl⟩

/-- Within the limits of the arithmetic it is the digits that settle it. -/
theorem CanReach.rescale_eq_ok_iff (hcan : d.CanReach s context) (hs : s ≤ 999999) :
    d.rescale s context = .ok r ↔
      r.digitCount ≤ context.precision ∧ d.IsRounded s context.rounding r := by
  rw [Decimal.rescale_eq_ok_iff hs hcan.1.1, and_iff_right hcan.1, and_iff_right_iff_imp]
  rintro ⟨-, hrounded⟩
  rw [isRounded_iff.mp hrounded]
  exact hcan.2

/-- A number that keeps to the precision can lose places. -/
theorem exists_rescale_of_le (hs : s ≤ 999999) (hcan : d.CanReach s context)
    (hle : s ≤ d.scale) (hdigits : d.digitCount ≤ context.precision) :
    ∃ r, d.rescale s context = .ok r := by
  refine ⟨d.roundTo s context.rounding, ?_⟩
  obtain ⟨precision, hprecision⟩ : ∃ n : ℕ, context.precision = n :=
    ⟨context.precision.toNat, by omega⟩
  have hcount := digitCount_roundTo_le_of_le context.rounding hle
    (by omega : d.digitCount ≤ precision)
  rw [rescale_eq hs hcan.1, if_pos ⟨by omega, hcan.2⟩]

/-- A number that gained places has no fewer digits. -/
theorem digitCount_le_roundTo (hgains : d.scale ≤ t) (mode : Rounding) :
    d.digitCount ≤ (d.roundTo t mode).digitCount := by
  rw [roundTo_of_gain hgains]
  exact digitCount_mono (Nat.le_mul_of_pos_right _ (Nat.pow_pos (by decide)))

/-- A number that was changed before can be brought at once to the places that it was brought
to in two steps. -/
theorem reaches_inRange_of_again (ht : t ≤ 999999) (hst : s < t)
    (ha : a.rescale t context = .ok g) (hg : g.rescale s context = .ok r)
    (hone : 1 ≤ context.precision) : a.Reaches s context ∧ a.InRange r := by
  obtain ⟨hareaches, harange, -, hground⟩ := (rescale_eq_ok_iff ht hone).mp ha
  obtain ⟨hgreaches, hgrange, -, hrround⟩ := (rescale_eq_ok_iff (by omega) hone).mp hg
  have hnative : 999999 ≤ greatestNative := by decide
  have hfinest : 999999 ≤ finestOperand := by decide
  rw [Reaches, hground.scale_eq] at hgreaches
  rw [InRange, hground.scale_eq, hrround.scale_eq] at hgrange
  rw [InRange, hground.scale_eq] at harange
  obtain ⟨hgconvertible, hexponent⟩ := hgrange hst
  rw [Reaches, InRange, hrround.scale_eq, and_iff_right hone]
  -- the number lost places in the first step already, or gained some
  by_cases hlost : t < a.scale
  · exact ⟨fun _ => hareaches.2 hlost, fun _ => ⟨(harange hlost).1, hexponent⟩⟩
  · have hdigits := digitCount_le_roundTo (not_lt.mp hlost) context.rounding
    rw [← isRounded_iff.mp hground] at hdigits
    have hmost := hgconvertible.2
    refine ⟨fun _ => ⟨by omega, (hgreaches.2 hst).2⟩, fun _ => ⟨⟨by omega, by omega⟩, hexponent⟩⟩

/-- What a first change left can be changed again; where rounding it again is rounding at
once, so is changing it again. -/
theorem exists_rescale_again (ht : t ≤ 999999) (hst : s ≤ t)
    (ha : a.rescale t context = .ok g) (hcan : g.CanReach s context)
    (hagain : ∀ r, a.IsRounded t context.rounding g → g.IsRounded s context.rounding r →
      a.IsRounded s context.rounding r) :
    ∃ r, g.rescale s context = .ok r ∧ a.rescale s context = .ok r := by
  have hone := hcan.1.1
  have hs : s ≤ 999999 := hst.trans ht
  obtain ⟨-, -, hfits, hg⟩ := (rescale_eq_ok_iff ht hone).mp ha
  have hscale := hg.scale_eq
  obtain rfl | hlt := Nat.eq_or_lt_of_le hst
  · refine ⟨g, ?_, ha⟩
    rw [← hscale]
    exact rescale_self_eq_ok_iff.mpr ⟨hfits, rfl⟩
  · obtain ⟨r, hr⟩ := exists_rescale_of_le hs hcan (by omega) hfits
    obtain ⟨-, -, hrfits, hrounded⟩ := (rescale_eq_ok_iff hs hone).mp hr
    obtain ⟨hareaches, harange⟩ := reaches_inRange_of_again ht hlt ha hr hone
    exact ⟨r, hr, (rescale_eq_ok_iff hs hone).mpr ⟨hareaches, harange, hrfits, hagain r hg hrounded⟩⟩

/-! ### The laws -/

/-- **The laws of changing the scale** under a context. -/
structure RescaleLaws (context : Context) : Prop where
  /-- What is no greater in magnitude is not refused either. -/
  succeeds_below {a b r : Decimal} {s : ℕ} : s ≤ 999999 → a.CanReach s context →
    a.abs.atMost b.abs = true → b.rescale s context = .ok r → ∃ q, a.rescale s context = .ok q
  /-- What is no greater does not come out greater. -/
  monotone {a b q r : Decimal} {s : ℕ} : s ≤ 999999 → a.rescale s context = .ok q →
    b.rescale s context = .ok r → a.atMost b = true → q.atMost r = true
  /-- Numbers of one value come out the same. -/
  of_sameValue {a b : Decimal} {s : ℕ} : s ≤ 999999 → a.CanReach s context →
    b.CanReach s context → a.sameValue b = true →
      ∀ r, a.rescale s context = .ok r ↔ b.rescale s context = .ok r
  /-- The sign can be changed before or after. -/
  odd {a : Decimal} {s : ℕ} : s ≤ 999999 → a.Reaches s context →
    (∃ r, a.rescale s context = .ok r ∧ (-a).rescale s context = .ok (-r)) ∨
      ∃ digits, a.rescale s context = .error (.overflow digits context.precision) ∧
        (-a).rescale s context = .error (.overflow digits context.precision)
  /-- Places that were gained first change nothing. -/
  gain_first {a g : Decimal} {s t : ℕ} : t ≤ 999999 → s ≤ t → a.scale ≤ t →
    a.rescale t context = .ok g → g.CanReach s context →
      ∃ r, g.rescale s context = .ok r ∧ a.rescale s context = .ok r
  /-- Toward zero, places that were lost first change nothing. -/
  truncate_first {a g : Decimal} {s t : ℕ} : context.rounding = .down → t ≤ 999999 → s ≤ t →
    a.rescale t context = .ok g → g.CanReach s context →
      ∃ r, g.rescale s context = .ok r ∧ a.rescale s context = .ok r

theorem rescale_laws (hone : 1 ≤ context.precision) : RescaleLaws context where
  succeeds_below {a b r s} hs hcan hle hb := by
    obtain ⟨-, -, hfits, hrounded⟩ := (rescale_eq_ok_iff hs hone).mp hb
    have habs := (comparesByValue a.abs b.abs).atMost.mp hle
    rw [toRat_abs, toRat_abs] at habs
    have ha := a.isRounded_roundTo s context.rounding
    have hdigits := digitCount_mono (ha.unscaled_mono hrounded habs)
    exact ⟨_, (hcan.rescale_eq_ok_iff hs).mpr ⟨by omega, ha⟩⟩
  monotone {a b q r s} hs ha hb hle := by
    obtain ⟨-, -, -, hq⟩ := (rescale_eq_ok_iff hs hone).mp ha
    obtain ⟨-, -, -, hr⟩ := (rescale_eq_ok_iff hs hone).mp hb
    exact (comparesByValue q r).atMost.mpr (hq.mono hr ((comparesByValue a b).atMost.mp hle))
  of_sameValue {a b s} hs hacan hbcan hsame r := by
    have hvalue := (sameValue_iff a b).mp hsame
    rw [hacan.rescale_eq_ok_iff hs, hbcan.rescale_eq_ok_iff hs]
    refine and_congr_right fun _ => ?_
    exact ⟨fun h => h.of_toRat_eq hvalue, fun h => h.of_toRat_eq hvalue.symm⟩
  odd {a s} hs hreaches := by
    have hround : (-a).roundTo s context.rounding = -a.roundTo s context.rounding :=
      (isRounded_iff.mp (a.isRounded_roundTo s context.rounding).neg).symm
    have hreaches' : (-a).Reaches s context := hreaches
    have ha := rescale_eq hs hreaches
    have hneg := rescale_eq hs hreaches'
    rw [hround] at hneg
    by_cases hfits : (a.roundTo s context.rounding).digitCount ≤ context.precision ∧
        a.InRange (a.roundTo s context.rounding)
    · exact .inl ⟨_, ha.trans (if_pos hfits), hneg.trans (if_pos hfits)⟩
    · exact .inr ⟨_, ha.trans (if_neg hfits), hneg.trans (if_neg hfits)⟩
  gain_first {a g s t} ht hst hgains ha hcan :=
    exists_rescale_again ht hst ha hcan fun _ hg hr => hr.of_toRat_eq (hg.toRat_eq hgains)
  truncate_first {a g s t} hdown ht hst ha hcan := by
    refine exists_rescale_again ht hst ha hcan fun r hg hr => ?_
    rw [hdown] at hg hr ⊢
    exact hg.down_trans hst hr

/-- A half is rounded up from one place as from two, under a precision that its digits only
just keep to. -/
theorem halves_rescale_laws :
    RescaleLaws ⟨3, .halfUp⟩ ∧ (make 995 false 1).sameValue (make 9950 false 2) = true ∧
      (make 995 false 1).rescale (0 : ℕ) ⟨3, .halfUp⟩ = .ok (make 100 false 0) ∧
      (make 9950 false 2).rescale (0 : ℕ) ⟨3, .halfUp⟩ = .ok (make 100 false 0) := by
  have hlaws : RescaleLaws ⟨3, .halfUp⟩ := rescale_laws (by decide)
  have hsame : (make 995 false 1).sameValue (make 9950 false 2) = true := by decide
  have hhalf : (make 995 false 1).rescale (0 : ℕ) ⟨3, .halfUp⟩ = .ok (make 100 false 0) := by
    decide +kernel
  refine ⟨hlaws, hsame, hhalf, ?_⟩
  exact (hlaws.of_sameValue (by decide) (by decide) (by decide) hsame _).mp hhalf

/-- A tenth of a tenth, however often, is not above one. -/
theorem atMost_one (k : ℕ) : (make 1 false k).abs.atMost (make 1 false 0).abs = true := by
  have hpow : (1 : ℚ) ≤ 10 ^ k := one_le_pow₀ (by norm_num)
  rw [(comparesByValue _ _).atMost, toRat_abs, toRat_abs, abs_toRat, abs_toRat]
  simpa using inv_le_one_of_one_le₀ hpow

/-- **The limits have to be asked for**: a number of too many places is refused where a
greater one is not, and under a precision that is more than there is a number can gain a place
and not lose it. -/
theorem not_rescale_laws :
    (¬∀ (context : Context) (a b r : Decimal) (s : ℕ), context.Exists → s ≤ 999999 →
      a.abs.atMost b.abs = true → b.rescale s context = .ok r →
        ∃ q, a.rescale s context = .ok q) ∧
    ¬∀ (context : Context) (a g : Decimal) (s t : ℕ), 1 ≤ context.precision → t ≤ 999999 →
      s ≤ t → a.scale ≤ t → a.rescale t context = .ok g →
        g.rescale s context = a.rescale s context := by
  refine ⟨fun h => ?_, fun h => ?_⟩
  · have hone : (make 1 false 0).rescale (0 : ℕ) ⟨31, .halfUp⟩ = .ok (make 1 false 0) :=
      rescale_self_eq_ok_iff.mpr ⟨by decide +kernel, rfl⟩
    obtain ⟨q, hq⟩ := h _ _ _ _ 0 (by decide) (by decide) (atMost_one 2000000000000000000) hone
    obtain ⟨-, hrange, -, hrounded⟩ := (rescale_eq_ok_iff (by decide) (by decide)).mp hq
    have hloses : q.scale < (make 1 false 2000000000000000000).scale := by
      rw [hrounded.scale_eq]
      decide
    exact absurd (hrange hloses).1.1 (by decide)
  · have hgain : (make 13 false 1).rescale (2 : ℕ) ⟨1000000000000000000, .halfUp⟩ =
        .ok (make 130 false 2) := by decide +kernel
    have hkept : (make 13 false 1).rescale (1 : ℕ) ⟨1000000000000000000, .halfUp⟩ =
        .ok (make 13 false 1) := by decide +kernel
    have hback := h _ _ _ 1 2 (by decide) (by decide) (by decide) (by decide) hgain
    rw [hkept] at hback
    have hreaches := ((rescale_eq_ok_iff (by decide) (by decide)).mp hback).1
    exact absurd hreaches (by decide)

end FixedWidth.Decimal
