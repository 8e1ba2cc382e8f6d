import FixedWidth.Number.Literal
import FixedWidth.Proofs.Fault

/-!
# Changing the scale, on the way into a field

A number is brought to the scale of its field before it is stored. One that has
it already is not changed, and the only thing asked of it is that it keeps to the
digits that the context allows (`FixedWidth.Decimal.rescale_self_eq_ok_iff`). Any
other comes out with the scale that was asked for, as far as there is a place to be
rounded to (`FixedWidth.Decimal.scale_of_rescale`).

Up to 999999 places there always is. What stands in the way of rounding is then told
apart into what a caller can be asked for, a precision that exists and a scale that can
be handed over (`FixedWidth.Decimal.Reaches`), and what is refused for too many digits:
those beyond the precision, and where places are lost also a number or a result that the
arithmetic does not hold (`FixedWidth.Decimal.InRange`). `FixedWidth.Decimal.rescale_eq`
puts the two together. On display a number is rounded in a context that has room for
whatever comes out, so that only the limits of the arithmetic are left
(`FixedWidth.Decimal.rescale_ample`).
-/

namespace FixedWidth

/-! ### The limits of the arithmetic -/

/-- There is an arithmetic of the context's precision. -/
def Context.Exists (context : Context) : Prop :=
  1 ≤ context.precision ∧ context.precision ≤ maxPrecision

instance (context : Context) : Decidable context.Exists :=
  inferInstanceAs (Decidable (_ ∧ _))

theorem Context.check_eq_ok_iff {context : Context} {u : Unit} :
    context.check = .ok u ↔ context.Exists := by
  have hnative : maxPrecision < greatestNative := by decide
  rw [Context.check, Context.Exists]
  split
  next h =>
    rw [Bool.or_eq_true, decide_eq_true_eq, decide_eq_true_eq] at h
    exact iff_of_false (fun h => nomatch h) (by omega)
  split
  next h =>
    rw [Bool.or_eq_true, decide_eq_true_eq, decide_eq_true_eq] at h
    exact iff_of_false (fun h => nomatch h) (by omega)
  next h =>
    rw [Bool.or_eq_true, decide_eq_true_eq, decide_eq_true_eq] at h
    exact iff_of_true rfl (by omega)

theorem Context.check_fault {context : Context} {fault : Fault}
    (h : context.check = .error fault) : fault = .precisionRange ∨ fault = .nativeInteger := by
  rw [Context.check] at h
  split at h
  · exact .inr (Except.error.inj h).symm
  split at h
  · exact .inl (Except.error.inj h).symm
  · cases h

theorem Context.allow_eq_ok_iff {context : Context} {d r : Decimal} :
    context.allow d = .ok r ↔ (d.digitCount : Int) ≤ context.precision ∧ r = d := by
  rw [Context.allow]
  split
  · exact iff_of_false (fun h => nomatch h) fun h => by omega
  · exact ⟨fun h => ⟨by omega, (Except.ok.inj h).symm⟩, fun h => by rw [h.2]⟩

namespace Decimal

variable {d r : Decimal} {scale places : Nat} {mode : Rounding} {context : Context} {fault : Fault}

/-- A number that the arithmetic holds. -/
def Convertible (d : Decimal) : Prop :=
  d.scale ≤ finestOperand ∧ (d.digitCount : Int) ≤ maxPrecision

instance (d : Decimal) : Decidable d.Convertible :=
  inferInstanceAs (Decidable (_ ∧ _))

theorem toScientific_eq_ok_iff {x : Scientific} :
    d.toScientific = .ok x ↔ d.Convertible ∧ x = .ofDecimal d := by
  have hnative : finestOperand < greatestNative := by decide
  rw [toScientific, Convertible]
  split
  · exact iff_of_false (fun h => nomatch h) (by omega)
  split
  · exact iff_of_false (fun h => nomatch h) (by omega)
  split
  · exact iff_of_false (fun h => nomatch h) (by omega)
  · rw [and_iff_right (by omega), Except.ok.injEq, eq_comm]

theorem toScientific_fault (h : d.toScientific = .error fault) :
    fault.isInvalidOperation = true ∨ fault = .nativeInteger ∧ greatestNative < d.scale := by
  rw [toScientific] at h
  split at h
  next hnative => exact .inr ⟨(Except.error.inj h).symm, hnative⟩
  split at h
  · exact .inl (Except.error.inj h ▸ rfl)
  split at h
  · exact .inl (Except.error.inj h ▸ rfl)
  · cases h

/-! ### Places that are lost -/

theorem isWithin_iff : d.isWithin context = true ↔
    (d.digitCount : Int) ≤ context.precision ∧ d.digitCount ≤ greatestExponent + 1 + d.scale := by
  rw [isWithin, Bool.and_eq_true, decide_eq_true_eq, decide_eq_true_eq]

theorem roundWithin_eq_ok_iff : d.roundWithin places context = .ok r ↔
    (places : Int) ≤ greatestExponent + context.precision - 1 ∧
      (d.roundTo places context.rounding).isWithin context = true ∧
      r = d.roundTo places context.rounding := by
  simp only [roundWithin]
  split
  next h =>
    rw [Bool.or_eq_true, decide_eq_true_eq, Bool.not_eq_true'] at h
    refine iff_of_false (fun h => nomatch h) fun ⟨hplace, hwithin, _⟩ => ?_
    obtain h | h := h
    · omega
    · rw [hwithin] at h
      cases h
  next h =>
    rw [Bool.or_eq_true, decide_eq_true_eq, not_or, Int.not_lt, Bool.not_eq_true',
      Bool.not_eq_false] at h
    rw [and_iff_right h.1, and_iff_right h.2, Except.ok.injEq, eq_comm]

/-- **When the arithmetic rounds a number**, and to what. -/
theorem quantize_eq_ok_iff : d.quantize scale context = .ok r ↔
    d.Convertible ∧ scale ≤ lastScale ∧ context.Exists ∧
      d.roundWithin (min scale finestScale) context = .ok r := by
  rw [quantize, bind_eq_ok_iff]
  constructor
  · rintro ⟨x, hx, h⟩
    obtain ⟨place, hplace, h⟩ := bind_eq_ok_iff.mp h
    obtain ⟨_, hcheck, h⟩ := bind_eq_ok_iff.mp h
    rw [placeOfScale] at hplace
    split at hplace
    · cases hplace
    next hlast =>
      obtain rfl := Except.ok.inj hplace
      exact ⟨(toScientific_eq_ok_iff.mp hx).1, Nat.not_lt.mp hlast,
        Context.check_eq_ok_iff.mp hcheck, h⟩
  · rintro ⟨hconvertible, hlast, hexists, h⟩
    refine ⟨_, toScientific_eq_ok_iff.mpr ⟨hconvertible, rfl⟩, ?_⟩
    rw [placeOfScale, if_neg (Nat.not_lt.mpr hlast), ok_bind]
    exact bind_eq_ok_iff.mpr ⟨(), Context.check_eq_ok_iff.mpr hexists, h⟩

/-- There are two faults that are not told of as too many digits, and each has its cause. -/
theorem quantize_fault (h : d.quantize scale context = .error fault) :
    fault.isInvalidOperation = true ∨ (fault = .precisionRange ∨ fault = .nativeInteger) ∧
      (greatestNative < d.scale ∨ ¬context.Exists) := by
  obtain hx | ⟨x, -, h⟩ := bind_eq_error_iff.mp h
  · exact (toScientific_fault hx).imp_right fun hnative => ⟨.inr hnative.1, .inl hnative.2⟩
  obtain hplace | ⟨place, -, h⟩ := bind_eq_error_iff.mp h
  · rw [placeOfScale] at hplace
    split at hplace
    · exact .inl (Except.error.inj hplace ▸ rfl)
    · cases hplace
  obtain hcheck | ⟨_, -, h⟩ := bind_eq_error_iff.mp h
  · refine .inr ⟨Context.check_fault hcheck, .inr fun hexists => ?_⟩
    rw [Context.check_eq_ok_iff (u := ()) |>.mpr hexists] at hcheck
    cases hcheck
  · simp only [roundWithin] at h
    split at h
    · exact .inl (Except.error.inj h ▸ rfl)
    · cases h

theorem shrink_eq_ok_iff :
    d.shrink scale context = .ok r ↔ d.quantize scale context = .ok r := by
  rw [shrink]
  cases d.quantize scale context with
  | ok result => rfl
  | error fault => exact iff_of_false (fun h => nomatch h) fun h => nomatch h

theorem shrink_fault (h : d.shrink scale context = .error fault) :
    fault = .overflow d.digitCount context.precision ∨
      (fault = .precisionRange ∨ fault = .nativeInteger) ∧
        (greatestNative < d.scale ∨ ¬context.Exists) := by
  rw [shrink] at h
  cases hquantize : d.quantize scale context with
  | ok result =>
    rw [hquantize] at h
    cases h
  | error cause =>
    have hfault : fault = if cause.isInvalidOperation = true then
        .overflow d.digitCount context.precision else cause := by
      rw [hquantize] at h
      exact (Except.error.inj h).symm
    obtain hinvalid | ⟨hcause, hreason⟩ := quantize_fault hquantize
    · rw [if_pos hinvalid] at hfault
      exact .inl hfault
    · have hvalid : ¬cause.isInvalidOperation = true := by
        obtain rfl | rfl := hcause <;> decide
      rw [if_neg hvalid] at hfault
      exact .inr ⟨hfault ▸ hcause, hreason⟩

/-! ### Another scale -/

theorem rescale_of_gain (h : d.scale ≤ scale) :
    d.rescale scale context = context.allow (d.roundTo scale context.rounding) := by
  rw [rescale, if_neg (by omega), if_pos (by omega), Int.toNat_natCast, ok_bind]

theorem rescale_of_loss (h : scale < d.scale) :
    d.rescale scale context = d.shrink scale context >>= context.allow := by
  rw [rescale, if_neg (by omega), if_neg (by omega), Int.toNat_natCast]

/-- **A number that has the scale already is left as it is**, where it has no more
digits than allowed. -/
theorem rescale_self_eq_ok_iff :
    d.rescale d.scale context = .ok r ↔ (d.digitCount : Int) ≤ context.precision ∧ r = d := by
  rw [rescale_of_gain (Nat.le_refl _), roundTo_self, Context.allow_eq_ok_iff]

/-- **A number comes out with the scale that was asked for**, up to the finest place that
can be named as it is. -/
theorem scale_of_rescale (hscale : scale ≤ finestScale) (h : d.rescale scale context = .ok r) :
    r.scale = scale := by
  by_cases hgains : d.scale ≤ scale
  · rw [rescale_of_gain hgains, Context.allow_eq_ok_iff] at h
    rw [h.2, scale_roundTo]
  · rw [rescale_of_loss (Nat.not_le.mp hgains)] at h
    obtain ⟨result, hshrink, hallowed⟩ := bind_eq_ok_iff.mp h
    obtain ⟨-, -, -, hround⟩ := quantize_eq_ok_iff.mp (shrink_eq_ok_iff.mp hshrink)
    rw [(Context.allow_eq_ok_iff.mp hallowed).2, (roundWithin_eq_ok_iff.mp hround).2.2,
      scale_roundTo, Nat.min_eq_left hscale]

theorem scale_of_coerce {v : Value} (hscale : scale ≤ finestScale)
    (h : coerce v (some scale) context = .ok d) : d.scale = scale := by
  obtain ⟨_, -, hd⟩ := bind_eq_ok_iff.mp h
  exact scale_of_rescale hscale hd

/-! ### Under a precision -/

/-- A number can be brought to so many places in a context: there is a digit to be kept,
and where places are lost there are such a number and such a precision. -/
def Reaches (d : Decimal) (places : Nat) (context : Context) : Prop :=
  1 ≤ context.precision ∧
    (places < d.scale → d.scale ≤ greatestNative ∧ context.precision ≤ maxPrecision)

instance (d : Decimal) (places : Nat) (context : Context) : Decidable (d.Reaches places context) :=
  inferInstanceAs (Decidable (_ ∧ (_ → _)))

/-- A number becomes another within the limits of the arithmetic, which are on the numbers
that lose places: the one that does and the one that it becomes. -/
def InRange (d r : Decimal) : Prop :=
  r.scale < d.scale → d.Convertible ∧ r.digitCount ≤ greatestExponent + 1 + r.scale

instance (d r : Decimal) : Decidable (d.InRange r) :=
  inferInstanceAs (Decidable (_ → _))

theorem inRange_roundTo_iff : d.InRange (d.roundTo places mode) ↔ (places < d.scale →
    d.Convertible ∧ (d.roundTo places mode).digitCount ≤ greatestExponent + 1 + places) := by
  rw [InRange, scale_roundTo]

/-- Nothing but its digits stands in the way of a number to so many places. -/
def CanReach (d : Decimal) (places : Nat) (context : Context) : Prop :=
  d.Reaches places context ∧ d.InRange (d.roundTo places context.rounding)

instance (d : Decimal) (places : Nat) (context : Context) : Decidable (d.CanReach places context) :=
  inferInstanceAs (Decidable (_ ∧ _))

/-- **When the scale is changed, and to what.** -/
theorem rescale_eq_ok_iff_roundTo (h : places ≤ 999999) (hone : 1 ≤ context.precision) :
    d.rescale places context = .ok r ↔
      d.Reaches places context ∧ d.InRange (d.roundTo places context.rounding) ∧
        ((d.roundTo places context.rounding).digitCount : Int) ≤ context.precision ∧
        r = d.roundTo places context.rounding := by
  rw [Reaches, inRange_roundTo_iff, and_iff_right hone]
  by_cases hloses : places < d.scale
  · have hlast : places ≤ lastScale := by
      rw [lastScale]
      omega
    have hplace : min places finestScale = places := by
      rw [finestScale]
      omega
    have hfine : (places : Int) ≤ greatestExponent + context.precision - 1 := by
      rw [greatestExponent]
      omega
    have hnative : finestOperand < greatestNative := by decide
    rw [rescale_of_loss hloses, bind_eq_ok_iff, imp_iff_right hloses, imp_iff_right hloses]
    constructor
    · rintro ⟨result, hshrink, hallowed⟩
      obtain ⟨hconvertible, -, hexists, hround⟩ :=
        quantize_eq_ok_iff.mp (shrink_eq_ok_iff.mp hshrink)
      rw [hplace, roundWithin_eq_ok_iff] at hround
      obtain ⟨-, hwithin, rfl⟩ := hround
      obtain ⟨hdigits, hexponent⟩ := isWithin_iff.mp hwithin
      rw [scale_roundTo] at hexponent
      have hscale := hconvertible.1
      exact ⟨⟨by omega, hexists.2⟩, ⟨hconvertible, hexponent⟩, hdigits,
        (Context.allow_eq_ok_iff.mp hallowed).2⟩
    · rintro ⟨hreaches, ⟨hconvertible, hexponent⟩, hdigits, rfl⟩
      refine ⟨_, shrink_eq_ok_iff.mpr (quantize_eq_ok_iff.mpr
        ⟨hconvertible, hlast, ⟨hone, hreaches.2⟩, ?_⟩), Context.allow_eq_ok_iff.mpr ⟨hdigits, rfl⟩⟩
      rw [hplace]
      refine roundWithin_eq_ok_iff.mpr ⟨hfine, isWithin_iff.mpr ⟨hdigits, ?_⟩, rfl⟩
      rwa [scale_roundTo]
  · rw [rescale_of_gain (Nat.not_lt.mp hloses), Context.allow_eq_ok_iff]
    exact ⟨fun h => ⟨fun hlt => absurd hlt hloses, fun hlt => absurd hlt hloses, h⟩,
      fun h => h.2.2⟩

/-- **A number is rounded to as many places as is asked for**, unless it then has more
digits than the precision or lies beyond the limits of the arithmetic. A number that gains
places is refused by the digits it would have, one that loses places by those it had. -/
theorem rescale_eq (h : places ≤ 999999) (hreaches : d.Reaches places context) :
    d.rescale places context =
      if ((d.roundTo places context.rounding).digitCount : Int) ≤ context.precision ∧
          d.InRange (d.roundTo places context.rounding) then
        .ok (d.roundTo places context.rounding)
      else .error (.overflow
        (if places < d.scale then d.digitCount else (d.roundTo places context.rounding).digitCount)
        context.precision) := by
  obtain ⟨hone, hlimits⟩ := hreaches
  have hok (r : Decimal) := @rescale_eq_ok_iff_roundTo d r places context h hone
  by_cases hfits : ((d.roundTo places context.rounding).digitCount : Int) ≤ context.precision ∧
      d.InRange (d.roundTo places context.rounding)
  · rw [if_pos hfits]
    exact (hok _).mpr ⟨⟨hone, hlimits⟩, hfits.2, hfits.1, rfl⟩
  rw [if_neg hfits]
  have hrefused (r : Decimal) : d.rescale places context ≠ .ok r := fun hr =>
    have ⟨_, hrange, hdigits, _⟩ := (hok r).mp hr
    hfits ⟨hdigits, hrange⟩
  by_cases hloses : places < d.scale
  · rw [if_pos hloses]
    rw [rescale_of_loss hloses] at hrefused ⊢
    obtain ⟨hscale, hmost⟩ := hlimits hloses
    cases hshrink : d.shrink places context with
    | error fault =>
      obtain rfl | ⟨-, hnative | hexists⟩ := shrink_fault hshrink
      · rfl
      · omega
      · exact absurd ⟨hone, hmost⟩ hexists
    | ok result =>
      -- what the arithmetic gave keeps to the precision
      rw [hshrink, ok_bind] at hrefused
      obtain ⟨-, -, -, hround⟩ := quantize_eq_ok_iff.mp (shrink_eq_ok_iff.mp hshrink)
      obtain ⟨-, hwithin, rfl⟩ := roundWithin_eq_ok_iff.mp hround
      exact absurd (Context.allow_eq_ok_iff.mpr ⟨(isWithin_iff.mp hwithin).1, rfl⟩) (hrefused _)
  · rw [if_neg hloses]
    rw [rescale_of_gain (Nat.not_lt.mp hloses)] at hrefused ⊢
    have hlong := fun hdigits => hrefused _ (Context.allow_eq_ok_iff.mpr ⟨hdigits, rfl⟩)
    rw [Context.allow, if_pos (Int.not_le.mp hlong)]

/-- **What stands in the way** of a number that is not brought to so many places: its digits,
or that there is no such precision or no such number. -/
theorem rescale_fault_of_loss (hloses : places < d.scale)
    (h : d.rescale places context = .error fault) :
    fault = .overflow d.digitCount context.precision ∨ fault = .precisionRange ∨
      fault = .nativeInteger := by
  rw [rescale_of_loss hloses] at h
  obtain hshrink | ⟨result, hshrink, hallowed⟩ := bind_eq_error_iff.mp h
  · exact (shrink_fault hshrink).imp_right And.left
  · obtain ⟨-, -, -, hround⟩ := quantize_eq_ok_iff.mp (shrink_eq_ok_iff.mp hshrink)
    obtain ⟨-, hwithin, rfl⟩ := roundWithin_eq_ok_iff.mp hround
    rw [Context.allow_eq_ok_iff.mpr ⟨(isWithin_iff.mp hwithin).1, rfl⟩] at hallowed
    cases hallowed

/-- Places are not lost in a context whose precision is more than there is. -/
theorem rescale_eq_precisionRange (h : places ≤ 999999) (hloses : places < d.scale)
    (hconvertible : d.Convertible) (hmost : maxPrecision < context.precision)
    (hnative : context.precision < greatestNative) :
    d.rescale places context = .error .precisionRange := by
  have hlast : ¬lastScale < places := by
    rw [lastScale]
    omega
  have hcheck : context.check = .error .precisionRange := by
    have hnonneg : 0 ≤ maxPrecision := by decide
    rw [Context.check, if_neg, if_pos]
    · rw [Bool.or_eq_true, decide_eq_true_eq, decide_eq_true_eq]
      exact .inr hmost
    · rw [Bool.or_eq_true, decide_eq_true_eq, decide_eq_true_eq]
      omega
  rw [rescale_of_loss hloses, shrink, quantize, toScientific_eq_ok_iff.mpr ⟨hconvertible, rfl⟩,
    ok_bind, placeOfScale, if_neg hlast, ok_bind, hcheck]
  rfl

/-! ### A context with room enough -/

/-- More places take as many digits more. -/
theorem digitCount_grown_le (d : Decimal) (places : Nat) (negative : Bool) (scale : Nat) :
    (make (d.unscaled * Nat.pow 10 places) negative scale).digitCount ≤ d.digitCount + places := by
  have hpos := d.digitCount_pos
  have hlt := (d.digitCount_le_iff hpos).mp (Nat.le_refl _)
  have hplaces : 0 < Nat.pow 10 places := Nat.pow_pos (by decide)
  have hpow : Nat.pow 10 (d.digitCount + places) = Nat.pow 10 d.digitCount * Nat.pow 10 places :=
    Nat.pow_add ..
  rw [digitCount_le_iff _ (by omega), unscaled_make, hpow]
  exact Nat.mul_lt_mul_of_pos_right hlt hplaces

/-- Losing places takes one digit more at most, where the first digits are rounded up. -/
theorem digitCount_quotient_le (d : Decimal) (mode : Rounding) (divisor : Nat) (negative : Bool)
    (scale : Nat) :
    (make (mode.quotient d.unscaled divisor) negative scale).digitCount ≤ d.digitCount + 1 := by
  have hpos := d.digitCount_pos
  have hlt := (d.digitCount_le_iff hpos).mp (Nat.le_refl _)
  have hquotient := mode.quotient_le d.unscaled divisor
  have hdiv := Nat.div_le_self d.unscaled divisor
  have hpow : Nat.pow 10 (d.digitCount + 1) = Nat.pow 10 d.digitCount * 10 := rfl
  rw [digitCount_le_iff _ (by omega), unscaled_make, hpow]
  omega

theorem digitCount_roundTo_le (d : Decimal) (scale : Nat) (mode : Rounding) :
    (d.roundTo scale mode).digitCount ≤ d.digitCount + scale + 1 := by
  by_cases hgains : d.scale ≤ scale
  · have := d.digitCount_grown_le (scale - d.scale) d.negative scale
    rw [roundTo_of_gain hgains]
    omega
  · have := d.digitCount_quotient_le mode (Nat.pow 10 (d.scale - scale)) d.negative scale
    rw [roundTo_of_loss (Nat.not_le.mp hgains)]
    omega

/-- A number that loses places, or none, keeps to the digits that it kept to: what is
rounded up to one digit more has lost one before. -/
theorem digitCount_roundTo_le_of_le {k : Nat} (mode : Rounding)
    (h : scale ≤ d.scale) (hdigits : d.digitCount ≤ k) :
    (d.roundTo scale mode).digitCount ≤ k := by
  obtain rfl | hloses := Nat.eq_or_lt_of_le h
  · rwa [roundTo_self]
  have hpos : 0 < k := Nat.lt_of_lt_of_le d.digitCount_pos hdigits
  obtain ⟨j, hj⟩ : ∃ j, d.scale - scale = j + 1 := ⟨d.scale - scale - 1, by omega⟩
  obtain ⟨k, rfl⟩ : ∃ l, k = l + 1 := ⟨k - 1, by omega⟩
  have hlt : d.unscaled < Nat.pow 10 k * 10 := (d.digitCount_le_iff hpos).mp hdigits
  have hdivisor : 10 ≤ Nat.pow 10 (j + 1) := Nat.le_mul_of_pos_left 10 (Nat.pow_pos (by decide))
  have hdiv : d.unscaled / Nat.pow 10 (j + 1) ≤ d.unscaled / 10 :=
    Nat.div_le_div_left hdivisor (by decide)
  have hquotient := mode.quotient_le d.unscaled (Nat.pow 10 (j + 1))
  have hpow : Nat.pow 10 (k + 1) = Nat.pow 10 k * 10 := rfl
  rw [roundTo_of_loss hloses, hj, digitCount_le_iff _ hpos, unscaled_make, hpow]
  omega

/-- A number can be brought to so many places where the precision is ample: where it has
more of them, there is such a precision, and the number and the result are such as the
arithmetic holds. -/
def Roundable (d : Decimal) (places : Nat) (mode : Rounding) : Prop :=
  places < d.scale → d.amplePrecision places ≤ maxPrecision ∧ d.scale ≤ finestOperand ∧
    (d.roundTo places mode).digitCount ≤ greatestExponent + 1 + places

instance (d : Decimal) (places : Nat) (mode : Rounding) : Decidable (d.Roundable places mode) :=
  inferInstanceAs (Decidable (_ → _))

/-- It takes very many digits or places for a number to be none of these. -/
theorem roundable_of_digitCount_le (hplaces : places ≤ 999999) (hscale : d.scale ≤ finestOperand)
    (hdigits : d.digitCount ≤ 1000000) (mode : Rounding) : d.Roundable places mode := by
  intro hloses
  have hrounded := digitCount_roundTo_le_of_le mode (Nat.le_of_lt hloses) hdigits
  rw [amplePrecision, maxPrecision, greatestExponent]
  omega

/-- An ample precision has room for what comes out. -/
theorem digitCount_roundTo_le_ample (d : Decimal) (places : Nat) (mode : Rounding) :
    ((d.roundTo places mode).digitCount : Int) ≤ d.amplePrecision places := by
  have hdigits := d.digitCount_roundTo_le places mode
  rw [amplePrecision]
  omega

/-- **Where the precision is ample, a number is rounded to as many places as is asked
for**, up to 999999 of them, exactly where the limits of the arithmetic let it. -/
theorem rescale_ample_eq_ok_iff (h : places ≤ 999999) :
    d.rescale places ⟨d.amplePrecision places, mode⟩ = .ok r ↔
      d.Roundable places mode ∧ r = d.roundTo places mode := by
  have hone : 1 ≤ d.amplePrecision places := by
    rw [amplePrecision]
    omega
  have hroom := d.digitCount_roundTo_le_ample places mode
  rw [rescale_eq_ok_iff_roundTo h hone, and_iff_right hroom, ← and_assoc, inRange_roundTo_iff]
  refine and_congr_left' ?_
  constructor
  · rintro ⟨hreaches, hrange⟩ hloses
    exact ⟨(hreaches.2 hloses).2, (hrange hloses).1.1, (hrange hloses).2⟩
  · intro hroundable
    have hnative : finestOperand < greatestNative := by decide
    refine ⟨⟨hone, fun hloses => ?_⟩, fun hloses => ?_⟩
    · have := hroundable hloses
      exact ⟨by omega, this.1⟩
    · have hample := hroundable hloses
      rw [amplePrecision] at hample
      exact ⟨⟨hample.2.1, by omega⟩, hample.2.2⟩

theorem rescale_ample (h : places ≤ 999999) (hroundable : d.Roundable places mode) :
    d.rescale places ⟨d.amplePrecision places, mode⟩ = .ok (d.roundTo places mode) :=
  (rescale_ample_eq_ok_iff h).mpr ⟨hroundable, rfl⟩

/-- A number of too many places is told of as one of too many digits. -/
theorem rescale_ample_of_finest (h : places ≤ 999999) (hfine : finestOperand < d.scale)
    (hnative : d.scale ≤ greatestNative) (hample : d.amplePrecision places ≤ maxPrecision) :
    d.rescale places ⟨d.amplePrecision places, mode⟩ =
      .error (.overflow d.digitCount (d.amplePrecision places)) := by
  have hlast : 999999 ≤ finestOperand := by decide
  have hloses : places < d.scale := by omega
  have hone : 1 ≤ d.amplePrecision places := by
    rw [amplePrecision]
    omega
  have hbeyond : ¬d.InRange (d.roundTo places mode) := fun hrange =>
    Nat.not_le.mpr hfine (inRange_roundTo_iff.mp hrange hloses).1.1
  have hreaches : d.Reaches places ⟨d.amplePrecision places, mode⟩ :=
    ⟨hone, fun _ => ⟨hnative, hample⟩⟩
  rw [rescale_eq h hreaches, if_neg (mt And.right hbeyond), if_pos hloses]

/-- The faults of a number that the arithmetic does not round in an ample precision. -/
def limitFaults (d : Decimal) (places : Nat) : List Fault :=
  [.overflow d.digitCount (d.amplePrecision places), .precisionRange, .nativeInteger]

/-- A number that is not rounded lies beyond a limit of the arithmetic. -/
theorem exists_limitFault (h : places ≤ 999999) (hroundable : ¬d.Roundable places mode) :
    ∃ fault ∈ d.limitFaults places,
      d.rescale places ⟨d.amplePrecision places, mode⟩ = .error fault := by
  have hloses : places < d.scale := Nat.not_le.mp fun hgains =>
    hroundable fun hlt => absurd hgains (Nat.not_le.mpr hlt)
  cases hrescale : d.rescale places ⟨d.amplePrecision places, mode⟩ with
  | ok r => exact absurd ((rescale_ample_eq_ok_iff h).mp hrescale).1 hroundable
  | error fault =>
    refine ⟨fault, ?_, rfl⟩
    simpa [limitFaults] using rescale_fault_of_loss hloses hrescale

end Decimal

end FixedWidth
