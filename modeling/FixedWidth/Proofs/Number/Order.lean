import FixedWidth.Number.Scientific
import FixedWidth.Proofs.Fault
import FixedWidth.Proofs.Number.Rescale
import FixedWidth.Proofs.Number.Value
import FixedWidth.Screen.Predicate
import Mathlib.Data.Nat.ModEq
import Mathlib.Tactic.NormNum

/-!
# The order of decimals

Two decimals are compared in units of the finer of their last places. This is the
order of the rational numbers that they are the writing of: each of the six
comparisons says of two decimals what it says of their values
(`FixedWidth.Decimal.comparesByValue`), so that the scales play no part in it, and
trichotomy and transitivity are those of the rational numbers.

A number is hashed as the decimal of any exponent that it is, so that it takes a hash
that depends on values only (`FixedWidth.Scientific.DependsOnValue`) to have numbers of
one value in one place. `FixedWidth.Scientific.residueHash` is such a hash: the residue of
the value modulo a prime, where dividing by ten is multiplying by the inverse of ten. Numbers
that the decimal arithmetic does not hold have no hash
(`FixedWidth.Decimal.not_always_convertible`); they are compared like any others.

`FixedWidth.Decimal.ordered_by_value` puts these together, with the test on two
literals that a screen can ask for.
-/

namespace FixedWidth

namespace Decimal

/-! ### Comparisons -/

theorem less_iff (a b : Decimal) : a.less b = true ↔ a.toRat < b.toRat := by
  have hunit : (0 : ℚ) < 10 ^ max a.scale b.scale := by positivity
  rw [less, decide_eq_true_eq, ← Int.cast_lt (R := ℚ), cast_align_fst, cast_align_snd,
    mul_lt_mul_iff_left₀ hunit]

theorem sameValue_iff (a b : Decimal) : a.sameValue b = true ↔ a.toRat = b.toRat := by
  have hunit := ten_pow_ne_zero (max a.scale b.scale)
  rw [sameValue, beq_iff_eq, ← Int.cast_inj (α := ℚ), cast_align_fst, cast_align_snd,
    mul_left_inj' hunit]

/-- **Each comparison of two decimals is that of their values.** -/
structure ComparesByValue (a b : Decimal) : Prop where
  sameValue : a.sameValue b = true ↔ a.toRat = b.toRat
  differs : a.differs b = true ↔ a.toRat ≠ b.toRat
  less : a.less b = true ↔ a.toRat < b.toRat
  atMost : a.atMost b = true ↔ a.toRat ≤ b.toRat
  above : a.above b = true ↔ a.toRat > b.toRat
  atLeast : a.atLeast b = true ↔ a.toRat ≥ b.toRat

theorem comparesByValue (a b : Decimal) : ComparesByValue a b where
  sameValue := sameValue_iff a b
  differs := by rw [differs, Bool.not_eq_true', ← Bool.not_eq_true, sameValue_iff]
  less := less_iff a b
  atMost := by rw [atMost, Bool.or_eq_true, less_iff, sameValue_iff, le_iff_lt_or_eq]
  above := by
    rw [above, Bool.and_eq_true, Bool.not_eq_true', ← Bool.not_eq_true, less_iff, differs,
      Bool.not_eq_true', ← Bool.not_eq_true, sameValue_iff, not_lt, gt_iff_lt, lt_iff_le_and_ne,
      ne_comm]
  atLeast := by rw [atLeast, Bool.not_eq_true', ← Bool.not_eq_true, less_iff, not_lt]

/-- The six comparisons. -/
def comparisons : List (Decimal → Decimal → Bool) :=
  [sameValue, differs, less, atMost, above, atLeast]

/-- **A comparison looks at nothing but the values.** -/
theorem comparison_congr {compare : Decimal → Decimal → Bool} (h : compare ∈ comparisons)
    {a a' b b' : Decimal} (ha : a.toRat = a'.toRat) (hb : b.toRat = b'.toRat) :
    compare a b = compare a' b' := by
  have hab := comparesByValue a b
  have hab' := comparesByValue a' b'
  simp only [comparisons, List.mem_cons, List.not_mem_nil, or_false] at h
  obtain rfl | rfl | rfl | rfl | rfl | rfl := h
  · rw [Bool.eq_iff_iff, hab.sameValue, hab'.sameValue, ha, hb]
  · rw [Bool.eq_iff_iff, hab.differs, hab'.differs, ha, hb]
  · rw [Bool.eq_iff_iff, hab.less, hab'.less, ha, hb]
  · rw [Bool.eq_iff_iff, hab.atMost, hab'.atMost, ha, hb]
  · rw [Bool.eq_iff_iff, hab.above, hab'.above, ha, hb]
  · rw [Bool.eq_iff_iff, hab.atLeast, hab'.atLeast, ha, hb]

/-- **Of below, equal and above exactly one holds.** -/
theorem count_trichotomy (a b : Decimal) :
    [a.less b, a.sameValue b, b.less a].count true = 1 := by
  have hab := less_iff a b
  have heq := sameValue_iff a b
  have hba := less_iff b a
  rcases lt_trichotomy a.toRat b.toRat with h | h | h
  · have h₁ : a.less b = true := hab.mpr h
    have h₂ : a.sameValue b = false := by rw [← Bool.not_eq_true, heq]; exact h.ne
    have h₃ : b.less a = false := by rw [← Bool.not_eq_true, hba]; exact h.not_gt
    rw [h₁, h₂, h₃]
    rfl
  · have h₁ : a.less b = false := by rw [← Bool.not_eq_true, hab]; exact h.not_lt
    have h₂ : a.sameValue b = true := heq.mpr h
    have h₃ : b.less a = false := by rw [← Bool.not_eq_true, hba]; exact h.not_gt
    rw [h₁, h₂, h₃]
    rfl
  · have h₁ : a.less b = false := by rw [← Bool.not_eq_true, hab]; exact h.not_gt
    have h₂ : a.sameValue b = false := by rw [← Bool.not_eq_true, heq]; exact h.ne'
    have h₃ : b.less a = true := hba.mpr h
    rw [h₁, h₂, h₃]
    rfl

end Decimal

/-! ### Numbers of any exponent -/

namespace Scientific

/-- **The value of a finite number.** -/
def toRat? : Scientific → Option ℚ
  | finite negative coefficient exponent =>
    some ((if negative then -(coefficient : ℚ) else coefficient) * 10 ^ exponent)
  | infinite _ => none
  | notNumber _ _ _ => none

/-- A decimal of fixed scale keeps its value as one of any exponent. -/
theorem toRat?_ofDecimal (d : Decimal) : (ofDecimal d).toRat? = some d.toRat := by
  rw [ofDecimal, toRat?, Decimal.toRat, Decimal.signed, zpow_neg, zpow_natCast, div_eq_mul_inv]
  cases d.negative <;> simp

/-- **What is asked of a hash**: numbers of one value have one hash. -/
def DependsOnValue {α : Type} (hash : Scientific → α) : Prop :=
  ∀ x y q, x.toRat? = some q → y.toRat? = some q → hash x = hash y

/-! ### A hash by value -/

/-- The prime that hashes are residues of. -/
def hashPrime : ℕ := 2305843009213693951

/-- The inverse of ten among the residues. -/
def tenInverse : ℕ := 2075258708292324556

/-- The residue of a magnitude. -/
def residue (coefficient : ℕ) (exponent : ℤ) : ℕ :=
  coefficient * (if 0 ≤ exponent then 10 ^ exponent.toNat else tenInverse ^ (-exponent).toNat) %
    hashPrime

/-- A residue with a sign; `-1` is kept free. -/
def signedResidue (negative : Bool) (r : ℕ) : ℤ :=
  if negative then if r = 1 then -2 else -r else r

/-- **The residue of a number as its hash**, with the number's sign. -/
def residueHash : Scientific → ℤ
  | finite negative coefficient exponent => signedResidue negative (residue coefficient exponent)
  | infinite negative => if negative then -314159 else 314159
  | notNumber _ _ _ => 0

theorem ten_mul_tenInverse : 10 * tenInverse ≡ 1 [MOD hashPrime] := by
  decide +kernel

/-- Far enough up, the residue of a magnitude is that of a natural number. -/
theorem residue_mul_pow {coefficient : ℕ} {exponent : ℤ} {k : ℕ} (h : 0 ≤ exponent + k) :
    residue coefficient exponent * 10 ^ k ≡ coefficient * 10 ^ (exponent + k).toNat
      [MOD hashPrime] := by
  refine ((Nat.mod_modEq _ _).mul_right _).trans ?_
  rw [Nat.mul_assoc]
  refine Nat.ModEq.mul_left _ ?_
  split
  next hnonneg =>
    have hsum : (exponent + k).toNat = exponent.toNat + k := by omega
    rw [hsum, pow_add]
  next hneg =>
    -- as many tens are multiplied away as the exponent is below zero
    obtain ⟨n, hn⟩ : ∃ n : ℕ, (-exponent).toNat = n := ⟨_, rfl⟩
    have hk : k = n + (exponent + k).toNat := by omega
    have hinverse : tenInverse ^ n * 10 ^ n ≡ 1 [MOD hashPrime] := by
      have hpow := ten_mul_tenInverse.pow n
      rwa [mul_pow, one_pow, mul_comm] at hpow
    rw [hn, hk, pow_add, ← Nat.mul_assoc, ← hk]
    simpa using hinverse.mul_right (10 ^ (exponent + k).toNat)

/-- **Magnitudes of one value have one residue.** -/
theorem residue_eq_of_value_eq {c c' : ℕ} {e e' : ℤ}
    (h : (c : ℚ) * 10 ^ e = c' * 10 ^ e') : residue c e = residue c' e' := by
  obtain ⟨k, hk⟩ : ∃ k : ℕ, 0 ≤ e + k ∧ 0 ≤ e' + k := ⟨e.natAbs + e'.natAbs, by omega⟩
  have hten : (10 : ℚ) ≠ 0 := by norm_num
  have hscaled : c * 10 ^ (e + k).toNat = c' * 10 ^ (e' + k).toNat := by
    have hcast : ∀ {n : ℕ} {x : ℤ}, 0 ≤ x + k →
        ((n * 10 ^ (x + k).toNat : ℕ) : ℚ) = n * 10 ^ x * 10 ^ k := by
      intro n x hx
      rw [Nat.cast_mul, Nat.cast_pow, Nat.cast_ofNat, ← zpow_natCast, Int.toNat_of_nonneg hx,
        zpow_add₀ hten, zpow_natCast, mul_assoc]
    exact_mod_cast (hcast hk.1).trans ((congrArg (· * (10 : ℚ) ^ k) h).trans (hcast hk.2).symm)
  have hmod : residue c e * 10 ^ k ≡ residue c' e' * 10 ^ k [MOD hashPrime] := by
    refine (residue_mul_pow hk.1).trans ?_
    rw [hscaled]
    exact (residue_mul_pow hk.2).symm
  have hcoprime : Nat.Coprime hashPrime (10 ^ k) := Nat.Coprime.pow_right k (by decide +kernel)
  have hcancel := hmod.cancel_right_of_coprime hcoprime
  rwa [Nat.ModEq, residue, residue, Nat.mod_mod, Nat.mod_mod] at hcancel

section OfValue

variable {negative : Bool} {coefficient : ℕ} {exponent : ℤ} {q : ℚ}
  (h : (finite negative coefficient exponent).toRat? = some q)

include h

theorem abs_of_toRat? : (coefficient : ℚ) * 10 ^ exponent = |q| := by
  have hunit : (0 : ℚ) < 10 ^ exponent := zpow_pos (by norm_num) _
  rw [← Option.some.inj h, abs_mul, abs_of_pos hunit]
  cases negative <;> simp

theorem negative_iff_of_toRat? (hne : coefficient ≠ 0) : negative = true ↔ q < 0 := by
  have hunit : (0 : ℚ) < 10 ^ exponent := zpow_pos (by norm_num) _
  have hpos : (0 : ℚ) < coefficient := by exact_mod_cast Nat.pos_of_ne_zero hne
  rw [← Option.some.inj h]
  cases negative with
  | false => simp [(mul_pos hpos hunit).le]
  | true => simp [mul_pos hpos hunit]

/-- The sign of a hash is that of the value, and does not matter where that is zero. -/
theorem residueHash_of_toRat? : residueHash (finite negative coefficient exponent) =
    signedResidue (q < 0) (residue coefficient exponent) := by
  by_cases hzero : coefficient = 0
  · subst hzero
    simp [residueHash, signedResidue, residue]
  · simp only [residueHash, ← negative_iff_of_toRat? h hzero, Bool.decide_eq_true]

end OfValue

/-- **The residue is a hash by value.** -/
theorem residueHash_dependsOnValue : DependsOnValue residueHash := by
  intro x y q hx hy
  cases x with
  | infinite _ => cases hx
  | notNumber _ _ _ => cases hx
  | finite negative c e =>
    cases y with
    | infinite _ => cases hy
    | notNumber _ _ _ => cases hy
    | finite negative' c' e' =>
      have hresidue := residue_eq_of_value_eq ((abs_of_toRat? hx).trans (abs_of_toRat? hy).symm)
      rw [residueHash_of_toRat? hx, residueHash_of_toRat? hy, hresidue]

example : residueHash (.finite false 15 (-1)) = 1152921504606846977 := by decide +kernel

end Scientific

namespace Decimal

open Screen

/-! ### Literals in order -/

/-- A literal has something in it. -/
theorem trim_ne_nil_of_ofText {text : String} {d : Decimal} (h : ofText text = .ok d) :
    Text.trim text.toList ≠ [] := by
  intro hnil
  rw [ofText, hnil] at h
  cases h

theorem isBlank_of_ofText {text : String} {d : Decimal} (h : ofText text = .ok d) :
    isBlank (.text text) = false := by
  rw [isBlank, List.isEmpty_eq_false_iff]
  exact trim_ne_nil_of_ofText h

/-- **The test on two literals is the comparison of their numbers.** -/
theorem test_decimalOrder (strict : Bool) {low high : String} {a b : Decimal}
    (hlow : ofText low = .ok a) (hhigh : ofText high = .ok b) :
    (Predicate.decimalOrder strict).test [.text low, .text high] =
      .ok (.truth (if strict then a.less b else a.atMost b)) := by
  simp only [Predicate.decimalOrder, isBlank_of_ofText hlow, isBlank_of_ofText hhigh,
    Predicate.inOrder, filled_text, ofTextValue, hlow, hhigh, Bool.or_self, Bool.false_eq_true,
    if_false]

theorem hashBy_of_convertible {α : Type} {hash : Scientific → α} {d : Decimal}
    (h : d.Convertible) : d.hashBy hash = .ok (hash (.ofDecimal d)) := by
  rw [hashBy, toScientific_eq_ok_iff.mpr ⟨h, rfl⟩]
  rfl

/-- **Decimals are ordered as the rational numbers are.** Each comparison of two of them
is that of their values; so of below, equal and above exactly one holds, the order is
transitive, and a number can stand for any other of its value, whatever their scales.
Taken for a decimal of any exponent, which the arithmetic has to hold, a number has its value,
and so one hash with all of that value; and the test on two literals passes exactly where their
numbers are in order. -/
theorem ordered_by_value {α : Type} {hash : Scientific → α}
    (hhash : Scientific.DependsOnValue hash) :
    (∀ a b, ComparesByValue a b) ∧
    (∀ a b : Decimal, [a.less b, a.sameValue b, b.less a].count true = 1) ∧
    (∀ a b c : Decimal, (a.less b = true → b.less c = true → a.less c = true) ∧
      (a.atMost b = true → b.atMost c = true → a.atMost c = true)) ∧
    (∀ a a' b : Decimal, a.sameValue a' = true → ∀ compare ∈ comparisons,
      compare a b = compare a' b ∧ compare b a = compare b a') ∧
    (∀ d : Decimal, d.Convertible →
      ∃ x, d.toScientific = .ok x ∧ x.toRat? = some d.toRat) ∧
    (∀ a b : Decimal, a.Convertible → b.Convertible → a.sameValue b = true →
      ∃ h, a.hashBy hash = .ok h ∧ b.hashBy hash = .ok h) ∧
    ∀ strict low high a b, ofText low = .ok a → ofText high = .ok b →
      ∃ passed, (Predicate.decimalOrder strict).test [.text low, .text high] =
        .ok (.truth passed) ∧
        (passed = true ↔ if strict = true then a.toRat < b.toRat else a.toRat ≤ b.toRat) := by
  refine ⟨comparesByValue, count_trichotomy, fun a b c => ⟨?_, ?_⟩, ?_, ?_, ?_, ?_⟩
  · intro hab hbc
    exact (less_iff a c).mpr (((less_iff a b).mp hab).trans ((less_iff b c).mp hbc))
  · intro hab hbc
    refine (comparesByValue a c).atMost.mpr ?_
    exact ((comparesByValue a b).atMost.mp hab).trans ((comparesByValue b c).atMost.mp hbc)
  · intro a a' b hsame compare hcompare
    have hvalue := (sameValue_iff a a').mp hsame
    exact ⟨comparison_congr hcompare hvalue rfl, comparison_congr hcompare rfl hvalue⟩
  · intro d hconvertible
    exact ⟨_, toScientific_eq_ok_iff.mpr ⟨hconvertible, rfl⟩, Scientific.toRat?_ofDecimal d⟩
  · intro a b ha hb hsame
    have hvalue := Scientific.toRat?_ofDecimal a
    rw [(sameValue_iff a b).mp hsame] at hvalue
    refine ⟨_, hashBy_of_convertible ha, ?_⟩
    rw [hashBy_of_convertible hb, hhash _ _ _ hvalue (Scientific.toRat?_ofDecimal b)]
  · intro strict low high a b hlow hhigh
    refine ⟨_, test_decimalOrder strict hlow hhigh, ?_⟩
    cases strict with
    | false => exact (comparesByValue a b).atMost
    | true => exact less_iff a b

theorem prices_ordered_by_value :
    Scientific.DependsOnValue Scientific.residueHash ∧
    (∃ h, (make 15 false 1).hashBy Scientific.residueHash = .ok h ∧
      (make 150 false 2).hashBy Scientific.residueHash = .ok h) ∧
    ofText "-1.5" = .ok (make 15 true 1) ∧ ofText " 1.50" = .ok (make 150 false 2) ∧
    ∃ passed, (Predicate.decimalOrder true).test [.text "-1.5", .text " 1.50"] =
        .ok (.truth passed) ∧
      (passed = true ↔ (make 15 true 1).toRat < (make 150 false 2).toRat) := by
  have hhash := Scientific.residueHash_dependsOnValue
  have hlow : ofText "-1.5" = .ok (make 15 true 1) := by decide +kernel
  have hhigh : ofText " 1.50" = .ok (make 150 false 2) := by decide +kernel
  obtain ⟨-, -, -, -, -, hequal, htest⟩ := ordered_by_value hhash
  refine ⟨hhash, ?_, hlow, hhigh, htest true _ _ _ _ hlow hhigh⟩
  exact hequal _ _ (by decide +kernel) (by decide +kernel) (by decide)

/-- **Not every number is one of any exponent** in the arithmetic: one of too many places is
not, though it is compared with others by its value. -/
theorem not_always_convertible :
    ¬∀ d : Decimal, ∃ x, d.toScientific = .ok x ∧ x.toRat? = some d.toRat := by
  intro h
  obtain ⟨x, hx, -⟩ := h (make 1 false 2000000000000000000)
  exact absurd (toScientific_eq_ok_iff.mp hx).1.1 (by decide)

end Decimal

end FixedWidth
