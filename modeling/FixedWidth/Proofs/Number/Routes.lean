import FixedWidth.Proofs.Number.Literal
import FixedWidth.Proofs.Number.Order
import FixedWidth.Proofs.Number.Rescale
import Mathlib.Data.List.TakeWhile

/-!
# The ways to a number

A number comes from a literal, from an integer, or from a decimal of any exponent, and a
decimal of any exponent can itself come from a literal. The ways are programs of their own:
one assembles the digits around the point and counts the places, another keeps the digits
with an exponent, from which the places are told afterwards, and an integer has neither. They
lead to one number (`FixedWidth.Decimal.routes_agree`), and so to one number or one fault
where a scale is asked for besides, since that is done to the number. The fault is that of too
many digits, except under a precision that is more than there is
(`FixedWidth.Decimal.not_routes_agree_of_precision`).

A decimal of any exponent is taken for the number of its value
(`FixedWidth.Scientific.exists_toDecimal?`): an exponent above zero becomes zeros, and one
below zero is the count of places.
-/

namespace FixedWidth

open Decimal (IsLiteral IsSign IsTail LiteralParts)

/-! ### Decimals of any exponent -/

namespace Scientific

variable {cs body sign whole fraction tail : List Char} {negative : Bool} {x : Scientific}
  {parts : LiteralParts}

/-- **Digits around a point are kept with an exponent** that is as far below zero as there are
digits behind the point. -/
theorem readFinite?_append (htail : IsTail fraction tail) (hwhole : whole.all Char.isDigit = true)
    (hfraction : fraction.all Char.isDigit = true) (hdigit : whole ≠ [] ∨ fraction ≠ []) :
    readFinite? negative (whole ++ tail) =
      some (finite negative (natOfDigits (whole ++ fraction)) (-(fraction.length : ℤ))) := by
  have hsome : (whole.isEmpty && fraction.isEmpty) = false := by
    rwa [Bool.and_eq_false_iff, List.isEmpty_eq_false_iff, List.isEmpty_eq_false_iff]
  rw [readFinite?, htail.takeWhile_append hwhole, htail.dropWhile_append hwhole]
  cases htail with
  | absent =>
    simp only [hsome, Bool.false_eq_true, if_false, readExponent?]
    rfl
  | point =>
    have htake : fraction.takeWhile Char.isDigit = fraction :=
      List.takeWhile_eq_self_iff.mpr (List.all_eq_true.mp hfraction)
    have hdrop : fraction.dropWhile Char.isDigit = [] :=
      Text.dropWhile_eq_nil_iff_all.mpr hfraction
    simp only [htake, hdrop, hsome, Bool.false_eq_true, if_false, readExponent?, Option.map_some,
      Int.zero_sub]

/-- A sign is taken off, and nothing is taken for one. -/
theorem ofText?_append (hsign : IsSign negative sign) (hminus : body.head? ≠ some '-')
    (hplus : body.head? ≠ some '+') (hread : readFinite? negative body = some x) :
    ofText? (sign ++ body) = some x := by
  cases hsign with
  | minus =>
    rw [List.singleton_append, ofText?]
    simp only [hread]
  | plus =>
    rw [List.singleton_append, ofText?]
    simp only [hread]
  | absent =>
    rw [List.nil_append]
    unfold ofText?
    split
    next negative body' hcut =>
    have hself : (false, body) = (negative, body') := by
      rw [← hcut]
      split
      next => exact absurd rfl hminus
      next => exact absurd rfl hplus
      next => rfl
    obtain ⟨rfl, rfl⟩ := Prod.mk.inj hself
    simp only [hread]

/-- **A literal is a decimal of any exponent.** -/
theorem ofText?_of_isLiteral (h : IsLiteral cs parts) :
    ofText? cs = some (finite parts.negative (natOfDigits (parts.whole ++ parts.fraction))
      (-(parts.fraction.length : ℤ))) := by
  obtain ⟨sign, tail, hsign, htail, rfl⟩ := h.exists_pieces
  exact ofText?_append hsign (htail.head?_append_ne h.whole_digits (by decide))
    (htail.head?_append_ne h.whole_digits (by decide))
    (readFinite?_append htail h.whole_digits h.fraction_digits h.some_digit)

/-- A decimal with places is taken as it is. -/
theorem toDecimal?_finite_neg (negative : Bool) (coefficient k : ℕ) :
    (finite negative coefficient (-(k : ℤ))).toDecimal? = some (.make coefficient negative k) := by
  rw [toDecimal?]
  split
  next hnonneg =>
    obtain rfl : k = 0 := by omega
    rw [Int.natCast_zero, Int.neg_zero, Int.toNat_zero, Nat.pow_eq, Nat.pow_zero, Nat.mul_one]
  next => rw [Int.neg_neg, Int.toNat_natCast]

/-- **A decimal of any exponent is taken for the number of its value**, with as many places as
its exponent is below zero. -/
theorem exists_toDecimal? (negative : Bool) (coefficient : ℕ) (exponent : ℤ) :
    ∃ d, (finite negative coefficient exponent).toDecimal? = some d ∧
      (finite negative coefficient exponent).toRat? = some d.toRat ∧
      (d.scale : ℤ) = max 0 (-exponent) := by
  rcases Int.le_total exponent 0 with hexponent | hexponent
  · obtain ⟨k, rfl⟩ : ∃ k : ℕ, exponent = -(k : ℤ) := ⟨(-exponent).toNat, by omega⟩
    refine ⟨_, toDecimal?_finite_neg negative coefficient k, ?_, ?_⟩
    · rw [toRat?, Decimal.toRat_make, zpow_neg, zpow_natCast, div_eq_mul_inv]
    · rw [Decimal.scale_make]
      omega
  · obtain ⟨k, rfl⟩ : ∃ k : ℕ, exponent = k := ⟨exponent.toNat, by omega⟩
    refine ⟨.make (coefficient * Nat.pow 10 k) negative 0, ?_, ?_, ?_⟩
    · rw [toDecimal?, if_pos hexponent, Int.toNat_natCast]
    · rw [toRat?, Decimal.toRat_make, zpow_natCast, pow_zero, div_one, Nat.pow_eq, Nat.cast_mul,
        Nat.cast_pow, Nat.cast_ofNat]
      cases negative <;> simp
    · rw [Decimal.scale_make]
      omega

end Scientific

/-! ### Numbers -/

namespace Decimal

variable {text : String} {parts : LiteralParts} {context : Context}

/-- **An integer is written as a literal without a point.** -/
theorem isLiteral_toString (z : ℤ) :
    IsLiteral (toString z).toList ⟨z < 0, Nat.toDigits 10 z.natAbs, []⟩ where
  exists_pieces := by
    refine ⟨_, [], isSign_ite _, .absent, ?_⟩
    rw [Int.toString_eq_repr, Int.repr_eq_if, List.append_nil]
    split
    next hnonneg =>
      have habs : z.toNat = z.natAbs := by omega
      rw [if_neg (by simpa using hnonneg), Nat.toList_repr, habs]
      rfl
    next hnegative =>
      have habs : (-z).toNat = z.natAbs := by omega
      rw [if_pos (by simpa using hnegative), String.toList_append, Nat.toList_repr, habs]
      rfl
  whole_digits := (isNumeral_toDigits _).digits
  fraction_digits := rfl
  some_digit := .inl (isNumeral_toDigits _).ne_nil

/-- A literal without white space around it is read as what it means. -/
theorem ofText_of_isLiteral (h : IsLiteral text.toList parts) : ofText text = .ok parts.toDecimal := by
  have hread := h.ofText_eq (means_iff.mpr rfl)
  rwa [String.ofList_toList] at hread

theorem ofText_toString (z : ℤ) : ofText (toString z) = .ok (ofInt z 0) := by
  rw [ofText_of_isLiteral (isLiteral_toString z), LiteralParts.toDecimal, List.append_nil,
    Nat.ofDigitChars_ten_toDigits]
  rfl

/-- **The ways to a number agree.** -/
structure RoutesAgree (context : Context) : Prop where
  /-- A literal leads to one number or one fault, whether it is read as it is or as a decimal of
  any exponent. -/
  of_literal {text : String} {parts : LiteralParts} (scale : Option ℤ) :
    IsLiteral text.toList parts → ∃ x, Scientific.ofText? text.toList = some x ∧
      parse (.text text) scale context = fromNumber (.scientific x) scale context
  /-- The fault can only be that the number has more digits than the precision, where a scale is
  asked for to which it can be brought. -/
  literal_outcome {text : String} {parts : LiteralParts} {s : ℕ} :
    IsLiteral text.toList parts → s ≤ 999999 → parts.toDecimal.Reaches s context →
      (∃ r, parse (.text text) (some s) context = .ok r) ∨
        ∃ digits, parse (.text text) (some s) context = .error (.overflow digits context.precision)
  /-- Where no scale is asked for there is none. -/
  literal_read {text : String} {parts : LiteralParts} :
    IsLiteral text.toList parts → ∃ r, parse (.text text) none context = .ok r ∧ Means parts r
  /-- An integer leads to the number that its text leads to. -/
  of_integer (z : ℤ) (scale : Option ℤ) :
    parse (.text (Value.integer z).toText) scale context = fromNumber (.integer z) scale context
  /-- A decimal of any exponent leads to the number of its value. -/
  of_scientific (negative : Bool) (coefficient : ℕ) (exponent : ℤ) :
    ∃ d, fromNumber (.scientific (.finite negative coefficient exponent)) none context = .ok d ∧
      (Scientific.finite negative coefficient exponent).toRat? = some d.toRat ∧
      (d.scale : ℤ) = max 0 (-exponent)
  /-- A number leads back to itself. -/
  of_decimal (d : Decimal) :
    fromNumber (.scientific (.ofDecimal d)) none context = .ok d

theorem fromNumber_scientific {x : Scientific} {d : Decimal} (h : x.toDecimal? = some d)
    (scale : Option ℤ) (context : Context) :
    fromNumber (.scientific x) scale context = d.rescale? scale context := by
  rw [fromNumber, ofNumber]
  simp only [Option.bind_some, h]
  rfl

/-- **A number is one and the same whichever way it comes in.** -/
theorem routes_agree (context : Context) : RoutesAgree context where
  of_literal {text parts} scale h := by
    refine ⟨_, Scientific.ofText?_of_isLiteral h, ?_⟩
    rw [parse_text, ofText_of_isLiteral h, fromNumber_scientific
      (Scientific.toDecimal?_finite_neg _ _ _)]
    rfl
  literal_outcome {text parts s} h hs hreaches := by
    rw [parse_text, ofText_of_isLiteral h, ok_bind, rescale?, rescale_eq hs hreaches]
    split
    · exact .inl ⟨_, rfl⟩
    · exact .inr ⟨_, rfl⟩
  literal_read h := ⟨_, (parse_none _ context).trans (ofText_of_isLiteral h), means_iff.mpr rfl⟩
  of_integer z scale := by
    have htext : (Value.integer z).toText = toString z := rfl
    rw [htext, parse_text, ofText_toString]
    rfl
  of_scientific negative coefficient exponent := by
    obtain ⟨d, hd, hvalue, hscale⟩ := Scientific.exists_toDecimal? negative coefficient exponent
    exact ⟨d, fromNumber_scientific hd none context, hvalue, hscale⟩
  of_decimal d := fromNumber_scientific (Scientific.toDecimal?_ofDecimal d) none context

/-- **Not under every precision do the ways lead to a number or to too many digits**: under one
that is more than there is, neither way loses the place of a literal. -/
theorem not_routes_agree_of_precision :
    ¬∀ (text : String) (parts : LiteralParts) (x : Scientific) (s : ℕ) (context : Context),
      IsLiteral text.toList parts → Scientific.ofText? text.toList = some x → s ≤ 999999 →
        1 ≤ context.precision →
        (∃ r, parse (.text text) (some s) context = .ok r ∧
          fromNumber (.scientific x) (some s) context = .ok r) ∨
        ∃ digits precision,
          parse (.text text) (some s) context = .error (.overflow digits precision) ∧
          fromNumber (.scientific x) (some s) context = .error (.overflow digits precision) := by
  intro h
  have hprice : IsLiteral "1.25".toList ⟨false, ['1'], ['2', '5']⟩ :=
    ⟨⟨⟨[], ['.', '2', '5'], .absent, .point _, rfl⟩, rfl, rfl⟩, .inl (by decide)⟩
  have hparse : parse (.text "1.25") (some 1) ⟨1000000000000000000, .halfUp⟩ =
      .error .precisionRange := by
    rw [parse_text, ofText_of_isLiteral hprice]
    have hlost : (make 125 false 2).rescale (1 : ℕ) ⟨1000000000000000000, .halfUp⟩ =
        .error .precisionRange :=
      rescale_eq_precisionRange (by decide) (by decide) (by decide +kernel) (by decide) (by decide)
    exact hlost
  rcases h "1.25" _ _ 1 ⟨1000000000000000000, .halfUp⟩ hprice
    (Scientific.ofText?_of_isLiteral hprice) (by decide) (by decide) with ⟨r, hr, -⟩ | ⟨digits, precision, hr, -⟩
  · rw [Int.natCast_one, hparse] at hr
    cases hr
  · rw [Int.natCast_one, hparse] at hr
    cases hr

end Decimal

end FixedWidth
