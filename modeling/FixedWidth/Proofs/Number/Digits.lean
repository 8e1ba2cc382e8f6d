import FixedWidth.Number.Decimal
import FixedWidth.Text.Digit

/-!
# Digit texts of fixed width

Every stored form of a number, whatever its bytes, is in the end a text of as
many ASCII digits as the field has. This file settles what such texts are worth:
they and the numbers below the power of ten of their length are the same thing
(`FixedWidth.Text.eq_of_ofDigitChars_eq` one way, and
`FixedWidth.Decimal.ofDigitChars_digits` and `FixedWidth.Decimal.digits_eq` the
other), so that a codec only has to account for the digits one by one.

`FixedWidth.Decimal.Fits` is the capacity of a field: enough digits, and a sign
where one is needed. All codecs refuse exactly the numbers that do not fit.
-/

namespace FixedWidth

namespace Text

/-! ### A digit and its value -/

theorem isDigit_iff {c : Char} : c.isDigit = true ↔ 48 ≤ c.toNat ∧ c.toNat ≤ 57 := by
  simp only [Char.isDigit, Bool.and_eq_true, decide_eq_true_eq, UInt32.le_iff_toNat_le, ge_iff_le]
  exact Iff.rfl

theorem digitOf_lt_ten {c : Char} (h : c.isDigit = true) : digitOf c < 10 := by
  have hc := isDigit_iff.mp h
  have h0 : '0'.toNat = 48 := rfl
  rw [digitOf, h0]
  omega

theorem digitOf_digitChar {n : Nat} (h : n < 10) : digitOf (Nat.digitChar n) = n := by
  have h0 : '0'.toNat = 48 := rfl
  rw [digitOf, Nat.toNat_digitChar_of_lt_ten h, h0]
  omega

theorem digitChar_digitOf {c : Char} (h : c.isDigit = true) : Nat.digitChar (digitOf c) = c := by
  have hc := isDigit_iff.mp h
  refine Char.toNat_inj.mp ?_
  rw [Nat.toNat_digitChar_of_lt_ten (digitOf_lt_ten h)]
  change 48 + (c.toNat - 48) = c.toNat
  omega

theorem isDigit_digitChar_of_le {n : Nat} (h : n ≤ 9) : (Nat.digitChar n).isDigit = true := by
  rw [Nat.isDigit_digitChar, decide_eq_true_eq]
  omega

/-- Digits written as characters are read back as they were. -/
theorem map_digitOf_map_digitChar {ns : List Nat} (h : ∀ n ∈ ns, n ≤ 9) :
    (ns.map Nat.digitChar).map digitOf = ns := by
  rw [List.map_map]
  refine (List.map_congr_left fun n hn => ?_).trans (List.map_id ns)
  have hn9 := h n hn
  exact digitOf_digitChar (by omega)

/-- Characters read as digits are written back as they were. -/
theorem map_digitChar_map_digitOf {cs : List Char} (h : cs.all Char.isDigit = true) :
    (cs.map digitOf).map Nat.digitChar = cs := by
  rw [List.map_map]
  refine (List.map_congr_left fun c hc => ?_).trans (List.map_id cs)
  exact digitChar_digitOf (List.all_eq_true.mp h c hc)

theorem all_isDigit_map_digitChar {ns : List Nat} (h : ∀ n ∈ ns, n ≤ 9) :
    (ns.map Nat.digitChar).all Char.isDigit = true := by
  rw [List.all_map, List.all_eq_true]
  exact fun n hn => isDigit_digitChar_of_le (h n hn)

/-! ### The number of a digit text -/

/-- A first digit counts as many times as its place is worth. -/
theorem ofDigitChars_cons_zero (c : Char) (cs : List Char) :
    Nat.ofDigitChars 10 (c :: cs) 0 =
      Nat.pow 10 cs.length * digitOf c + Nat.ofDigitChars 10 cs 0 := by
  rw [Nat.ofDigitChars_cons, Nat.ofDigitChars_eq_ofDigitChars_zero]
  simp [digitOf]

/-- Digits spell a number below the power of ten of their count. -/
theorem ofDigitChars_lt {cs : List Char} (h : cs.all Char.isDigit = true) :
    Nat.ofDigitChars 10 cs 0 < Nat.pow 10 cs.length := by
  induction cs with
  | nil => exact Nat.one_pos
  | cons c cs ih =>
    obtain ⟨hc, hcs⟩ := Bool.and_eq_true_iff.mp h
    have hlt := ih hcs
    have hdigit : Nat.pow 10 cs.length * digitOf c ≤ Nat.pow 10 cs.length * 9 :=
      Nat.mul_le_mul_left _ (Nat.le_of_lt_succ (digitOf_lt_ten hc))
    have hpow : Nat.pow 10 (cs.length + 1) = Nat.pow 10 cs.length * 10 := rfl
    rw [ofDigitChars_cons_zero, List.length_cons, hpow]
    omega

/-- **Digit texts of one length that spell one number are the same text.** -/
theorem eq_of_ofDigitChars_eq {cs ds : List Char} (hcs : cs.all Char.isDigit = true)
    (hds : ds.all Char.isDigit = true) (hlen : cs.length = ds.length)
    (h : Nat.ofDigitChars 10 cs 0 = Nat.ofDigitChars 10 ds 0) : cs = ds := by
  induction cs generalizing ds with
  | nil => exact (List.length_eq_zero_iff.mp hlen.symm).symm
  | cons c cs ih =>
    obtain _ | ⟨d, ds⟩ := ds
    · simp at hlen
    obtain ⟨hc, hcs⟩ := Bool.and_eq_true_iff.mp hcs
    obtain ⟨hd, hds⟩ := Bool.and_eq_true_iff.mp hds
    have hlen' : cs.length = ds.length := Nat.succ.inj hlen
    -- both numbers are a first digit above a rest that does not reach its place
    rw [ofDigitChars_cons_zero, ofDigitChars_cons_zero, ← hlen'] at h
    have hrest := ofDigitChars_lt hcs
    have hrest' := ofDigitChars_lt hds
    rw [← hlen'] at hrest'
    have hfirst : digitOf c = digitOf d := by
      have hdiv := congrArg (· / Nat.pow 10 cs.length) h
      have hpos : 0 < Nat.pow 10 cs.length := Nat.pow_pos (by decide)
      simpa only [Nat.mul_add_div hpos, Nat.div_eq_of_lt hrest, Nat.div_eq_of_lt hrest',
        Nat.add_zero] using hdiv
    rw [hfirst] at h
    have hchar : c = d := by rw [← digitChar_digitOf hc, hfirst, digitChar_digitOf hd]
    rw [hchar, ih hcs hds hlen' (Nat.add_left_cancel h)]

/-- Digits spell zero only where all of them are zero. -/
theorem ofDigitChars_eq_zero_iff {cs : List Char} (h : cs.all Char.isDigit = true) :
    Nat.ofDigitChars 10 cs 0 = 0 ↔ ∀ c ∈ cs, c = '0' := by
  constructor
  · intro hval
    have hzeros : cs = List.replicate cs.length '0' := by
      refine eq_of_ofDigitChars_eq h ?_ (by simp) ?_
      · rw [List.all_replicate]
        exact ite_eq_left_iff.mpr fun _ => rfl
      · rw [hval, Nat.ofDigitChars_replicate_zero, Nat.mul_zero]
    exact (List.eq_replicate_iff.mp hzeros).2
  · intro hall
    rw [List.eq_replicate_iff.mpr ⟨rfl, hall⟩, Nat.ofDigitChars_replicate_zero, Nat.mul_zero]

/-- The last digit of a text is what is left of its number beyond the tens. -/
theorem ofDigitChars_append_singleton {c : Char} (hc : c.isDigit = true) (cs : List Char) :
    Nat.ofDigitChars 10 (cs ++ [c]) 0 % 10 = digitOf c := by
  have hlt := digitOf_lt_ten hc
  rw [Nat.ofDigitChars_append, Nat.ofDigitChars_cons, Nat.ofDigitChars_nil]
  change (10 * Nat.ofDigitChars 10 cs 0 + digitOf c) % 10 = digitOf c
  omega

/-! ### Numbers as they are written -/

theorem all_isDigit_toDigits (n : Nat) : (Nat.toDigits 10 n).all Char.isDigit = true :=
  List.all_eq_true.mpr fun _ => Nat.isDigit_of_mem_toDigits (by decide) (by decide)

/-- A number is read as it is written. -/
theorem digitsValue_toDigits (n : Nat) : digitsValue (Nat.toDigits 10 n) = n := by
  rw [digitsValue_eq_ofDigitChars (all_isDigit_toDigits n), Nat.ofDigitChars_ten_toDigits]

end Text

namespace Decimal

/-! ### The digits of a decimal -/

theorem all_isDigit_digits (d : Decimal) (width : Nat) :
    (d.digits width).all Char.isDigit = true := by
  rw [digits, List.leftpad, List.all_append, Bool.and_eq_true]
  refine ⟨?_, List.all_eq_true.mpr fun c hc => ?_⟩
  · rw [List.all_replicate]
    exact ite_eq_left_iff.mpr fun _ => rfl
  · exact Nat.isDigit_of_mem_toDigits (by decide) (by decide) hc

theorem le_nine_of_mem_digits (d : Decimal) {width n : Nat}
    (h : n ∈ (d.digits width).map Text.digitOf) : n ≤ 9 := by
  obtain ⟨c, hc, rfl⟩ := List.mem_map.mp h
  exact Nat.le_of_lt_succ
    (Text.digitOf_lt_ten (List.all_eq_true.mp (d.all_isDigit_digits width) c hc))

/-- The digits of a decimal spell its magnitude, whatever the width. -/
@[simp] theorem ofDigitChars_digits (d : Decimal) (width : Nat) :
    Nat.ofDigitChars 10 (d.digits width) 0 = d.unscaled := by
  rw [digits, List.leftpad, Nat.ofDigitChars_append, Nat.ofDigitChars_replicate_zero, Nat.mul_zero,
    Nat.ofDigitChars_ten_toDigits]

/-- Where a magnitude is no longer than the width, it is written with exactly as
many digits. -/
theorem length_digits_eq {d : Decimal} {width : Nat} (h : d.digitCount ≤ width) :
    (d.digits width).length = width := by
  rw [length_digits]
  omega

/-- A digit text bounds the count of digits of the number that it spells. -/
theorem digitCount_le_length {d : Decimal} {cs : List Char} (h : cs.all Char.isDigit = true)
    (hne : cs ≠ []) (hval : Nat.ofDigitChars 10 cs 0 = d.unscaled) : d.digitCount ≤ cs.length := by
  rw [d.digitCount_le_iff (List.length_pos_iff.mpr hne), ← hval]
  exact Text.ofDigitChars_lt h

/-- **A digit text is what the number that it spells is written as.** -/
theorem digits_eq {d : Decimal} {cs : List Char} (h : cs.all Char.isDigit = true) (hne : cs ≠ [])
    (hval : Nat.ofDigitChars 10 cs 0 = d.unscaled) : d.digits cs.length = cs := by
  refine Text.eq_of_ofDigitChars_eq (d.all_isDigit_digits _) h ?_ ?_
  · exact length_digits_eq (digitCount_le_length h hne hval)
  · rw [ofDigitChars_digits, hval]

theorem digits_ne_nil (d : Decimal) (width : Nat) : d.digits width ≠ [] := by
  rw [← List.length_pos_iff, length_digits]
  have := d.digitCount_pos
  omega

/-- The last digit that is written is the number's last one. -/
theorem dropLast_digits_append (d : Decimal) (width : Nat) :
    (d.digits width).dropLast ++ [Nat.digitChar (d.unscaled % 10)] = d.digits width := by
  obtain ⟨c, hc⟩ := List.getLast?_isSome.mpr (d.digits_ne_nil width) |> Option.isSome_iff_exists.mp
  obtain ⟨cs, hcs⟩ := List.getLast?_eq_some_iff.mp hc
  have hall := d.all_isDigit_digits width
  have hvalue := d.ofDigitChars_digits width
  rw [hcs] at hall hvalue ⊢
  have hdigit : c.isDigit = true := List.all_eq_true.mp hall c (by simp)
  rw [← hvalue, Text.ofDigitChars_append_singleton hdigit, Text.digitChar_digitOf hdigit,
    List.dropLast_concat]

/-! ### Another scale -/

/-- A number keeps its sign where its places are counted differently. -/
@[simp] theorem negative_make_self (d : Decimal) (scale : Nat) :
    (make d.unscaled d.negative scale).negative = d.negative := by
  have hself := congrArg negative (make_self d)
  rwa [negative_make] at hself ⊢

@[simp] theorem signed_make_self (d : Decimal) (scale : Nat) :
    (make d.unscaled d.negative scale).signed = d.signed := by
  rw [signed, negative_make_self, unscaled_make, signed]

/-! ### The digits before the point -/

/-- A count of digits before the point is the least power of ten that bounds what
stands there; nothing stands there below one. -/
theorem integerDigits_le_iff (d : Decimal) {k : Nat} :
    d.integerDigits ≤ k ↔ d.wholePart < Nat.pow 10 k := by
  have hpow : 0 < Nat.pow 10 k := Nat.pow_pos (by decide)
  rw [integerDigits]
  split
  next hzero =>
    rw [hzero]
    exact iff_of_true k.zero_le hpow
  next hnonzero =>
    cases k with
    | zero =>
      have hlength : 0 < (Nat.toDigits 10 d.wholePart).length := Nat.length_toDigits_pos
      have hone : Nat.pow 10 0 = 1 := rfl
      rw [hone]
      omega
    | succ k => exact Nat.length_toDigits_le_iff (by decide) k.succ_pos

/-- With so many digits before the point a number has at most as many in all, its
places counted. -/
theorem digitCount_le_of_wholePart_lt {d : Decimal} {k : Nat} (hpos : 0 < k + d.scale)
    (h : d.wholePart < Nat.pow 10 k) : d.digitCount ≤ k + d.scale := by
  have hpow : Nat.pow 10 (k + d.scale) = Nat.pow 10 k * Nat.pow 10 d.scale := Nat.pow_add ..
  have hscale : 0 < Nat.pow 10 d.scale := Nat.pow_pos (by decide)
  rw [digitCount_le_iff _ hpos, hpow]
  exact (Nat.div_lt_iff_lt_mul hscale).mp h

/-! ### What a field can hold -/

/-- **A field of so many digits, with or without a sign, holds the number.** -/
structure Fits (d : Decimal) (totalDigits : Nat) (signed : Bool) : Prop where
  /-- The magnitude has no more digits than the field. -/
  digitCount_le : d.digitCount ≤ totalDigits
  /-- A number below zero needs a field with a sign. -/
  nonnegative : signed = false → d.negative = false

theorem fits_iff {d : Decimal} {totalDigits : Nat} {signed : Bool} :
    d.Fits totalDigits signed ↔
      d.digitCount ≤ totalDigits ∧ (signed = false → d.negative = false) :=
  ⟨fun h => ⟨h.digitCount_le, h.nonnegative⟩, fun h => ⟨h.1, h.2⟩⟩

instance (d : Decimal) (totalDigits : Nat) (signed : Bool) :
    Decidable (d.Fits totalDigits signed) :=
  decidable_of_iff _ fits_iff.symm

/-- What does not fit is refused for one of two things: its sign or its digits. -/
theorem fits_iff_not_refused {d : Decimal} {totalDigits : Nat} {signed : Bool} :
    d.Fits totalDigits signed ↔
      ¬(d.negative = true ∧ signed = false) ∧ ¬totalDigits < d.digitCount := by
  rw [fits_iff, Nat.not_lt, and_comm]
  cases d.negative <;> simp

/-- Every number has a digit, so a field without digits holds none. -/
theorem Fits.totalDigits_pos {d : Decimal} {totalDigits : Nat} {signed : Bool}
    (h : d.Fits totalDigits signed) : 0 < totalDigits :=
  Nat.lt_of_lt_of_le d.digitCount_pos h.digitCount_le

/-- The three things that a writer looks at before it takes a number, in their
order. -/
theorem fits_toNat_iff {d : Decimal} {totalDigits : Int} {signed : Bool} :
    d.Fits totalDigits.toNat signed ↔ ¬totalDigits < 1 ∧ ¬totalDigits < d.digitCount ∧
      ¬(!signed && d.negative) = true := by
  have hpos := d.digitCount_pos
  constructor
  · intro h
    have hle := h.digitCount_le
    refine ⟨by omega, by omega, fun hs => ?_⟩
    obtain ⟨hsigned, hneg⟩ := Bool.and_eq_true_iff.mp hs
    rw [h.nonnegative (by simpa using hsigned)] at hneg
    cases hneg
  · rintro ⟨-, hd, hs⟩
    refine ⟨by omega, fun hsigned => ?_⟩
    simpa [hsigned] using hs

theorem Fits.mono {d : Decimal} {m n : Nat} {signed : Bool} (h : d.Fits m signed) (hmn : m ≤ n) :
    d.Fits n signed :=
  ⟨Nat.le_trans h.digitCount_le hmn, h.nonnegative⟩

end Decimal

end FixedWidth
