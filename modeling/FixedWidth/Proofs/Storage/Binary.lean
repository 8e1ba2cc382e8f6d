import FixedWidth.Number.Decimal
import FixedWidth.Picture.Usage
import FixedWidth.Proofs.Number.Digits
import FixedWidth.Storage.Binary

/-!
# Binary integers, written and read back

Bytes and the numbers below the power of 256 of their count are the same thing
(`FixedWidth.Binary.bytesOfNat_natOfBytes` beside
`FixedWidth.Binary.natOfBytes_bytesOfNat`), and with a sign the upper half of
these numbers is that of the negative ones. So every field of bytes is written as
it was read (`FixedWidth.Binary.encode_decode`), and every number that is within
the bytes is read as it was written (`FixedWidth.Binary.decode_encode`).

The bytes of a field are chosen by its count of digits, and they hold more than
these digits: a number can be read that the field would not take.
-/

namespace FixedWidth.Binary

/-! ### Bytes and numbers -/

theorem natOfBytes_lt (bytes : List UInt8) : natOfBytes bytes < Nat.pow 256 bytes.length := by
  obtain ⟨count, hcount⟩ : ∃ count, bytes.length = count := ⟨_, rfl⟩
  induction count generalizing bytes with
  | zero =>
    rw [List.length_eq_zero_iff.mp hcount]
    exact Nat.one_pos
  | succ count ih =>
    -- the number is built up from the first byte on, so the last one is taken off
    obtain rfl | ⟨bytes, b, rfl⟩ := bytes.eq_nil_or_concat
    · cases hcount
    rw [List.concat_eq_append] at hcount ⊢
    have hlen : bytes.length = count := by simpa using hcount
    have hlt := ih bytes hlen
    have hb : b.toNat < 256 := b.toNat_lt
    have hpow : Nat.pow 256 (bytes.length + 1) = Nat.pow 256 bytes.length * 256 := rfl
    rw [natOfBytes_append_singleton, List.length_append, List.length_singleton, hpow]
    omega

/-- **Bytes are the bytes of the number that they spell.** -/
theorem bytesOfNat_natOfBytes {count : Nat} {bytes : List UInt8} (h : bytes.length = count) :
    bytesOfNat count (natOfBytes bytes) = bytes := by
  induction count generalizing bytes with
  | zero => exact (List.length_eq_zero_iff.mp h).symm
  | succ count ih =>
    obtain rfl | ⟨bytes, b, rfl⟩ := bytes.eq_nil_or_concat
    · cases h
    rw [List.concat_eq_append] at h ⊢
    have hb : b.toNat < 256 := b.toNat_lt
    have hhigh : natOfBytes (bytes ++ [b]) / 256 = natOfBytes bytes := by
      rw [natOfBytes_append_singleton]
      omega
    have hlow : natOfBytes (bytes ++ [b]) % 256 = b.toNat := by
      rw [natOfBytes_append_singleton]
      omega
    rw [bytesOfNat, hhigh, hlow, ih (by simpa using h), UInt8.ofNat_toNat]

/-! ### With a sign -/

/-- Whether so many bytes hold the number. A sign takes one half of what they
spell. -/
def Within (count : Nat) (signed : Bool) (z : Int) : Prop :=
  match signed with
  | true => -(Nat.pow 256 count : Int) ≤ 2 * z ∧ 2 * z < Nat.pow 256 count
  | false => 0 ≤ z ∧ z < Nat.pow 256 count

instance (count : Nat) (signed : Bool) (z : Int) : Decidable (Within count signed z) :=
  match signed with
  | true => inferInstanceAs (Decidable (_ ∧ _))
  | false => inferInstanceAs (Decidable (_ ∧ _))

/-- **An integer is written when it is within the bytes.** -/
theorem write_eq (count : Nat) (signed : Bool) (z : Int) :
    write count signed z = if Within count signed z then .ok (encode count z)
      else if signed = false ∧ z < 0 then .error .negativeForBytes
      else .error .tooWideForBytes := by
  cases signed with
  | false =>
    simp only [write, Within, Bool.not_false, Bool.true_and, Bool.or_eq_true, decide_eq_true_eq,
      Bool.false_eq_true, if_false, true_and]
    split
    · rw [if_neg (by omega)]
    split
    · rw [if_neg (by omega)]
    · rw [if_pos (by omega)]
  | true =>
    simp only [write, Within, Bool.not_true, Bool.false_and, Bool.or_eq_true, decide_eq_true_eq,
      Bool.true_eq_false, Bool.false_eq_true, if_true, if_false, false_and]
    split
    · rw [if_neg (by omega)]
    · rw [if_pos (by omega)]

theorem natOfBytes_encode (count : Nat) (z : Int) :
    natOfBytes (encode count z) = (z % Nat.pow 256 count).toNat := by
  have hpos : (0 : Int) < Nat.pow 256 count := Int.natCast_pos.mpr (Nat.pow_pos (by decide))
  have := Int.emod_lt_of_pos z hpos
  exact natOfBytes_bytesOfNat (by omega)

/-- **A number that is within the bytes is read as it was written.** -/
theorem decode_encode {count : Nat} {signed : Bool} {z : Int} (h : Within count signed z) :
    decode (encode count z) signed = z := by
  simp only [decode, natOfBytes_encode, length_encode]
  cases signed with
  | false =>
    obtain ⟨hlow, hhigh⟩ := h
    rw [Int.emod_eq_of_lt hlow hhigh, Bool.false_and, if_neg Bool.false_ne_true,
      Int.toNat_of_nonneg hlow]
  | true =>
    obtain ⟨hlow, hhigh⟩ := h
    rw [Bool.true_and]
    -- a number below zero is written as its distance from the end
    by_cases hz : 0 ≤ z
    · have hself : z % (Nat.pow 256 count : Int) = z := Int.emod_eq_of_lt hz (by omega)
      rw [hself, if_neg (by rw [decide_eq_true_eq]; omega), Int.toNat_of_nonneg hz]
    · have hwrap : z % (Nat.pow 256 count : Int) = z + Nat.pow 256 count := by
        rw [← Int.add_emod_right]
        exact Int.emod_eq_of_lt (by omega) (by omega)
      rw [hwrap, if_pos (by rw [decide_eq_true_eq]; omega)]
      omega

/-- **Every field of bytes is written as it was read.** -/
theorem encode_decode (bytes : List UInt8) (signed : Bool) :
    encode bytes.length (decode bytes signed) = bytes := by
  have hlt := natOfBytes_lt bytes
  have hmod : decode bytes signed % (Nat.pow 256 bytes.length : Int) = natOfBytes bytes := by
    have hself : (natOfBytes bytes : Int) % (Nat.pow 256 bytes.length : Int) = natOfBytes bytes :=
      Int.emod_eq_of_lt (Int.natCast_nonneg _) (by omega)
    simp only [decode]
    split
    · rw [Int.sub_emod_right, hself]
    · exact hself
  rw [encode, hmod, Int.toNat_natCast]
  exact bytesOfNat_natOfBytes rfl

/-- What is read without a sign is not below zero. -/
theorem decode_unsigned_nonneg (bytes : List UInt8) : 0 ≤ decode bytes false := by
  simp [decode]

/-! ### The bytes of a field -/

/-- **The bytes of a field hold its digits**, with a sign or without. -/
theorem two_mul_pow_le {totalDigits width : Nat}
    (h : Usage.binaryLength totalDigits = .ok width) :
    2 * Nat.pow 10 totalDigits ≤ Nat.pow 256 width := by
  have hmono : ∀ {m : Nat}, totalDigits ≤ m → Nat.pow 10 totalDigits ≤ Nat.pow 10 m :=
    fun hm => Nat.pow_le_pow_right (by decide) hm
  unfold Usage.binaryLength at h
  split at h
  next hn =>
    rw [← Except.ok.inj h]
    exact Nat.le_trans (Nat.mul_le_mul_left 2 (hmono hn)) (by decide)
  split at h
  next hn =>
    rw [← Except.ok.inj h]
    exact Nat.le_trans (Nat.mul_le_mul_left 2 (hmono hn)) (by decide)
  split at h
  next hn =>
    rw [← Except.ok.inj h]
    exact Nat.le_trans (Nat.mul_le_mul_left 2 (hmono hn)) (by decide)
  · cases h

/-- A number that fits a field is within the field's bytes. -/
theorem within_of_fits {d : Decimal} {totalDigits width : Nat} {signed : Bool}
    (hfits : d.Fits totalDigits signed) (h : Usage.binaryLength totalDigits = .ok width) :
    Within width signed d.signed := by
  have hlt := (d.digitCount_le_iff hfits.totalDigits_pos).mp hfits.digitCount_le
  have hwidth := two_mul_pow_le h
  cases signed with
  | false =>
    rw [Decimal.signed, hfits.nonnegative rfl, if_neg Bool.false_ne_true]
    exact ⟨Int.natCast_nonneg _, by omega⟩
  | true =>
    rw [Within, Decimal.signed]
    split <;> omega

/-- **Whether bytes hold a number that a field of so many digits takes.** -/
def InRange (totalDigits : Nat) (signed : Bool) (bytes : List UInt8) : Prop :=
  0 < totalDigits ∧ (decode bytes signed).natAbs < Nat.pow 10 totalDigits

instance (totalDigits : Nat) (signed : Bool) (bytes : List UInt8) :
    Decidable (InRange totalDigits signed bytes) := by
  unfold InRange
  infer_instance

/-- **What was read fits exactly when its bytes are in range.** -/
theorem fits_iff_inRange {totalDigits : Nat} {signed : Bool} {bytes : List UInt8} {scale : Nat} :
    (Decimal.ofInt (decode bytes signed) scale).Fits totalDigits signed ↔
      InRange totalDigits signed bytes := by
  have hsign : signed = false →
      (Decimal.ofInt (decode bytes signed) scale).negative = false := by
    rintro rfl
    have hnonneg := decode_unsigned_nonneg bytes
    rw [Decimal.negative_ofInt, decide_eq_false_iff_not]
    omega
  constructor
  · intro hfits
    have hpos := hfits.totalDigits_pos
    exact ⟨hpos, (Decimal.digitCount_le_iff _ hpos).mp hfits.digitCount_le⟩
  · rintro ⟨hpos, hlt⟩
    exact ⟨(Decimal.digitCount_le_iff _ hpos).mpr hlt, hsign⟩

end FixedWidth.Binary
