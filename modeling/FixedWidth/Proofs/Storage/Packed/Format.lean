import FixedWidth.Proofs.Storage.Packed
import Mathlib.Data.List.Induction
import Mathlib.Data.Nat.Digits.Defs

/-!
# Which bytes are a packed field

The format of a packed field, said of the bytes and not of their reader: a sign in
the lower half of the last byte, and digits in all other half-bytes
(`FixedWidth.Packed.IsField`). Bytes that are none have a first flaw
(`FixedWidth.Packed.Flaw`), the sign counting before the digits.
`FixedWidth.Packed.packedField_format` holds the reader against both.

A field of `L` bytes has `2 * L - 1` digits, and written with that many digits the
number that was read gives the field back. So two fields are one number only where
one of them has another sign for it: there are two for a number that is not
negative, and a minus sign on zero is not kept.
-/

namespace FixedWidth.Packed

/-! ### Digits and a sign -/

/-- The half-bytes in which a field has its digits: all but the last. -/
def digitNibbles (bytes : List UInt8) : List Nat :=
  (nibbles bytes).dropLast

/-- The half-byte in which a field has its sign: the lower one of the last byte. -/
def signNibble? (bytes : List UInt8) : Option Nat :=
  bytes.getLast?.map fun b => b.toNat % 16

/-- **The format of a packed field**: at least one byte, a sign in its place, and
digits in all others. -/
structure IsField (bytes : List UInt8) : Prop where
  nonempty : 1 ≤ bytes.length
  sign : ∃ nibble, signNibble? bytes = some nibble ∧ IsSign nibble
  digits : ∀ n ∈ digitNibbles bytes, n ≤ 9

/-- **The flaw of bytes that are no field.** The sign is looked at first. Where it
is one, the flaw is the leftmost half-byte that should be a digit and is none, with
the position of its byte. -/
inductive Flaw (bytes : List UInt8) : Fault → Prop
  | sign {nibble : Nat} (hsign : signNibble? bytes = some nibble) (hbad : ¬IsSign nibble) :
      Flaw bytes (.signNibble nibble)
  | digit {nibble n : Nat} {before after : List Nat} {b : UInt8}
      (hsign : signNibble? bytes = some nibble) (hgood : IsSign nibble)
      (hsplit : digitNibbles bytes = before ++ n :: after) (hbefore : ∀ m ∈ before, m ≤ 9)
      (hbad : 9 < n) (hbyte : bytes[before.length / 2]? = some b) (hhalf : n ∈ nibbles [b]) :
      Flaw bytes (.digitNibble n (before.length / 2))

@[simp] theorem digitNibbles_concat (body : List UInt8) (last : UInt8) :
    digitNibbles (body ++ [last]) = nibbles body ++ [last.toNat / 16] := by
  simp [digitNibbles]

@[simp] theorem signNibble?_concat (body : List UInt8) (last : UInt8) :
    signNibble? (body ++ [last]) = some (last.toNat % 16) := by
  simp [signNibble?]

theorem length_digitNibbles (bytes : List UInt8) :
    (digitNibbles bytes).length = 2 * bytes.length - 1 := by
  rw [digitNibbles, List.length_dropLast, length_nibbles]

theorem getLast?_nibbles (bytes : List UInt8) : (nibbles bytes).getLast? = signNibble? bytes := by
  obtain rfl | ⟨body, last, rfl⟩ := bytes.eq_nil_or_concat
  · rfl
  · simp

/-- Half-bytes end in the sign, and what is before it is the digits. -/
theorem nibbles_eq_append_iff {bytes : List UInt8} {ds : List Nat} {sign : Nat} :
    nibbles bytes = ds ++ [sign] ↔ digitNibbles bytes = ds ∧ signNibble? bytes = some sign := by
  rw [← getLast?_nibbles, List.getLast?_eq_some_iff, digitNibbles]
  constructor
  · intro h
    exact ⟨by rw [h, List.dropLast_concat], ds, h⟩
  · rintro ⟨rfl, ds, h⟩
    rw [h, List.dropLast_concat]

theorem exists_signNibble {bytes : List UInt8} (h : bytes ≠ []) :
    ∃ nibble, signNibble? bytes = some nibble := by
  obtain rfl | ⟨body, last, rfl⟩ := bytes.eq_nil_or_concat
  · exact absurd rfl h
  · exact ⟨last.toNat % 16, by simp⟩

/-- A half-byte of the digits is one half of the byte in its place. -/
theorem exists_byte_of_digitNibbles {bytes : List UInt8} {before after : List Nat} {n : Nat}
    (h : digitNibbles bytes = before ++ n :: after) :
    ∃ b, bytes[before.length / 2]? = some b ∧ n ∈ nibbles [b] := by
  have hlt : before.length < (digitNibbles bytes).length := by
    rw [h, List.length_append, List.length_cons]
    omega
  have hn : (nibbles bytes)[before.length]? = some n := by
    have hdigit : (digitNibbles bytes)[before.length]? = some n := by rw [h]; simp
    rw [digitNibbles, List.getElem?_dropLast] at hdigit
    split at hdigit
    · exact hdigit
    · cases hdigit
  rw [getElem?_nibbles, Option.map_eq_some_iff] at hn
  obtain ⟨b, hb, rfl⟩ := hn
  refine ⟨b, hb, ?_⟩
  split <;> simp

/-! ### What is read -/

/-- A last digit is worth itself, and makes all others worth ten times as much. -/
theorem digitsValue_concat {n : Nat} (h : n ≤ 9) (ds : List Nat) :
    digitsValue (ds ++ [n]) = 10 * digitsValue ds + n := by
  rw [digitsValue, List.map_append, Nat.ofDigitChars_append, List.map_singleton,
    Nat.ofDigitChars_cons, Nat.ofDigitChars_nil]
  change 10 * digitsValue ds + Text.digitOf (Nat.digitChar n) = _
  rw [Text.digitOf_digitChar (by omega)]

/-- Digits spell their number from the left. -/
theorem digitsValue_eq_ofDigits {ds : List Nat} (h : ∀ n ∈ ds, n ≤ 9) :
    digitsValue ds = Nat.ofDigits 10 ds.reverse := by
  induction ds using List.reverseRecOn with
  | nil => rfl
  | append_singleton ds n ih =>
    have hn : n ≤ 9 := h n (by simp)
    have hds := ih fun m hm => h m (by simp [hm])
    rw [digitsValue_concat hn, List.reverse_append, List.reverse_singleton, List.singleton_append,
      Nat.ofDigits_cons, hds, Nat.add_comm]

section Read

variable {bytes : List UInt8} {scale : Nat} {d : Decimal}

/-- **What is read**: the bytes that are a field, as the number that they spell. -/
theorem decode_eq_ok_iff_isField :
    decode bytes scale = .ok d ↔ IsField bytes ∧
      d = .make (Nat.ofDigits 10 (digitNibbles bytes).reverse) (signNibble? bytes == some 0xD)
        scale := by
  rw [decode_eq_ok_iff]
  constructor
  · rintro ⟨-, ds, sign, negative, hds, hsign, hdigits, rfl⟩
    obtain ⟨rfl, hlast⟩ := nibbles_eq_append_iff.mp hds
    obtain ⟨hgood, rfl⟩ := signOf?_eq_some_iff.mp hsign
    refine ⟨⟨List.length_pos_iff.mpr ?_, ⟨sign, hlast, hgood⟩, hdigits⟩, ?_⟩
    · rintro rfl
      cases hlast
    · rw [digitsValue_eq_ofDigits hdigits, hlast, Int.toNat_natCast]
      rfl
  · rintro ⟨⟨-, ⟨sign, hlast, hgood⟩, hdigits⟩, rfl⟩
    refine ⟨Int.natCast_nonneg scale, _, sign, sign == 0xD, nibbles_eq_append_iff.mpr ⟨rfl, hlast⟩,
      signOf?_eq_some_iff.mpr ⟨hgood, rfl⟩, hdigits, ?_⟩
    rw [digitsValue_eq_ofDigits hdigits, hlast, Int.toNat_natCast]
    rfl

/-- **What is said of bytes that are not read** is their flaw. -/
theorem flaw_of_decode {fault : Fault} (hne : bytes ≠ []) (h : decode bytes scale = .error fault) :
    Flaw bytes fault := by
  have hscale : ¬(scale : Int) < 0 := by omega
  obtain ⟨nibble, hsign⟩ := exists_signNibble hne
  rw [decode, if_neg hscale, getLast?_nibbles, hsign] at h
  dsimp only at h
  split at h
  next hbad =>
    rw [← Except.error.inj h]
    exact .sign hsign (signOf?_eq_none_iff.mp hbad)
  next negative hread =>
    obtain ⟨hgood, -⟩ := signOf?_eq_some_iff.mp hread
    split at h
    next n k hfirst =>
      obtain ⟨before, after, hsplit, hbefore, hn, hk⟩ := exists_append_of_firstNonDigit? hfirst
      obtain ⟨b, hbyte, hhalf⟩ := exists_byte_of_digitNibbles hsplit
      rw [Nat.zero_add] at hk
      rw [← Except.error.inj h, hk]
      exact .digit hsign hgood hsplit hbefore (Nat.lt_of_not_le hn) hbyte hhalf
    · cases h

/-! ### What is read, written again -/

/-- **The number that a field holds fits the field's own count of digits.** -/
theorem fits_of_decode (h : decode bytes scale = .ok d) :
    d.Fits (2 * bytes.length - 1) (!(signNibble? bytes == some 0xF)) := by
  obtain ⟨hfield, -⟩ := decode_eq_ok_iff_isField.mp h
  have hpos := hfield.nonempty
  refine (fits_iff_inRange h (by omega)).mpr ⟨by omega, fun heven => by omega, fun hplain => ?_⟩
  rw [isNegative, getLast?_nibbles, beq_iff_eq.mp hplain]
  rfl

/-- The sign of a field is the one that its number is written with, but for a minus
sign on zero. -/
theorem signFor_of_decode (h : decode bytes scale = .ok d)
    (hkept : ¬(signNibble? bytes = some 0xD ∧ d.unscaled = 0)) :
    signNibble? bytes = some (signFor (signNibble? bytes == some 0xF) d.negative) := by
  obtain ⟨hfield, hd⟩ := decode_eq_ok_iff_isField.mp h
  obtain ⟨sign, hlast, hgood⟩ := hfield.sign
  have hnegative : d.negative = (signNibble? bytes == some 0xD && d.unscaled != 0) := by
    rw [hd]
    rfl
  rw [hlast] at hnegative hkept ⊢
  rcases hgood with rfl | rfl | rfl
  · rw [hnegative]
    rfl
  · have hunscaled : d.unscaled ≠ 0 := fun hzero => hkept ⟨rfl, hzero⟩
    rw [hnegative, bne_iff_ne.mpr hunscaled]
    rfl
  · rfl

/-- Where a field holds zero, another sign is another last byte. -/
theorem nibbles_dropLast_append (hne : bytes ≠ []) (hzero : ∀ n ∈ digitNibbles bytes, n = 0) :
    nibbles (bytes.dropLast ++ [0x0C]) = digitNibbles bytes ++ [0xC] := by
  obtain rfl | ⟨body, last, rfl⟩ := bytes.eq_nil_or_concat
  · exact absurd rfl hne
  rw [List.concat_eq_append] at hzero ⊢
  have hhigh : last.toNat / 16 = 0 := hzero _ (by simp)
  rw [List.dropLast_concat, nibbles_append, digitNibbles_concat, hhigh, List.append_assoc]
  rfl

/-- **A field that is read and written again comes back**, and only zero loses a
minus sign. -/
theorem encode_of_decode (h : decode bytes scale = .ok d) :
    encode d (2 * bytes.length - 1) (signNibble? bytes == some 0xF) =
      .ok (if signNibble? bytes = some 0xD ∧ d.unscaled = 0 then bytes.dropLast ++ [0x0C]
        else bytes) := by
  obtain ⟨⟨hpos, -, hdigits⟩, hd⟩ := decode_eq_ok_iff_isField.mp h
  have hcount : 2 * (bytes.length : Int) - 1 = (2 * bytes.length - 1 : Nat) := by omega
  have hne : bytes ≠ [] := List.length_pos_iff.mp hpos
  rw [hcount, encode_decode h (fits_of_decode h) (by omega)]
  refine congrArg Except.ok (nibbles_injective ?_)
  rw [canonical, nibbles_withSign (signFor_lt _ _) hne, ← negative_of_decode h]
  split
  next hlost =>
    obtain ⟨hminus, hunscaled⟩ := hlost
    have hzero : ∀ n ∈ digitNibbles bytes, n = 0 := by
      rw [← digitsValue_eq_zero_iff hdigits, digitsValue_eq_ofDigits hdigits, ← hunscaled, hd]
      rfl
    rw [nibbles_dropLast_append hne hzero, hminus, d.zero_unsigned hunscaled]
    rfl
  next hkept =>
    exact (nibbles_eq_append_iff.mpr ⟨rfl, signFor_of_decode h hkept⟩).symm

end Read

/-- **The packed field, byte by byte.** All half-bytes but the sign are for digits.
Bytes are read exactly when they are a field, and then as the number that the digits
spell from the left, below zero where the sign is `D` and the digits are not all zero.
Bytes that are not read are refused for their flaw. What was read fits as many digits
as the field has half-bytes for, and written with them it is the field again – in a
field without a sign where the sign is `F`, and with the sign `C` where a zero had
`D`. -/
theorem packedField_format (bytes : List UInt8) (scale : Nat) :
    (digitNibbles bytes).length = 2 * bytes.length - 1 ∧
    ((∃ d, decode bytes scale = .ok d) ↔ IsField bytes) ∧
    (∀ d, decode bytes scale = .ok d →
      d.unscaled = Nat.ofDigits 10 (digitNibbles bytes).reverse ∧
      (d.negative = true ↔ signNibble? bytes = some 0xD ∧ d.unscaled ≠ 0) ∧
      d.scale = scale ∧
      encode d (2 * bytes.length - 1) (signNibble? bytes == some 0xF) =
        .ok (if signNibble? bytes = some 0xD ∧ d.unscaled = 0 then bytes.dropLast ++ [0x0C]
          else bytes)) ∧
    ∀ fault, bytes ≠ [] → decode bytes scale = .error fault → Flaw bytes fault := by
  refine ⟨length_digitNibbles bytes, ?_, fun d h => ?_, fun fault hne h => flaw_of_decode hne h⟩
  · constructor
    · rintro ⟨d, h⟩
      exact (decode_eq_ok_iff_isField.mp h).1
    · intro h
      exact ⟨_, decode_eq_ok_iff_isField.mpr ⟨h, rfl⟩⟩
  · have hwritten := encode_of_decode h
    obtain ⟨-, rfl⟩ := decode_eq_ok_iff_isField.mp h
    refine ⟨rfl, ?_, rfl, hwritten⟩
    rw [Decimal.negative_make, Bool.and_eq_true, beq_iff_eq, bne_iff_ne, Decimal.unscaled_make]

/-- A zero with a minus sign is read, and written with the other sign. -/
example : (decode [0x00, 0x0D] 1).bind (encode · 3 false) = .ok [0x00, 0x0C] := by rfl

end FixedWidth.Packed
