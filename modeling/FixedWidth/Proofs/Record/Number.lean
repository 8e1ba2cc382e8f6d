import FixedWidth.Proofs.Storage.Binary
import FixedWidth.Proofs.Storage.Packed
import FixedWidth.Proofs.Storage.Zoned
import FixedWidth.Record.Codec

/-!
# Numbers in a slot

The three ways of storing a number, brought to one form. Whatever the usage, a
slot takes only numbers that fit it (`FixedWidth.Record.fits_of_encodeNumber`),
fills the bytes of its field (`FixedWidth.Record.length_of_encodeNumber`), gives back
the number that was written (`FixedWidth.Record.decodeNumber_of_encodeNumber`), and is
written as it was read where what was read fits
(`FixedWidth.Record.encodeNumber_of_decodeNumber`).

They differ in what can be read without fitting. A zoned slot has one character
to a digit and no room for more; the other two are cut to whole bytes and have
some, which `FixedWidth.Record.NumberInRange` leaves unused.
-/

namespace FixedWidth.Record

open Copybook (Field)

variable {f : Field} {signed : Bool} {totalDigits scale width : Nat} {d : Decimal} {codec : Codec}
  {raw : List UInt8}

/-! ### Written and read back -/

/-- **What becomes of a number in a binary slot.** The sign is looked at first, then the
digits; what gets past both is within the bytes, so that writing them does not fail. -/
theorem encodeBinary_eq (f : Field) (signed : Bool) (totalDigits : Nat) (d : Decimal) :
    encodeBinary f signed totalDigits d =
      if d.negative = true ∧ signed = false then .error (.negativeForBinary f.name)
      else if totalDigits < d.digitCount then .error (.overflow d.digitCount totalDigits)
      else (Usage.binaryLength totalDigits).map (Binary.encode · d.signed) := by
  have hsign : (d.negative && !signed) = true ↔ d.negative = true ∧ signed = false := by simp
  rw [encodeBinary]
  simp only [hsign]
  by_cases hs : d.negative = true ∧ signed = false
  · rw [if_pos hs, if_pos hs]
    rfl
  by_cases hd : totalDigits < d.digitCount
  · rw [if_neg hs, if_neg hs, if_pos hd, if_pos hd]
    rfl
  have hfits : d.Fits totalDigits signed := Decimal.fits_iff_not_refused.mpr ⟨hs, hd⟩
  rw [if_neg hs, if_neg hs, if_neg hd, if_neg hd]
  cases hwidth : Usage.binaryLength totalDigits with
  | error fault => rfl
  | ok width => exact (Binary.write_eq ..).trans (if_pos (Binary.within_of_fits hfits hwidth))

/-- **What a binary slot takes**: the numbers that fit it. -/
theorem encodeBinary_eq_ok_iff :
    encodeBinary f signed totalDigits d = .ok raw ↔ d.Fits totalDigits signed ∧
      ∃ width, Usage.binaryLength totalDigits = .ok width ∧ raw = Binary.encode width d.signed := by
  rw [encodeBinary_eq, Decimal.fits_iff_not_refused]
  by_cases hs : d.negative = true ∧ signed = false
  · rw [if_pos hs]
    exact iff_of_false (fun h => nomatch h) fun h => h.1.1 hs
  by_cases hd : totalDigits < d.digitCount
  · rw [if_neg hs, if_pos hd]
    exact iff_of_false (fun h => nomatch h) fun h => h.1.2 hd
  rw [if_neg hs, if_neg hd, and_iff_right ⟨hs, hd⟩, map_eq_ok_iff]
  exact exists_congr fun width => and_congr_right fun _ => eq_comm

/-- **A slot takes only numbers that fit it.** -/
theorem fits_of_encodeNumber (h : encodeNumber f signed totalDigits d codec = .ok raw) :
    d.Fits totalDigits signed := by
  unfold encodeNumber at h
  split at h
  · simpa using (Packed.encode_eq_ok_iff.mp h).1
  · exact (encodeBinary_eq_ok_iff.mp h).1
  · obtain ⟨cs, hcs, -⟩ := bind_eq_ok_iff.mp h
    exact (Zoned.encode_eq_ok_iff.mp hcs).1

section Written

variable (hwidth : (Usage.ofName f.usage).numericLength totalDigits = .ok width)
  (h : encodeNumber f signed totalDigits d codec = .ok raw)

include hwidth h

/-- **A number takes the bytes of its field**, whatever the number is. -/
theorem length_of_encodeNumber (single : codec.IsSingleByte) : raw.length = width := by
  unfold encodeNumber at h
  cases husage : Usage.ofName f.usage with
  | display =>
    simp only [husage] at h hwidth
    exact (Zoned.length_of_encodeBytes single h).trans (Except.ok.inj hwidth)
  | packed =>
    simp only [husage] at h hwidth
    obtain ⟨hfits, rfl⟩ := Packed.encode_eq_ok_iff.mp h
    rw [Packed.length_bytesOf hfits, ← Except.ok.inj hwidth, Packed.length]
    omega
  | binary =>
    simp only [husage] at h hwidth
    obtain ⟨-, w, hw, rfl⟩ := encodeBinary_eq_ok_iff.mp h
    rw [Binary.length_encode]
    exact Except.ok.inj (hw.symm.trans hwidth)
  | unsupported name =>
    -- such a field has no bytes at all
    rw [husage] at hwidth
    cases hwidth

/-- **A slot gives back the number that was written**, with the places of the
field. A codec has a part in this only where the number is written in characters. -/
theorem decodeNumber_of_encodeNumber
    (undoes : ∀ cs, Usage.ofName f.usage = .display →
      Zoned.encode d totalDigits signed = .ok cs → codec.Undoes cs) (scale : Nat) :
    decodeNumber f signed scale raw codec = .ok (.make d.unscaled d.negative scale) := by
  unfold encodeNumber at h
  unfold decodeNumber
  cases husage : Usage.ofName f.usage with
  | display =>
    simp only [husage] at h ⊢
    exact Zoned.decodeBytes_of_encodeBytes (fun cs => undoes cs husage) h (Int.natCast_nonneg _)
  | packed =>
    simp only [husage] at h ⊢
    obtain ⟨hfits, rfl⟩ := Packed.encode_eq_ok_iff.mp h
    exact Packed.decode_bytesOf hfits (Int.natCast_nonneg scale)
  | binary =>
    simp only [husage] at h ⊢
    obtain ⟨hfits, w, hw, rfl⟩ := encodeBinary_eq_ok_iff.mp h
    refine congrArg Except.ok ?_
    rw [Binary.decode_encode (Binary.within_of_fits hfits hw), ← d.signed_make_self scale]
    exact Decimal.ofInt_signed _
  | unsupported name =>
    rw [husage] at hwidth
    cases hwidth

end Written

/-! ### Read and written again -/

/-- **Whether a slot's bytes hold a number that the slot takes**, once they can be
read. -/
def NumberInRange (f : Field) (signed : Bool) (totalDigits : Nat) (raw : List UInt8) : Prop :=
  match Usage.ofName f.usage with
  | .packed => Packed.InRange totalDigits (!signed) raw
  | .binary => Binary.InRange totalDigits signed raw
  | _ => True

instance (f : Field) (signed : Bool) (totalDigits : Nat) (raw : List UInt8) :
    Decidable (NumberInRange f signed totalDigits raw) := by
  unfold NumberInRange
  split <;> infer_instance

/-- **The bytes as a writer would leave them**: packed and zoned ones with the
writer's own sign, binary ones as they are. -/
def canonicalNumber (f : Field) (signed : Bool) (raw : List UInt8) : List UInt8 :=
  match Usage.ofName f.usage with
  | .packed => Packed.canonical (!signed) raw
  | .binary => raw
  | _ => Zoned.canonicalBytes signed raw

section Read

variable (hwidth : (Usage.ofName f.usage).numericLength totalDigits = .ok width)
  (hlen : raw.length = width) (h : decodeNumber f signed scale raw CodePage.cp037.codec = .ok d)

include hwidth hlen h

/-- **What was read fits exactly when the bytes are in range.** -/
theorem fits_iff_numberInRange :
    d.Fits totalDigits signed ↔ NumberInRange f signed totalDigits raw := by
  unfold decodeNumber at h
  unfold NumberInRange
  cases husage : Usage.ofName f.usage with
  | display =>
    simp only [husage] at h hwidth ⊢
    have hfits := Zoned.fits_of_decodeBytes h
    rw [hlen, ← Except.ok.inj hwidth] at hfits
    exact iff_of_true hfits trivial
  | packed =>
    simp only [husage] at h hwidth ⊢
    have hbytes : raw.length = totalDigits / 2 + 1 := by
      rw [hlen, ← Except.ok.inj hwidth, Packed.length]
      omega
    rw [← Packed.fits_iff_inRange h hbytes, Bool.not_not]
  | binary =>
    simp only [husage] at h ⊢
    rw [← Except.ok.inj h]
    exact Binary.fits_iff_inRange
  | unsupported name =>
    -- such a field has no bytes at all
    rw [husage] at hwidth
    cases hwidth

/-- **A number that was read and fits is written as it was read**, but for the
sign. -/
theorem encodeNumber_of_decodeNumber (hfits : d.Fits totalDigits signed) :
    encodeNumber f signed totalDigits d CodePage.cp037.codec =
      .ok (canonicalNumber f signed raw) := by
  unfold decodeNumber at h
  unfold encodeNumber canonicalNumber
  cases husage : Usage.ofName f.usage with
  | display =>
    simp only [husage] at h hwidth ⊢
    have hwritten := Zoned.encodeBytes_of_decodeBytes h
    rwa [hlen, ← Except.ok.inj hwidth] at hwritten
  | packed =>
    simp only [husage] at h hwidth ⊢
    refine Packed.encode_decode h (by rwa [Bool.not_not]) ?_
    rw [hlen, ← Except.ok.inj hwidth, Packed.length]
    omega
  | binary =>
    simp only [husage] at h hwidth ⊢
    refine encodeBinary_eq_ok_iff.mpr ⟨hfits, width, hwidth, ?_⟩
    rw [← Except.ok.inj h, Decimal.signed_ofInt, ← hlen, Binary.encode_decode]
  | unsupported name =>
    -- such a field has no bytes at all
    rw [husage] at hwidth
    cases hwidth

end Read

/-- A number is read with the places of its field. -/
theorem scale_of_decodeNumber (h : decodeNumber f signed scale raw codec = .ok d) :
    d.scale = scale := by
  unfold decodeNumber at h
  split at h
  · exact Packed.scale_of_decode h
  · rw [← Except.ok.inj h, Decimal.scale_ofInt]
  · obtain ⟨cs, -, hcs⟩ := bind_eq_ok_iff.mp h
    exact Zoned.scale_of_decode hcs

end FixedWidth.Record
