import FixedWidth.Proofs.Record.Slot

/-!
# Numbers in a binary slot

A binary slot counts in decimal what it lets in and in bytes what it has room for. The
count is the tighter of the two (`FixedWidth.Binary.two_mul_pow_le`), with a sign as
well as without, so that a number that has been let in is always within the bytes: of
the refusals that the writing of an integer has, none is ever met behind those of the
slot (`FixedWidth.Record.encodeBinary_eq`).

`FixedWidth.Record.binarySlot_takes` says what becomes of every number in a field of at
most eighteen digits, the most for which there are bytes. It is refused for its sign,
refused for its digits, or written and read back as it was. No codec has a part in
this.
-/

namespace FixedWidth.Record

open Copybook (Field)

attribute [local irreducible] Field.geometry

variable {f : Field} {signed : Bool} {integerDigits scale totalDigits width : Nat} {v : Value}
  {d : Decimal} {codec : Codec} {raw : List UInt8}

/-- A field of at most eighteen digits has bytes. -/
theorem exists_binaryLength (h : totalDigits ≤ 18) :
    ∃ width, Usage.binaryLength totalDigits = .ok width := by
  rw [Usage.binaryLength, if_pos h]
  split
  · exact ⟨2, rfl⟩
  split
  · exact ⟨4, rfl⟩
  · exact ⟨8, rfl⟩

section Slot

variable (hg : f.geometry = .ok (.numeric signed integerDigits scale))
  (husage : Usage.ofName f.usage = .binary)

include hg husage

/-- A value goes into a binary slot as the number that it is at the slot's scale. -/
theorem encodeSlot_binary (hd : Decimal.coerce v (some scale) {} = .ok d) :
    encodeSlot f v codec = encodeBinary f signed (integerDigits + scale) d := by
  have hnumber : encodeNumber f signed (integerDigits + scale) d codec =
      encodeBinary f signed (integerDigits + scale) d := by rw [encodeNumber, husage]
  rw [encodeSlot, hg, ok_bind, ← hnumber]
  cases v with
  | null => cases hd
  | _ =>
    simp only
    rw [hd, ok_bind]

/-- **A number within the slot's bytes is read as it was written.** -/
theorem decodeSlot_binary (hscale : d.scale = scale) (hwithin : Binary.Within width signed d.signed)
    (hwritten : Binary.write width signed d.signed = .ok raw) :
    decodeSlot f raw codec = .ok (.number d) := by
  rw [Binary.write_eq, if_pos hwithin] at hwritten
  refine (decodeSlot_number_eq_ok_iff hg).mpr ⟨d, ?_, rfl⟩
  rw [decodeNumber, husage, ← Except.ok.inj hwritten]
  change Except.ok (Decimal.ofInt (Binary.decode (Binary.encode width d.signed) signed) scale) = _
  rw [Binary.decode_encode hwithin, ← hscale, Decimal.ofInt_signed]

end Slot

/-- **What becomes of the number `d` in a binary slot of so many digits.** -/
structure TakesBinary (f : Field) (signed : Bool) (totalDigits : Nat) (v : Value) (d : Decimal) :
    Prop where
  /-- A field without a sign refuses a number below zero. -/
  negative_refused (codec : Codec) : d.negative = true → signed = false →
    encodeSlot f v codec = .error (.negativeForBinary f.name)
  /-- After that, a number with too many digits is refused. -/
  overflow_refused (codec : Codec) : ¬(d.negative = true ∧ signed = false) →
    totalDigits < d.digitCount → encodeSlot f v codec = .error (.overflow d.digitCount totalDigits)
  /-- Any other number is within the bytes of the field, all of which it takes, and is
  read back as it was. -/
  read_written : ¬(d.negative = true ∧ signed = false) → d.digitCount ≤ totalDigits →
    ∃ width raw, f.storageLength = .ok width ∧ Binary.write width signed d.signed = .ok raw ∧
      raw.length = width ∧ (∀ codec, encodeSlot f v codec = .ok raw) ∧
      ∀ codec, decodeSlot f raw codec = .ok (.number d)

/-- **A binary field never overflows its bytes**: of the numbers that a value can become,
it refuses those that it has not the sign or the digits for, and keeps all others. -/
theorem binarySlot_takes (hg : f.geometry = .ok (.numeric signed integerDigits scale))
    (hdigits : integerDigits + scale ≤ 18) (husage : Usage.ofName f.usage = .binary)
    (hd : Decimal.coerce v (some scale) {} = .ok d) :
    TakesBinary f signed (integerDigits + scale) v d where
  negative_refused codec hnegative hunsigned := by
    rw [encodeSlot_binary hg husage hd, encodeBinary_eq, if_pos ⟨hnegative, hunsigned⟩]
  overflow_refused codec hsign hlong := by
    rw [encodeSlot_binary hg husage hd, encodeBinary_eq, if_neg hsign, if_pos hlong]
  read_written hsign hfew := by
    obtain ⟨width, hwidth⟩ := exists_binaryLength hdigits
    have hfits : d.Fits (integerDigits + scale) signed :=
      Decimal.fits_iff_not_refused.mpr ⟨hsign, Nat.not_lt.mpr hfew⟩
    have hwithin := Binary.within_of_fits hfits hwidth
    have hwritten : Binary.write width signed d.signed = .ok (Binary.encode width d.signed) :=
      (Binary.write_eq ..).trans (if_pos hwithin)
    -- there are too few places for the scale to be beyond the finest one
    have hfinest : scale ≤ finestScale := by
      rw [finestScale]
      omega
    have hscale : d.scale = scale := Decimal.scale_of_coerce hfinest hd
    refine ⟨width, _, ?_, hwritten, Binary.length_encode _ _, fun codec => ?_, fun codec => ?_⟩
    · refine storageLength_eq_ok_iff.mpr (.inr ⟨signed, integerDigits, scale, hg, ?_⟩)
      rwa [husage]
    · rw [encodeSlot_binary hg husage hd]
      exact encodeBinary_eq_ok_iff.mpr ⟨hfits, width, hwidth, rfl⟩
    · exact decodeSlot_binary hg husage hscale hwithin hwritten

/-- A balance that fills all eighteen digits below zero is kept in eight bytes. -/
theorem balance_takes :
    Field.geometry ⟨"BALANCE", "S9(16)V99", some "comp-5", 1⟩ = .ok (.numeric true 16 2) ∧
      Usage.ofName (some "comp-5") = .binary ∧
      Decimal.coerce (.text "-9999999999999999.985") (some 2) {} =
        .ok (.make 999999999999999999 true 2) ∧
      ∃ raw, raw.length = 8 ∧
        encodeSlot ⟨"BALANCE", "S9(16)V99", some "comp-5", 1⟩ (.text "-9999999999999999.985")
          CodePage.cp037.codec = .ok raw ∧
        decodeSlot ⟨"BALANCE", "S9(16)V99", some "comp-5", 1⟩ raw CodePage.cp037.codec =
          .ok (.number (.make 999999999999999999 true 2)) := by
  have hg : Field.geometry ⟨"BALANCE", "S9(16)V99", some "comp-5", 1⟩ =
      .ok (.numeric true 16 2) := by decide +kernel
  have husage : Usage.ofName (some "comp-5") = .binary := by decide +kernel
  have hd : Decimal.coerce (.text "-9999999999999999.985") (some 2) {} =
      .ok (.make 999999999999999999 true 2) := by decide +kernel
  refine ⟨hg, husage, hd, ?_⟩
  obtain ⟨width, raw, hwidth, -, hlength, hwritten, hread⟩ :=
    (binarySlot_takes hg (by decide) husage hd).read_written (by decide) (by decide +kernel)
  have height : Field.storageLength ⟨"BALANCE", "S9(16)V99", some "comp-5", 1⟩ = .ok 8 := by
    decide +kernel
  obtain rfl := Except.ok.inj (hwidth.symm.trans height)
  exact ⟨raw, hlength, hwritten CodePage.cp037.codec, hread CodePage.cp037.codec⟩

end FixedWidth.Record
