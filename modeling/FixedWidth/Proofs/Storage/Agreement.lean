import FixedWidth.Proofs.Storage.Packed.Format
import FixedWidth.Proofs.Storage.Zoned

/-!
# Packed and zoned fields side by side

The two decimal forms of a field are one number format in different bytes. A number
is refused by both or taken by both, digit for digit the half-bytes of the one are
the second half-bytes of the other, and both are read back as the same number
(`FixedWidth.packed_zoned_agree`).

Both digits and sign go through the one digit text of the number: the packed form
packs it two to a byte (`FixedWidth.Packed.nibbles_bytesOf`), the zoned form puts a
half-byte before each digit (`FixedWidth.Zoned.exists_bytes_of_textOf`). So neither
is compared with the other directly.
-/

namespace FixedWidth

/-! ### The bytes of a zoned field -/

namespace Zoned

open CodePage

/-- The bytes of a digit text, each digit under the half-byte `F`. -/
def digitBytes (cs : List Char) : List UInt8 :=
  cs.map fun c => zoneByte 0xF (Text.digitOf c)

section DigitBytes

variable {cs : List Char} (h : cs.all Char.isDigit = true)

include h

theorem map_cp037Char_digitBytes : (digitBytes cs).map cp037Char = cs := by
  rw [digitBytes, List.map_map]
  refine (List.map_congr_left fun c hc => ?_).trans (List.map_id cs)
  have hdigit := List.all_eq_true.mp h c hc
  exact (cp037Char_digit (Text.digitOf_lt_ten hdigit)).trans (Text.digitChar_digitOf hdigit)

theorem map_mod_digitBytes : (digitBytes cs).map (fun b => b.toNat % 16) = cs.map Text.digitOf := by
  rw [digitBytes, List.map_map]
  refine List.map_congr_left fun c hc => ?_
  have hlt := Text.digitOf_lt_ten (List.all_eq_true.mp h c hc)
  change (zoneByte 0xF (Text.digitOf c)).toNat % 16 = Text.digitOf c
  rw [toNat_zoneByte (by decide) hlt]
  omega

end DigitBytes

/-- **The bytes of a zoned field have its digits in their second half-bytes**,
whether or not the last one has a sign. -/
theorem exists_bytes_of_textOf (d : Decimal) (totalDigits : Nat) (signed : Bool) :
    ∃ bytes : List UInt8, bytes.map cp037Char = textOf d totalDigits signed ∧
      bytes.map (fun b => b.toNat % 16) = (d.digits totalDigits).map Text.digitOf := by
  have hall := d.all_isDigit_digits totalDigits
  cases signed with
  | false => exact ⟨_, map_cp037Char_digitBytes hall, map_mod_digitBytes hall⟩
  | true =>
    obtain ⟨ds, hds⟩ : ∃ ds, (d.digits totalDigits).dropLast = ds := ⟨_, rfl⟩
    have hlast : d.unscaled % 10 < 10 := Nat.mod_lt _ (by decide)
    have hsplit : d.digits totalDigits = ds ++ [Nat.digitChar (d.unscaled % 10)] := by
      rw [← hds, d.dropLast_digits_append]
    have hinit : ds.all Char.isDigit = true := by
      rw [hsplit, List.all_append, Bool.and_eq_true] at hall
      exact hall.1
    refine ⟨digitBytes ds ++ [zoneByte (signZone d.negative) (d.unscaled % 10)], ?_, ?_⟩
    · rw [List.map_append, map_cp037Char_digitBytes hinit, List.map_singleton,
        cp037Char_overpunch d.negative hlast, ← hds]
      rfl
    · have hlow : (16 * signZone d.negative + d.unscaled % 10) % 16 = d.unscaled % 10 := by omega
      rw [hsplit, List.map_append, List.map_append, map_mod_digitBytes hinit, List.map_singleton,
        List.map_singleton, toNat_zoneByte (signZone_lt _) hlast, hlow,
        Text.digitOf_digitChar hlast]

end Zoned

/-! ### One number in both -/

section Agreement

variable {d : Decimal} {totalDigits : Int} {unsigned : Bool}

/-- **A number is taken by both forms or refused by both**, for one reason. -/
theorem encode_packed_zoned (d : Decimal) (totalDigits : Int) (unsigned : Bool) :
    (∃ bytes cs, Packed.encode d totalDigits unsigned = .ok bytes ∧
      Zoned.encode d totalDigits (!unsigned) = .ok cs) ∨
    ∃ fault fault', Packed.encode d totalDigits unsigned = .error fault ∧
      Zoned.encode d totalDigits (!unsigned) = .error fault' ∧ fault.SameKind fault' := by
  rw [Packed.encode, Zoned.encode, Bool.not_not]
  -- the two writers make the same checks in the same order
  split
  · exact .inr ⟨_, _, rfl, rfl, .refl _⟩
  split
  · exact .inr ⟨_, _, rfl, rfl, .refl _⟩
  split
  · exact .inr ⟨_, _, rfl, rfl, rfl, fun h => absurd h (Option.some_ne_none _)⟩
  · exact .inl ⟨_, _, rfl, rfl⟩

/-- **The digits of a packed field are the second half-bytes of the zoned one**,
behind the half-byte that fills an even count of digits up. -/
theorem digitNibbles_eq_zoned {bytes : List UInt8}
    (h : Packed.encode d totalDigits unsigned = .ok bytes) :
    ∃ zoned, Zoned.encodeBytes d totalDigits CodePage.cp037.codec (!unsigned) = .ok zoned ∧
      Packed.digitNibbles bytes =
        (if totalDigits % 2 = 0 then [0] else []) ++ zoned.map fun b => b.toNat % 16 := by
  obtain ⟨hfits, rfl⟩ := Packed.encode_eq_ok_iff.mp h
  have hpos := hfits.totalDigits_pos
  have hparity : totalDigits.toNat % 2 = 0 ↔ totalDigits % 2 = 0 := by omega
  obtain ⟨zoned, hchars, hdigits⟩ :=
    Zoned.exists_bytes_of_textOf d totalDigits.toNat (!unsigned)
  refine ⟨zoned, ?_, ?_⟩
  · rw [Zoned.encodeBytes, Zoned.encode_eq_ok_iff.mpr ⟨hfits, rfl⟩, ok_bind, ← hchars,
      CodePage.encode_cp037]
  · rw [hdigits, (Packed.nibbles_eq_append_iff.mp (Packed.nibbles_bytesOf hfits)).1]
    simp only [hparity]

/-- **The packed and the zoned field of a number agree.** Both refuse it for one kind
of fault or both take it; then the zoned text has as many characters as there are
digits, the digits of the packed bytes are those of the zoned bytes, and both are
read back as one number, which is the one that was written where its own scale is
asked for. -/
theorem packed_zoned_agree (d : Decimal) (totalDigits : Int) (unsigned : Bool) :
    ((∃ bytes cs, Packed.encode d totalDigits unsigned = .ok bytes ∧
        Zoned.encode d totalDigits (!unsigned) = .ok cs) ∨
      ∃ fault fault', Packed.encode d totalDigits unsigned = .error fault ∧
        Zoned.encode d totalDigits (!unsigned) = .error fault' ∧ fault.SameKind fault') ∧
    ∀ bytes cs, Packed.encode d totalDigits unsigned = .ok bytes →
      Zoned.encode d totalDigits (!unsigned) = .ok cs →
      (cs.length : Int) = totalDigits ∧
      (∃ zoned, Zoned.encodeBytes d totalDigits CodePage.cp037.codec (!unsigned) = .ok zoned ∧
        Packed.digitNibbles bytes =
          (if totalDigits % 2 = 0 then [0] else []) ++ zoned.map fun b => b.toNat % 16) ∧
      ∀ scale : Nat, ∃ r, Packed.decode bytes scale = .ok r ∧
        Zoned.decode cs scale (!unsigned) = .ok r ∧ (scale = d.scale → r = d) := by
  refine ⟨encode_packed_zoned d totalDigits unsigned, fun bytes cs hpacked hzoned => ?_⟩
  have hdigits := digitNibbles_eq_zoned hpacked
  obtain ⟨hfits, rfl⟩ := Packed.encode_eq_ok_iff.mp hpacked
  obtain ⟨-, rfl⟩ := Zoned.encode_eq_ok_iff.mp hzoned
  have hpos := hfits.totalDigits_pos
  refine ⟨by rw [Zoned.length_textOf hfits]; omega, hdigits, fun scale => ?_⟩
  have hscale : (0 : Int) ≤ scale := Int.natCast_nonneg scale
  refine ⟨_, Packed.decode_bytesOf hfits hscale, Zoned.decode_textOf hfits hscale, ?_⟩
  rintro rfl
  rw [Int.toNat_natCast, Decimal.make_self]

end Agreement

end FixedWidth
