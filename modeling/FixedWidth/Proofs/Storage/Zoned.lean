import FixedWidth.Proofs.Fault
import FixedWidth.Proofs.Number.Digits
import FixedWidth.Proofs.Storage.CodePage
import FixedWidth.Storage.Zoned

/-!
# Zoned decimal, written and read back

A zoned field is a digit text, the last digit of which carries the sign where the
field has one. Unlike a packed field it has exactly as many characters as digits,
so that whatever can be read fits (`FixedWidth.Zoned.fits_of_decode`), and is
written as it was but for a minus sign on zero
(`FixedWidth.Zoned.encode_decode`, by `FixedWidth.Zoned.canonical`).

In the first of the EBCDIC pages the same holds of bytes, where the one change is
that of `D0` to `C0` (`FixedWidth.Zoned.canonicalBytes`).
-/

namespace FixedWidth.Zoned

/-! ### The last character -/

/-- Every character outside the two tables is refused. -/
theorem readOverpunch?_eq_none_iff {c : Char} :
    readOverpunch? c = none ↔ c ∉ positiveZones ++ negativeZones := by
  rw [List.mem_append, not_or, ← List.idxOf?_eq_none_iff, ← List.idxOf?_eq_none_iff,
    readOverpunch?]
  cases positiveZones.idxOf? c with
  | some digit => simp
  | none => simp

/-- Only the characters of the two tables carry a digit and a sign. -/
theorem readOverpunch?_eq_some_iff {c : Char} {digit : Nat} {negative : Bool} :
    readOverpunch? c = some (digit, negative) ↔ digit < 10 ∧ c = overpunch negative digit := by
  constructor
  · intro h
    have hmem : c ∈ positiveZones ++ negativeZones := by
      refine Decidable.byContradiction fun hc => ?_
      rw [readOverpunch?_eq_none_iff.mpr hc] at h
      cases h
    have htables : ((positiveZones ++ negativeZones).all fun c =>
        (readOverpunch? c).all fun p => p.1 < 10 && c == overpunch p.2 p.1) = true := by decide
    have hread := List.all_eq_true.mp htables c hmem
    rw [h] at hread
    simpa using hread
  · rintro ⟨hdigit, rfl⟩
    exact readOverpunch?_overpunch negative hdigit

/-! ### What is read -/

/-- **What a field with a sign holds**: digits, and a last one that carries the
sign. -/
theorem decode_signed_eq_ok_iff {cs : List Char} {scale : Int} {d : Decimal} :
    decode cs scale true = .ok d ↔ 0 ≤ scale ∧ ∃ ds digit negative,
      cs = ds ++ [overpunch negative digit] ∧ digit < 10 ∧ ds.all Char.isDigit = true ∧
      d = .make (Nat.ofDigitChars 10 (ds ++ [Nat.digitChar digit]) 0) negative scale.toNat := by
  constructor
  · intro h
    unfold decode at h
    split at h
    · cases h
    next hscale =>
    refine ⟨by omega, ?_⟩
    cases hlast : cs.getLast? with
    | none => simp [hlast] at h
    | some last =>
      obtain ⟨ds, rfl⟩ := List.getLast?_eq_some_iff.mp hlast
      cases hbad : Text.firstNonDigit? 0 ds with
      | some bad => simp [hbad] at h
      | none =>
        cases hsign : readOverpunch? last with
        | none => simp [hbad, hsign] at h
        | some read =>
          obtain ⟨digit, negative⟩ := read
          obtain ⟨hdigit, rfl⟩ := readOverpunch?_eq_some_iff.mp hsign
          simp only [List.getLast?_concat, if_true, List.dropLast_concat, hbad, hsign,
            Except.ok.injEq] at h
          exact ⟨ds, digit, negative, rfl, hdigit, Text.firstNonDigit?_eq_none_iff.mp hbad, h.symm⟩
  · rintro ⟨hscale, ds, digit, negative, rfl, hdigit, hds, rfl⟩
    have hneg : ¬scale < 0 := by omega
    simp [decode, hneg, Text.firstNonDigit?_eq_none_iff.mpr hds,
      readOverpunch?_overpunch negative hdigit]

/-- **What a field without a sign holds**: digits, at least one. -/
theorem decode_unsigned_eq_ok_iff {cs : List Char} {scale : Int} {d : Decimal} :
    decode cs scale false = .ok d ↔ 0 ≤ scale ∧ cs ≠ [] ∧ cs.all Char.isDigit = true ∧
      d = .make (Nat.ofDigitChars 10 cs 0) false scale.toNat := by
  constructor
  · intro h
    unfold decode at h
    split at h
    · cases h
    next hscale =>
    refine ⟨by omega, ?_⟩
    cases hlast : cs.getLast? with
    | none => simp [hlast] at h
    | some last =>
      obtain ⟨ds, hds⟩ := List.getLast?_eq_some_iff.mp hlast
      cases hbad : Text.firstNonDigit? 0 cs with
      | some bad => simp [hlast, hbad] at h
      | none =>
        simp only [hlast, Bool.false_eq_true, if_false, hbad, Except.ok.injEq] at h
        exact ⟨by simp [hds], Text.firstNonDigit?_eq_none_iff.mp hbad, h.symm⟩
  · rintro ⟨hscale, hne, hcs, rfl⟩
    have hneg : ¬scale < 0 := by omega
    have hlast : cs.getLast? = some (cs.getLast hne) := List.getLast?_eq_some_getLast hne
    simp [decode, hneg, hlast, Text.firstNonDigit?_eq_none_iff.mpr hcs]

/-- What is read has the places that the reader was told. -/
theorem scale_of_decode {cs : List Char} {scale : Int} {signed : Bool} {d : Decimal}
    (h : decode cs scale signed = .ok d) : d.scale = scale.toNat := by
  cases signed with
  | false =>
    obtain ⟨-, -, -, rfl⟩ := decode_unsigned_eq_ok_iff.mp h
    rfl
  | true =>
    obtain ⟨-, ds, digit, negative, -, -, -, rfl⟩ := decode_signed_eq_ok_iff.mp h
    rfl

/-! ### What is written -/

/-- **What a zoned field takes**: the numbers that fit it. -/
theorem encode_eq_ok_iff {d : Decimal} {totalDigits : Int} {signed : Bool} {cs : List Char} :
    encode d totalDigits signed = .ok cs ↔
      d.Fits totalDigits.toNat signed ∧ cs = textOf d totalDigits.toNat signed := by
  rw [Decimal.fits_toNat_iff]
  unfold encode
  -- each check that refuses a number is one that the number has to pass to fit
  split
  next hn => exact iff_of_false (fun h => nomatch h) fun h => h.1.1 hn
  next hn =>
  split
  next hd => exact iff_of_false (fun h => nomatch h) fun h => h.1.2.1 hd
  next hd =>
  split
  next hs => exact iff_of_false (fun h => nomatch h) fun h => h.1.2.2 hs
  next hs => rw [and_iff_right ⟨hn, hd, hs⟩, Except.ok.injEq, eq_comm]

theorem length_textOf {d : Decimal} {totalDigits : Nat} {signed : Bool}
    (h : d.Fits totalDigits signed) : (textOf d totalDigits signed).length = totalDigits := by
  have hlen := Decimal.length_digits_eq h.digitCount_le
  have hpos := h.totalDigits_pos
  cases signed with
  | false => exact hlen
  | true =>
    simp only [textOf, if_true, List.length_append, List.length_dropLast, List.length_singleton,
      hlen]
    omega

/-- **A zoned field is read back as the number that was written**, with as many
places as the reader is told. -/
theorem decode_textOf {d : Decimal} {totalDigits : Nat} {signed : Bool}
    (h : d.Fits totalDigits signed) {scale : Int} (hscale : 0 ≤ scale) :
    decode (textOf d totalDigits signed) scale signed =
      .ok (.make d.unscaled d.negative scale.toNat) := by
  have hall := d.all_isDigit_digits totalDigits
  cases signed with
  | false =>
    refine decode_unsigned_eq_ok_iff.mpr ⟨hscale, d.digits_ne_nil totalDigits, hall, ?_⟩
    change _ = Decimal.make (Nat.ofDigitChars 10 (d.digits totalDigits) 0) false _
    rw [Decimal.ofDigitChars_digits, h.nonnegative rfl]
  | true =>
    refine decode_signed_eq_ok_iff.mpr ⟨hscale, (d.digits totalDigits).dropLast, d.unscaled % 10,
      d.negative, rfl, Nat.mod_lt _ (by decide), ?_, ?_⟩
    · rw [List.all_eq_true] at hall ⊢
      exact fun c hc => hall c (List.dropLast_subset _ hc)
    · rw [d.dropLast_digits_append, Decimal.ofDigitChars_digits]

/-! ### What is read, written again -/

/-- Whether a text is a zero with a minus sign. -/
def isNegativeZero (cs : List Char) : Bool :=
  cs.getLast? == some '\x7d' && cs.dropLast.all (· == '0')

/-- **The text as a writer would leave it**: zero without a minus sign. -/
def canonical (signed : Bool) (cs : List Char) : List Char :=
  if signed && isNegativeZero cs then cs.dropLast ++ ['\x7b'] else cs

/-- Zero is written in one way. -/
theorem overpunch_eq_brace_iff {negative : Bool} {digit : Nat} (h : digit < 10) :
    overpunch negative digit = '\x7d' ↔ negative = true ∧ digit = 0 := by
  have hall : ∀ negative : Bool, ∀ digit ∈ List.range 10,
      (overpunch negative digit = '\x7d' ↔ negative = true ∧ digit = 0) := by decide
  exact hall negative digit (List.mem_range.mpr h)

section Signed

variable {ds : List Char} {digit : Nat} (hds : ds.all Char.isDigit = true) (hdigit : digit < 10)

include hds hdigit

theorem all_isDigit_append : (ds ++ [Nat.digitChar digit]).all Char.isDigit = true := by
  have hlast : (Nat.digitChar digit).isDigit = true := Text.isDigit_digitChar_of_le (by omega)
  rw [List.all_append, hds, List.all_cons, hlast]
  rfl

/-- The text of a number that was read from a field with a sign: its digits, and
the last one with the number's sign. -/
theorem textOf_make (negative : Bool) (scale : Nat) :
    textOf (.make (Nat.ofDigitChars 10 (ds ++ [Nat.digitChar digit]) 0) negative scale)
        (ds.length + 1) true =
      ds ++ [overpunch (negative && Nat.ofDigitChars 10 (ds ++ [Nat.digitChar digit]) 0 != 0)
        digit] := by
  obtain ⟨d, hd⟩ : ∃ d, Decimal.make (Nat.ofDigitChars 10 (ds ++ [Nat.digitChar digit]) 0)
      negative scale = d := ⟨_, rfl⟩
  have hvalue : d.unscaled = Nat.ofDigitChars 10 (ds ++ [Nat.digitChar digit]) 0 := by
    rw [← hd, Decimal.unscaled_make]
  have hdigits : d.digits (ds.length + 1) = ds ++ [Nat.digitChar digit] := by
    have hlen : ds.length + 1 = (ds ++ [Nat.digitChar digit]).length := by simp
    rw [hlen]
    exact Decimal.digits_eq (all_isDigit_append hds hdigit) (by simp) hvalue.symm
  have hmod : d.unscaled % 10 = digit := by
    rw [hvalue, Text.ofDigitChars_append_singleton (Text.isDigit_digitChar_of_le (by omega)),
      Text.digitOf_digitChar hdigit]
  have hsign : d.negative =
      (negative && Nat.ofDigitChars 10 (ds ++ [Nat.digitChar digit]) 0 != 0) := by
    rw [← hd, Decimal.negative_make]
  simp only [hd, textOf, if_true, hdigits, List.dropLast_concat, hmod, hsign]

/-- Digits spell zero only where all of them are zero, the last one too. -/
theorem ofDigitChars_concat_eq_zero_iff :
    Nat.ofDigitChars 10 (ds ++ [Nat.digitChar digit]) 0 = 0 ↔
      ds.all (· == '0') = true ∧ digit = 0 := by
  rw [Text.ofDigitChars_eq_zero_iff (all_isDigit_append hds hdigit), List.forall_mem_append]
  simp

/-- A writer's own text has a minus sign only where the number is below zero. -/
theorem canonical_append (negative : Bool) :
    canonical true (ds ++ [overpunch negative digit]) =
      ds ++ [overpunch (negative && Nat.ofDigitChars 10 (ds ++ [Nat.digitChar digit]) 0 != 0)
        digit] := by
  have hzero := ofDigitChars_concat_eq_zero_iff hds hdigit
  have hbrace : (some (overpunch negative digit) == some '\x7d') =
      decide (negative = true ∧ digit = 0) := by
    rw [Bool.eq_iff_iff, beq_iff_eq, Option.some.injEq, overpunch_eq_brace_iff hdigit,
      decide_eq_true_eq]
  simp only [canonical, isNegativeZero, List.getLast?_concat, List.dropLast_concat, Bool.true_and,
    hbrace]
  cases negative with
  | false => simp
  | true =>
    by_cases hval : Nat.ofDigitChars 10 (ds ++ [Nat.digitChar digit]) 0 = 0
    · obtain ⟨hall, rfl⟩ := hzero.mp hval
      rw [hval, hall]
      rfl
    · have hcond : (decide (true = true ∧ digit = 0) && ds.all (· == '0')) = false := by
        rw [Bool.eq_false_iff]
        intro h
        obtain ⟨hdig, hall⟩ := Bool.and_eq_true_iff.mp h
        exact hval (hzero.mpr ⟨hall, (decide_eq_true_iff.mp hdig).2⟩)
      rw [hcond, bne_iff_ne.mpr hval]
      rfl

end Signed

/-- **Whatever can be read fits the field that it was read from.** -/
theorem fits_of_decode {cs : List Char} {scale : Int} {signed : Bool} {d : Decimal}
    (h : decode cs scale signed = .ok d) : d.Fits cs.length signed := by
  cases signed with
  | false =>
    obtain ⟨-, hne, hall, rfl⟩ := decode_unsigned_eq_ok_iff.mp h
    exact ⟨Decimal.digitCount_le_length hall hne rfl, fun _ => rfl⟩
  | true =>
    obtain ⟨-, ds, digit, negative, rfl, hdigit, hds, rfl⟩ := decode_signed_eq_ok_iff.mp h
    refine ⟨?_, fun hs => nomatch hs⟩
    have hlen : (ds ++ [overpunch negative digit]).length =
        (ds ++ [Nat.digitChar digit]).length := by simp
    rw [hlen]
    exact Decimal.digitCount_le_length (all_isDigit_append hds hdigit) (by simp) rfl

/-- **A field that is read and written again comes back as it was**, but for a
minus sign on zero. -/
theorem encode_decode {cs : List Char} {scale : Int} {signed : Bool} {d : Decimal}
    (h : decode cs scale signed = .ok d) :
    encode d cs.length signed = .ok (canonical signed cs) := by
  refine encode_eq_ok_iff.mpr ⟨fits_of_decode h, ?_⟩
  rw [Int.toNat_natCast]
  cases signed with
  | false =>
    obtain ⟨-, hne, hall, rfl⟩ := decode_unsigned_eq_ok_iff.mp h
    exact (Decimal.digits_eq hall hne rfl).symm
  | true =>
    obtain ⟨-, ds, digit, negative, rfl, hdigit, hds, rfl⟩ := decode_signed_eq_ok_iff.mp h
    rw [List.length_append, List.length_singleton, textOf_make hds hdigit,
      canonical_append hds hdigit]

/-! ### In bytes -/

section Bytes

variable {d : Decimal} {totalDigits : Int} {codec : Codec} {signed : Bool} {bytes : List UInt8}

/-- **A field takes as many bytes as it has digits** where a character takes one. -/
theorem length_of_encodeBytes (single : codec.IsSingleByte)
    (h : encodeBytes d totalDigits codec signed = .ok bytes) :
    bytes.length = totalDigits.toNat := by
  obtain ⟨cs, hcs, hbytes⟩ := bind_eq_ok_iff.mp h
  obtain ⟨hfits, rfl⟩ := encode_eq_ok_iff.mp hcs
  rw [single hbytes, length_textOf hfits]

/-- **What is written in bytes is read back** where the codec reads the text of
the number back. -/
theorem decodeBytes_of_encodeBytes
    (undoes : ∀ cs, encode d totalDigits signed = .ok cs → codec.Undoes cs)
    (h : encodeBytes d totalDigits codec signed = .ok bytes) {scale : Int} (hscale : 0 ≤ scale) :
    decodeBytes bytes scale codec signed = .ok (.make d.unscaled d.negative scale.toNat) := by
  obtain ⟨cs, hcs, hbytes⟩ := bind_eq_ok_iff.mp h
  obtain ⟨hfits, rfl⟩ := encode_eq_ok_iff.mp hcs
  rw [decodeBytes, undoes _ hcs hbytes, ok_bind, decode_textOf hfits hscale]

end Bytes

/-- **The bytes as a writer would leave them** in the first of the EBCDIC pages:
zero without a minus sign. -/
def canonicalBytes (signed : Bool) (bytes : List UInt8) : List UInt8 :=
  if signed && (bytes.getLast? == some 0xD0 && bytes.dropLast.all (· == 0xF0)) then
    bytes.dropLast ++ [0xC0]
  else bytes

/-- The byte of a digit under a first half-byte. -/
def zoneByte (zone digit : Nat) : UInt8 :=
  UInt8.ofNat (16 * zone + digit)

/-- The first half-byte of a last digit: that of its sign. -/
def signZone (negative : Bool) : Nat :=
  if negative then 0xD else 0xC

theorem signZone_lt (negative : Bool) : signZone negative < 16 := by
  cases negative <;> decide

theorem toNat_zoneByte {zone digit : Nat} (hzone : zone < 16) (hdigit : digit < 10) :
    (zoneByte zone digit).toNat = 16 * zone + digit :=
  UInt8.toNat_ofNat_of_lt' (show 16 * zone + digit < 256 by omega)

section Cp037

open CodePage

/-- **A digit has the half-byte `F` before it.** -/
theorem cp037Char_digit {digit : Nat} (h : digit < 10) :
    cp037Char (zoneByte 0xF digit) = Nat.digitChar digit := by
  have all : ∀ digit ∈ List.range 10, cp037Char (zoneByte 0xF digit) = Nat.digitChar digit := by
    decide +kernel
  exact all digit (List.mem_range.mpr h)

/-- **A last digit has the half-byte of its sign before it.** -/
theorem cp037Char_overpunch (negative : Bool) {digit : Nat} (h : digit < 10) :
    cp037Char (zoneByte (signZone negative) digit) = overpunch negative digit := by
  have all : ∀ negative : Bool, ∀ digit ∈ List.range 10,
      cp037Char (zoneByte (signZone negative) digit) = overpunch negative digit := by
    decide +kernel
  exact all negative digit (List.mem_range.mpr h)

theorem cp037Char_beq (b : UInt8) {c : Char} {b' : UInt8} (h : cp037Char b' = c) :
    (cp037Char b == c) = (b == b') := by
  rw [Bool.eq_iff_iff, beq_iff_eq, beq_iff_eq, ← h]
  exact ⟨cp037Char_injective, congrArg cp037Char⟩

/-- The writer's own bytes are the bytes of the writer's own text. -/
theorem map_canonicalBytes (signed : Bool) (bytes : List UInt8) :
    (canonicalBytes signed bytes).map cp037Char = canonical signed (bytes.map cp037Char) := by
  have hminus : cp037Char 0xD0 = '\x7d' := rfl
  have hzero : cp037Char 0xF0 = '0' := rfl
  have hplus : cp037Char 0xC0 = '\x7b' := rfl
  have hlast : ((bytes.map cp037Char).getLast? == some '\x7d') =
      (bytes.getLast? == some 0xD0) := by
    rw [List.getLast?_map]
    cases bytes.getLast? with
    | none => rfl
    | some b => exact cp037Char_beq b hminus
  have hinit : (bytes.map cp037Char).dropLast.all (· == '0') =
      bytes.dropLast.all (· == 0xF0) := by
    rw [← List.map_dropLast, List.all_map]
    exact congrArg (bytes.dropLast.all ·) (funext fun b => cp037Char_beq b hzero)
  rw [canonicalBytes, canonical, isNegativeZero, hlast, hinit]
  split
  · rw [List.map_append, List.map_dropLast, List.map_singleton, hplus]
  · rfl

/-- Bytes are read as the text that they are. -/
theorem decodeBytes_cp037 (bytes : List UInt8) (scale : Int) (signed : Bool) :
    decodeBytes bytes scale cp037.codec signed = decode (bytes.map cp037Char) scale signed := by
  rw [decodeBytes, decode_cp037, ok_bind]

/-- What can be read fits the field that it was read from. -/
theorem fits_of_decodeBytes {bytes : List UInt8} {scale : Int} {signed : Bool} {d : Decimal}
    (h : decodeBytes bytes scale cp037.codec signed = .ok d) : d.Fits bytes.length signed := by
  rw [decodeBytes_cp037] at h
  simpa using fits_of_decode h

/-- **Bytes that are read and written again come back as they were**, but for a
minus sign on zero. -/
theorem encodeBytes_of_decodeBytes {bytes : List UInt8} {scale : Int} {signed : Bool}
    {d : Decimal} (h : decodeBytes bytes scale cp037.codec signed = .ok d) :
    encodeBytes d bytes.length cp037.codec signed = .ok (canonicalBytes signed bytes) := by
  rw [decodeBytes_cp037] at h
  have htext := encode_decode h
  rw [List.length_map] at htext
  rw [encodeBytes, htext, ok_bind, ← map_canonicalBytes, encode_cp037]

end Cp037

end FixedWidth.Zoned
