import FixedWidth.Proofs.Storage.Zoned

/-!
# Which texts and bytes are a zoned field

The format of a zoned field: a row of digits that ends in a character of its own
kind, which in a field with a sign is one of the twenty that carry a digit and a
sign, and in a field without one is a digit again (`FixedWidth.Zoned.IsText`). In
the bytes of the first EBCDIC page the digits are `F0` to `F9`, and the characters
with a sign are `C0` to `C9` and `D0` to `D9` (`FixedWidth.Zoned.IsBytes`).

`FixedWidth.Zoned.zonedField_format` holds the readers against these: what they
take, what they refuse and for which character (`FixedWidth.Zoned.Flaw`), and what
writing the number again makes of a field. The bytes come down to the text, since
the page maps one format onto the other, place by place.
-/

namespace FixedWidth.Zoned

/-! ### The shape of a field -/

/-- **A row that ends in an item of its own kind.** -/
def EndsIn {α : Type} (digit last : α → Prop) (row : List α) : Prop :=
  ∃ ds x, row = ds ++ [x] ∧ (∀ d ∈ ds, digit d) ∧ last x

/-- A row has its shape in whatever the items are written. -/
theorem endsIn_map_iff {α β : Type} {f : α → β} {digit last : β → Prop} {row : List α} :
    EndsIn digit last (row.map f) ↔ EndsIn (digit ∘ f) (last ∘ f) row := by
  constructor
  · rintro ⟨ds, y, hrow, hds, hy⟩
    obtain ⟨es, es', rfl, rfl, hes'⟩ := List.map_eq_append_iff.mp hrow
    obtain ⟨x, rfl, rfl⟩ := List.map_eq_singleton_iff.mp hes'
    exact ⟨es, x, rfl, fun d hd => hds _ (List.mem_map_of_mem hd), hy⟩
  · rintro ⟨ds, x, rfl, hds, hx⟩
    refine ⟨ds.map f, f x, by rw [List.map_append, List.map_singleton], ?_, hx⟩
    exact List.forall_mem_map.mpr hds

/-- What a field ends in: one of the characters with a sign, or a digit. -/
def IsLast : Bool → Char → Prop
  | true, c => c ∈ positiveZones ++ negativeZones
  | false, c => c.isDigit = true

/-- **The format of a zoned field in characters.** -/
def IsText (signed : Bool) (cs : List Char) : Prop :=
  EndsIn (fun c => c.isDigit = true) (IsLast signed) cs

/-- A byte of two parts: the given first half-byte, and a digit. -/
def InZone (zone : Nat) (b : UInt8) : Prop :=
  b.toNat / 16 = zone ∧ b.toNat % 16 ≤ 9

/-- What a field ends in, in bytes: a digit under one of the two signs, or a digit
under `F` like all others. -/
def IsLastByte : Bool → UInt8 → Prop
  | true, b => InZone 0xC b ∨ InZone 0xD b
  | false, b => InZone 0xF b

/-- **The format of a zoned field in bytes.** -/
def IsBytes (signed : Bool) (bytes : List UInt8) : Prop :=
  EndsIn (InZone 0xF) (IsLastByte signed) bytes

/-- **The flaw of a text that is no field**: its leftmost character that is not what
its place asks for. In a field with a sign the last place asks for another character
than the places before it. -/
inductive Flaw (signed : Bool) (cs : List Char) : Fault → Prop
  | digit {before after : List Char} {c : Char} (hsplit : cs = before ++ c :: after)
      (hbefore : before.all Char.isDigit = true) (hbad : ¬c.isDigit = true)
      (hplace : signed = true → after ≠ []) : Flaw signed cs (.digit c before.length)
  | last {ds : List Char} {c : Char} (hsigned : signed = true) (hsplit : cs = ds ++ [c])
      (hds : ds.all Char.isDigit = true) (hbad : c ∉ positiveZones ++ negativeZones) :
      Flaw signed cs (.overpunch c)

/-! ### In characters -/

theorem isLast_true_iff {c : Char} :
    IsLast true c ↔ ∃ digit negative, digit < 10 ∧ c = overpunch negative digit := by
  have hread : IsLast true c ↔ ∃ read, readOverpunch? c = some read := by
    rw [← Option.isSome_iff_exists, ← Option.ne_none_iff_isSome, Ne, readOverpunch?_eq_none_iff,
      Decidable.not_not]
    rfl
  rw [hread, Prod.exists]
  simp only [readOverpunch?_eq_some_iff]

section Text

variable {cs : List Char} {scale : Nat} {signed : Bool} {d : Decimal}

/-- **What is read**: the texts that are a field. -/
theorem exists_decode_iff_isText : (∃ d, decode cs scale signed = .ok d) ↔ IsText signed cs := by
  cases signed with
  | false =>
    simp only [decode_unsigned_eq_ok_iff]
    constructor
    · rintro ⟨d, -, hne, hall, -⟩
      obtain rfl | ⟨ds, c, rfl⟩ := cs.eq_nil_or_concat
      · exact absurd rfl hne
      rw [List.concat_eq_append, List.all_append, Bool.and_eq_true] at hall
      refine ⟨ds, c, List.concat_eq_append, List.all_eq_true.mp hall.1, ?_⟩
      exact List.all_eq_true.mp hall.2 c (List.mem_singleton_self c)
    · rintro ⟨ds, c, rfl, hds, hc⟩
      refine ⟨_, Int.natCast_nonneg scale, by simp, ?_, rfl⟩
      rw [List.all_append, List.all_eq_true.mpr hds, Bool.true_and, List.all_cons, List.all_nil,
        Bool.and_true]
      exact hc
  | true =>
    simp only [decode_signed_eq_ok_iff]
    constructor
    · rintro ⟨d, -, ds, digit, negative, rfl, hdigit, hds, -⟩
      refine ⟨ds, _, rfl, List.all_eq_true.mp hds, ?_⟩
      exact isLast_true_iff.mpr ⟨digit, negative, hdigit, rfl⟩
    · rintro ⟨ds, c, rfl, hds, hc⟩
      obtain ⟨digit, negative, hdigit, rfl⟩ := isLast_true_iff.mp hc
      exact ⟨_, Int.natCast_nonneg scale, ds, digit, negative, rfl, hdigit,
        List.all_eq_true.mpr hds, rfl⟩

/-- **What is said of a text that is not read** is its flaw. -/
theorem flaw_of_decode {fault : Fault} (hne : cs ≠ [])
    (h : decode cs scale signed = .error fault) : Flaw signed cs fault := by
  have hscale : ¬(scale : Int) < 0 := by omega
  obtain rfl | ⟨ds, last, rfl⟩ := cs.eq_nil_or_concat
  · exact absurd rfl hne
  rw [List.concat_eq_append] at h ⊢
  rw [decode, if_neg hscale, List.getLast?_concat] at h
  dsimp only at h
  split at h
  next c k hfirst =>
    obtain ⟨before, after, hsplit, hbefore, hc, hk⟩ := Text.exists_append_of_firstNonDigit? hfirst
    rw [Nat.zero_add] at hk
    rw [← Except.error.inj h, hk]
    cases signed with
    | false => exact .digit hsplit hbefore hc fun hs => absurd hs Bool.false_ne_true
    | true =>
      -- the digits end before the last character, which stands behind the flaw
      rw [if_pos rfl, List.dropLast_concat] at hsplit
      have hwhole : ds ++ [last] = before ++ c :: (after ++ [last]) := by
        rw [hsplit, List.append_assoc, List.cons_append]
      exact .digit hwhole hbefore hc fun _ => by simp
  next hfirst =>
    cases signed with
    | false => cases h
    | true =>
      rw [if_pos rfl, List.dropLast_concat] at hfirst
      rw [if_pos rfl] at h
      split at h
      next hread =>
        rw [← Except.error.inj h]
        exact .last rfl rfl (Text.firstNonDigit?_eq_none_iff.mp hfirst)
          (readOverpunch?_eq_none_iff.mp hread)
      · cases h

/-- A zero with a minus sign is a text that ends in one and holds zero. -/
theorem isNegativeZero_iff_of_decode (h : decode cs scale true = .ok d) :
    isNegativeZero cs = true ↔ cs.getLast? = some '\x7d' ∧ d.unscaled = 0 := by
  obtain ⟨-, ds, digit, negative, rfl, hdigit, hds, rfl⟩ := decode_signed_eq_ok_iff.mp h
  rw [isNegativeZero, List.getLast?_concat, List.dropLast_concat, Bool.and_eq_true, beq_iff_eq,
    Decimal.unscaled_make, ofDigitChars_concat_eq_zero_iff hds hdigit]
  refine and_congr_right fun hbrace => ?_
  obtain ⟨-, hzero⟩ := (overpunch_eq_brace_iff hdigit).mp (Option.some.inj hbrace)
  exact ⟨fun hall => ⟨hall, hzero⟩, fun hall => hall.1⟩

/-- **A field that is read and written again comes back**, and only zero loses a
minus sign. -/
theorem encode_of_decode (h : decode cs scale signed = .ok d) :
    encode d cs.length signed =
      .ok (if signed = true ∧ cs.getLast? = some '\x7d' ∧ d.unscaled = 0 then
        cs.dropLast ++ ['\x7b'] else cs) := by
  rw [encode_decode h, canonical]
  cases signed with
  | false => simp
  | true => simp only [Bool.true_and, isNegativeZero_iff_of_decode h, true_and]

end Text

/-! ### In bytes -/

section Cp037

open CodePage

theorem inZone_iff {zone : Nat} (hzone : zone < 16) {b : UInt8} :
    InZone zone b ↔ ∃ digit < 10, b = zoneByte zone digit := by
  constructor
  · rintro ⟨hhigh, hlow⟩
    refine ⟨b.toNat % 16, by omega, UInt8.toNat_inj.mp ?_⟩
    rw [toNat_zoneByte hzone (by omega)]
    omega
  · rintro ⟨digit, hdigit, rfl⟩
    rw [InZone, toNat_zoneByte hzone hdigit]
    omega

theorem isDigit_cp037Char (b : UInt8) : (cp037Char b).isDigit = true ↔ InZone 0xF b := by
  rw [inZone_iff (by decide)]
  constructor
  · intro h
    have hlt := Text.digitOf_lt_ten h
    refine ⟨_, hlt, cp037Char_injective ?_⟩
    rw [cp037Char_digit hlt, Text.digitChar_digitOf h]
  · rintro ⟨digit, hdigit, rfl⟩
    rw [cp037Char_digit hdigit]
    exact Text.isDigit_digitChar_of_le (Nat.le_of_lt_succ hdigit)

theorem isLast_cp037Char (signed : Bool) (b : UInt8) :
    IsLast signed (cp037Char b) ↔ IsLastByte signed b := by
  cases signed with
  | false => exact isDigit_cp037Char b
  | true =>
    have hbyte : IsLastByte true b ↔
        ∃ digit negative, digit < 10 ∧ b = zoneByte (signZone negative) digit := by
      have hzones : IsLastByte true b ↔ ∃ negative, InZone (signZone negative) b := by
        rw [Bool.exists_bool]
        exact Iff.rfl
      simp only [hzones, inZone_iff (signZone_lt _)]
      exact exists_comm
    rw [isLast_true_iff, hbyte]
    refine exists_congr fun digit => exists_congr fun negative => and_congr_right fun hdigit => ?_
    rw [← cp037Char_overpunch negative hdigit]
    exact ⟨fun h => cp037Char_injective h, congrArg cp037Char⟩

/-- **The page maps the format in bytes onto the format in characters.** -/
theorem isText_map_cp037Char {signed : Bool} {bytes : List UInt8} :
    IsText signed (bytes.map cp037Char) ↔ IsBytes signed bytes := by
  have hdigit : (fun c : Char => c.isDigit = true) ∘ cp037Char = InZone 0xF :=
    funext fun b => propext (isDigit_cp037Char b)
  have hlast : IsLast signed ∘ cp037Char = IsLastByte signed :=
    funext fun b => propext (isLast_cp037Char signed b)
  rw [IsText, endsIn_map_iff, hdigit, hlast, IsBytes]

/-- The page has one byte for each character. -/
theorem getLast?_map_cp037Char {bytes : List UInt8} {b : UInt8} :
    (bytes.map cp037Char).getLast? = some (cp037Char b) ↔ bytes.getLast? = some b := by
  rw [List.getLast?_map, Option.map_eq_some_iff]
  constructor
  · rintro ⟨b', hlast, hb'⟩
    rw [hlast, cp037Char_injective hb']
  · intro hlast
    exact ⟨b, hlast, rfl⟩

variable {bytes : List UInt8} {scale : Nat} {signed : Bool} {d : Decimal}

/-- **Bytes that are read and written again come back**, and only zero loses a minus
sign. -/
theorem encodeBytes_of_decode (h : decodeBytes bytes scale CodePage.cp037.codec signed = .ok d) :
    encodeBytes d bytes.length CodePage.cp037.codec signed =
      .ok (if signed = true ∧ bytes.getLast? = some 0xD0 ∧ d.unscaled = 0 then
        bytes.dropLast ++ [0xC0] else bytes) := by
  rw [decodeBytes_cp037] at h
  have htext := encode_of_decode h
  have hminus : cp037Char 0xD0 = '\x7d' := rfl
  have hplus : cp037Char 0xC0 = '\x7b' := rfl
  rw [List.length_map, ← hminus, ← hplus] at htext
  simp only [getLast?_map_cp037Char, ← List.map_dropLast, ← List.map_singleton (f := cp037Char),
    ← List.map_append, ← apply_ite] at htext
  rw [encodeBytes, htext, ok_bind, encode_cp037]

end Cp037

/-- **The zoned field, place by place.** Texts are read exactly when they are a field,
and others are refused for their flaw; what was read is written again as the same
text, but for the last character of a zero with a minus sign. In the first of the
EBCDIC pages the same holds of bytes. -/
theorem zonedField_format (scale : Nat) (signed : Bool) :
    (∀ cs, ((∃ d, decode cs scale signed = .ok d) ↔ IsText signed cs) ∧
      (∀ d, decode cs scale signed = .ok d → d.scale = scale ∧
        encode d cs.length signed =
          .ok (if signed = true ∧ cs.getLast? = some '\x7d' ∧ d.unscaled = 0 then
            cs.dropLast ++ ['\x7b'] else cs)) ∧
      ∀ fault, cs ≠ [] → decode cs scale signed = .error fault → Flaw signed cs fault) ∧
    ∀ bytes, ((∃ d, decodeBytes bytes scale CodePage.cp037.codec signed = .ok d) ↔
        IsBytes signed bytes) ∧
      (∀ d, decodeBytes bytes scale CodePage.cp037.codec signed = .ok d → d.scale = scale ∧
        encodeBytes d bytes.length CodePage.cp037.codec signed =
          .ok (if signed = true ∧ bytes.getLast? = some 0xD0 ∧ d.unscaled = 0 then
            bytes.dropLast ++ [0xC0] else bytes)) ∧
      ∀ fault, bytes ≠ [] → decodeBytes bytes scale CodePage.cp037.codec signed = .error fault →
        Flaw signed (bytes.map CodePage.cp037Char) fault := by
  refine ⟨fun cs => ⟨exists_decode_iff_isText, fun d h => ⟨?_, encode_of_decode h⟩,
    fun fault hne h => flaw_of_decode hne h⟩, fun bytes => ⟨?_, fun d h => ⟨?_,
    encodeBytes_of_decode h⟩, fun fault hne h => ?_⟩⟩
  · rw [scale_of_decode h, Int.toNat_natCast]
  · rw [← isText_map_cp037Char, ← @exists_decode_iff_isText _ scale]
    simp only [decodeBytes_cp037]
  · rw [decodeBytes_cp037] at h
    rw [scale_of_decode h, Int.toNat_natCast]
  · rw [decodeBytes_cp037] at h
    exact flaw_of_decode (fun hnil => hne (List.map_eq_nil_iff.mp hnil)) h

/-- A zero with a minus sign is read, and written with the other sign. -/
example : (decode ['0', '\x7d'] 1 true).bind (encode · 2 true) = .ok ['0', '\x7b'] := by rfl

end FixedWidth.Zoned
