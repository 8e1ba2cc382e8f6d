import FixedWidth.Proofs.Number.Digits
import FixedWidth.Storage.Packed

/-!
# Packed decimal, written and read back

Both directions of the packed codec go through the half-bytes: a field of bytes
and a list of half-bytes of even length are the same thing
(`FixedWidth.Packed.ofNibbles_nibbles`, `FixedWidth.Packed.nibbles_ofNibbles`),
and in half-bytes a field is a digit text with a sign behind it.

* `FixedWidth.Packed.decode_eq_ok_iff` says what is read: all half-bytes but the
  last are digits, and the last is a sign.
* `FixedWidth.Packed.encode_eq_ok_iff` says what is written: the numbers that fit,
  and nothing else.

What is read need not be what would be written. A reader takes either of two
signs for a number that is not negative, and a minus sign on zero; and the
half-byte before an even count of digits can hold a digit too many.
`FixedWidth.Packed.encode_decode` puts the first two right, by
`FixedWidth.Packed.canonical`; the third is a number that does not fit.
-/

namespace FixedWidth.Packed

/-! ### Bytes and half-bytes -/

theorem nibble_lt {bytes : List UInt8} {n : Nat} (h : n ∈ nibbles bytes) : n < 16 := by
  obtain ⟨b, -, hb⟩ := List.mem_flatMap.mp h
  have hlt : b.toNat < 256 := b.toNat_lt
  rcases List.mem_cons.mp hb with rfl | hb
  · omega
  · rw [List.mem_singleton.mp hb]
    omega

@[simp] theorem ofNibbles_nibbles (bytes : List UInt8) : ofNibbles (nibbles bytes) = bytes := by
  induction bytes with
  | nil => rfl
  | cons b bytes ih =>
    have hb : 16 * (b.toNat / 16) + b.toNat % 16 = b.toNat := Nat.div_add_mod b.toNat 16
    rw [nibbles_cons, ofNibbles, ih, hb, UInt8.ofNat_toNat]

/-- Half-bytes that fill whole bytes are read back from them. -/
theorem nibbles_ofNibbles : ∀ {ns : List Nat}, ns.length % 2 = 0 → (∀ n ∈ ns, n < 16) →
    nibbles (ofNibbles ns) = ns
  | [], _, _ => rfl
  | [_], heven, _ => absurd heven (by simp)
  | hi :: lo :: ns, heven, hlt => by
    have hhi : hi < 16 := hlt hi (by simp)
    have hlo : lo < 16 := hlt lo (by simp)
    have hns : nibbles (ofNibbles ns) = ns := by
      refine nibbles_ofNibbles ?_ fun n hn => hlt n (by simp [hn])
      rw [List.length_cons, List.length_cons] at heven
      omega
    have hbyte : (UInt8.ofNat (16 * hi + lo)).toNat = 16 * hi + lo :=
      UInt8.toNat_ofNat_of_lt' (show 16 * hi + lo < 256 by omega)
    rw [ofNibbles, nibbles_cons, hns, hbyte]
    congr 1
    · omega
    · congr 1
      omega

theorem nibbles_injective {bytes bytes' : List UInt8} (h : nibbles bytes = nibbles bytes') :
    bytes = bytes' := by
  rw [← ofNibbles_nibbles bytes, h, ofNibbles_nibbles]

/-! ### What is read -/

/-- The three half-bytes that are a sign. -/
def IsSign (nibble : Nat) : Prop :=
  nibble = 0xC ∨ nibble = 0xD ∨ nibble = 0xF

/-- A sign is of a number below zero exactly where it is `D`. -/
theorem signOf?_eq_some_iff {nibble : Nat} {negative : Bool} :
    signOf? nibble = some negative ↔ IsSign nibble ∧ negative = (nibble == 0xD) := by
  unfold signOf? IsSign
  split
  next h => simp [h, eq_comm]
  next h =>
    rw [beq_false_of_ne h]
    split
    next h' => simp [h, h', eq_comm]
    next h' => simp [h, h']

theorem signOf?_eq_none_iff {nibble : Nat} : signOf? nibble = none ↔ ¬IsSign nibble := by
  rw [Option.eq_none_iff_forall_ne_some]
  simp [signOf?_eq_some_iff]

/-- The number that half-bytes spell as digits. -/
def digitsValue (ns : List Nat) : Nat :=
  Nat.ofDigitChars 10 (ns.map Nat.digitChar) 0

theorem digitsValue_lt {ds : List Nat} (h : ∀ n ∈ ds, n ≤ 9) :
    digitsValue ds < Nat.pow 10 ds.length := by
  have hlt := Text.ofDigitChars_lt (Text.all_isDigit_map_digitChar h)
  rwa [List.length_map] at hlt

theorem digitsValue_cons {n : Nat} (h : n ≤ 9) (ds : List Nat) :
    digitsValue (n :: ds) = Nat.pow 10 ds.length * n + digitsValue ds := by
  rw [digitsValue, List.map_cons, Text.ofDigitChars_cons_zero, List.length_map,
    Text.digitOf_digitChar (by omega), digitsValue]

theorem digitsValue_eq_zero_iff {ds : List Nat} (h : ∀ n ∈ ds, n ≤ 9) :
    digitsValue ds = 0 ↔ ∀ n ∈ ds, n = 0 := by
  rw [digitsValue, Text.ofDigitChars_eq_zero_iff (Text.all_isDigit_map_digitChar h),
    List.forall_mem_map]
  exact ⟨fun h0 n hn => Nat.digitChar_eq_zero.mp (h0 n hn), fun h0 n hn => by rw [h0 n hn]; rfl⟩

theorem firstNonDigit?_eq_none {position : Nat} {ns : List Nat} (h : ∀ n ∈ ns, n ≤ 9) :
    firstNonDigit? position ns = none :=
  firstNonDigit?_eq_none_iff.mpr h

/-- **What a packed field holds**: digits with a sign behind them, and nothing
else is read. -/
theorem decode_eq_ok_iff {bytes : List UInt8} {scale : Int} {d : Decimal} :
    decode bytes scale = .ok d ↔ 0 ≤ scale ∧ ∃ ds sign negative, nibbles bytes = ds ++ [sign] ∧
      signOf? sign = some negative ∧ (∀ n ∈ ds, n ≤ 9) ∧
      d = .make (digitsValue ds) negative scale.toNat := by
  constructor
  · intro h
    unfold decode at h
    split at h
    · cases h
    next hscale =>
    refine ⟨by omega, ?_⟩
    cases hlast : (nibbles bytes).getLast? with
    | none => simp [hlast] at h
    | some sign =>
      obtain ⟨ds, hds⟩ := List.getLast?_eq_some_iff.mp hlast
      cases hsign : signOf? sign with
      | none => simp [hlast, hsign] at h
      | some negative =>
        cases hbad : firstNonDigit? 0 ds with
        | some bad => simp [hds, hsign, hbad] at h
        | none =>
          simp only [hds, List.getLast?_concat, hsign, List.dropLast_concat, hbad,
            Except.ok.injEq] at h
          exact ⟨ds, sign, negative, hds, hsign, firstNonDigit?_eq_none_iff.mp hbad, h.symm⟩
  · rintro ⟨hscale, ds, sign, negative, hds, hsign, hdigits, rfl⟩
    have hneg : ¬scale < 0 := by omega
    simp [decode, hneg, hds, hsign, firstNonDigit?_eq_none hdigits, digitsValue]

/-- What is read has the places that the reader was told. -/
theorem scale_of_decode {bytes : List UInt8} {scale : Int} {d : Decimal}
    (h : decode bytes scale = .ok d) : d.scale = scale.toNat := by
  obtain ⟨-, ds, sign, negative, -, -, -, rfl⟩ := decode_eq_ok_iff.mp h
  rfl

/-! ### What is written -/

theorem signOf?_signFor {unsigned negative : Bool} (h : unsigned = true → negative = false) :
    signOf? (signFor unsigned negative) = some negative := by
  cases unsigned with
  | true =>
    rw [h rfl]
    rfl
  | false => cases negative <;> rfl

theorem signFor_lt (unsigned negative : Bool) : signFor unsigned negative < 16 := by
  cases unsigned <;> cases negative <;> decide

/-- **What a packed field takes**: the numbers that fit it. -/
theorem encode_eq_ok_iff {d : Decimal} {totalDigits : Int} {unsigned : Bool}
    {bytes : List UInt8} :
    encode d totalDigits unsigned = .ok bytes ↔
      d.Fits totalDigits.toNat (!unsigned) ∧ bytes = bytesOf d totalDigits.toNat unsigned := by
  rw [Decimal.fits_toNat_iff, Bool.not_not]
  unfold encode
  -- each check that refuses a number is one that the number has to pass to fit
  split
  next hn => exact iff_of_false (fun h => nomatch h) fun h => h.1.1 hn
  next hn =>
  split
  next hd => exact iff_of_false (fun h => nomatch h) fun h => h.1.2.1 hd
  next hd =>
  split
  next hs => exact iff_of_false (fun h => nomatch h) fun h => h.1.2.2 hs
  next hs => rw [and_iff_right ⟨hn, hd, hs⟩, Except.ok.injEq, eq_comm]

section Written

variable {d : Decimal} {totalDigits : Nat} {unsigned : Bool}

/-- The half-bytes of a field: a zero where the count of digits is even, then the
digits of the number, then its sign. -/
theorem nibbles_bytesOf (h : d.Fits totalDigits (!unsigned)) :
    nibbles (bytesOf d totalDigits unsigned) =
      (if totalDigits % 2 = 0 then [0] else []) ++ (d.digits totalDigits).map Text.digitOf ++
        [signFor unsigned d.negative] := by
  have hlen : ((d.digits totalDigits).map Text.digitOf ++ [signFor unsigned d.negative]).length =
      totalDigits + 1 := by
    rw [List.length_append, List.length_map, Decimal.length_digits_eq h.digitCount_le,
      List.length_singleton]
  have hlt : ∀ n ∈ (d.digits totalDigits).map Text.digitOf ++ [signFor unsigned d.negative],
      n < 16 := by
    rw [List.forall_mem_append, List.forall_mem_singleton]
    refine ⟨fun n hn => ?_, signFor_lt _ _⟩
    have := d.le_nine_of_mem_digits hn
    omega
  rw [bytesOf, padToBytes, hlen]
  split
  next heven =>
    -- an odd count of digits and the sign fill whole bytes
    rw [nibbles_ofNibbles (by rw [hlen]; exact heven) hlt, if_neg (by omega), List.nil_append]
  next hodd =>
    -- an even one takes a zero in front
    rw [nibbles_ofNibbles (by rw [List.length_cons, hlen]; omega)
      (List.forall_mem_cons.mpr ⟨by decide, hlt⟩), if_pos (by omega)]
    rfl

/-- The digits of a field are its number's, filled up to whole bytes. -/
theorem exists_nibbles_bytesOf (h : d.Fits totalDigits (!unsigned)) :
    ∃ ds, nibbles (bytesOf d totalDigits unsigned) = ds ++ [signFor unsigned d.negative] ∧
      (∀ n ∈ ds, n ≤ 9) ∧ digitsValue ds = d.unscaled ∧
      ds.length = 2 * (totalDigits / 2) + 1 := by
  have hdigits : ∀ n ∈ (d.digits totalDigits).map Text.digitOf, n ≤ 9 :=
    fun n hn => d.le_nine_of_mem_digits hn
  have hlen : ((d.digits totalDigits).map Text.digitOf).length = totalDigits := by
    rw [List.length_map, Decimal.length_digits_eq h.digitCount_le]
  have hvalue : digitsValue ((d.digits totalDigits).map Text.digitOf) = d.unscaled := by
    rw [digitsValue, Text.map_digitChar_map_digitOf (d.all_isDigit_digits _),
      Decimal.ofDigitChars_digits]
  refine ⟨_, nibbles_bytesOf h, ?_⟩
  split
  next heven =>
    -- the zero in front adds nothing to the number
    refine ⟨List.forall_mem_cons.mpr ⟨by decide, hdigits⟩, ?_, ?_⟩
    · rw [List.singleton_append, digitsValue_cons (by decide), Nat.mul_zero, Nat.zero_add, hvalue]
    · rw [List.singleton_append, List.length_cons, hlen]
      omega
  next hodd =>
    rw [List.nil_append, hlen]
    exact ⟨hdigits, hvalue, by omega⟩

/-- **A packed field has the bytes of its count of digits.** -/
theorem length_bytesOf (h : d.Fits totalDigits (!unsigned)) :
    (bytesOf d totalDigits unsigned).length = totalDigits / 2 + 1 := by
  obtain ⟨ds, hds, -, -, hlen⟩ := exists_nibbles_bytesOf h
  have htwice := length_nibbles (bytesOf d totalDigits unsigned)
  rw [hds, List.length_append, List.length_singleton, hlen] at htwice
  omega

/-- **A packed field is read back as the number that was written**, with as many
places as the reader is told. -/
theorem decode_bytesOf (h : d.Fits totalDigits (!unsigned)) {scale : Int} (hscale : 0 ≤ scale) :
    decode (bytesOf d totalDigits unsigned) scale =
      .ok (.make d.unscaled d.negative scale.toNat) := by
  obtain ⟨ds, hds, hdigits, hvalue, -⟩ := exists_nibbles_bytesOf h
  refine decode_eq_ok_iff.mpr ⟨hscale, ds, signFor unsigned d.negative, d.negative, hds, ?_,
    hdigits, by rw [hvalue]⟩
  exact signOf?_signFor fun hu => h.nonnegative (by rw [hu]; rfl)

end Written

/-- What is written can be told apart by what it is read back as. -/
theorem signed_eq_of_encode_eq {d d' : Decimal} {totalDigits : Int} {unsigned : Bool}
    {bytes : List UInt8} (h : encode d totalDigits unsigned = .ok bytes)
    (h' : encode d' totalDigits unsigned = .ok bytes) : d.signed = d'.signed := by
  obtain ⟨hfits, rfl⟩ := encode_eq_ok_iff.mp h
  obtain ⟨hfits', hbytes⟩ := encode_eq_ok_iff.mp h'
  have hread := decode_bytesOf hfits (Int.le_refl 0)
  rw [hbytes, decode_bytesOf hfits' (Int.le_refl 0)] at hread
  have hsigned := congrArg Decimal.signed (Except.ok.inj hread)
  rw [Decimal.signed_make_self, Decimal.signed_make_self] at hsigned
  exact hsigned.symm

/-- **The packed field of a number.** A count of digits below one is refused
first, then a number of more digits, then a number below zero where there is no
sign for it; every other number is written, into the bytes of the count of
digits, and any reader gets back its magnitude and sign with as many places as it
asks for. So numbers of different signed magnitude have different fields. -/
theorem packedField_roundTrip (d : Decimal) (totalDigits : Int) (unsigned : Bool) :
    (totalDigits < 1 → encode d totalDigits unsigned = .error .totalDigits) ∧
    (1 ≤ totalDigits → totalDigits < d.digitCount →
      encode d totalDigits unsigned = .error (.overflow d.digitCount totalDigits)) ∧
    (1 ≤ totalDigits → d.digitCount ≤ totalDigits → unsigned = true → d.negative = true →
      encode d totalDigits unsigned = .error .negativeForPacked) ∧
    (1 ≤ totalDigits → d.digitCount ≤ totalDigits → ¬(unsigned = true ∧ d.negative = true) →
      ∃ bytes, encode d totalDigits unsigned = .ok bytes) ∧
    ∀ bytes, encode d totalDigits unsigned = .ok bytes →
      (bytes.length : Int) = length totalDigits ∧
      (∀ scale : Int, 0 ≤ scale → ∃ r, decode bytes scale = .ok r ∧ r.unscaled = d.unscaled ∧
        r.negative = d.negative ∧ (r.scale : Int) = scale) ∧
      decode bytes d.scale = .ok d ∧
      ∀ d', encode d' totalDigits unsigned = .ok bytes → d'.signed = d.signed := by
  refine ⟨fun hn => ?_, fun hn hd => ?_, fun hn hd hu hneg => ?_, fun hn hd hs => ?_,
    fun bytes h => ?_⟩
  · rw [encode, if_pos hn]
  · rw [encode, if_neg (by omega), if_pos hd]
  · rw [encode, if_neg (by omega), if_neg (by omega), if_pos (by rw [hu, hneg]; rfl)]
  · refine ⟨bytesOf d totalDigits.toNat unsigned, encode_eq_ok_iff.mpr ⟨⟨by omega, ?_⟩, rfl⟩⟩
    intro hu
    have hu' : unsigned = true := by simpa using hu
    exact Bool.eq_false_iff.mpr fun hneg => hs ⟨hu', hneg⟩
  · obtain ⟨hfits, rfl⟩ := encode_eq_ok_iff.mp h
    have hpos := hfits.totalDigits_pos
    refine ⟨?_, fun scale hscale => ⟨_, decode_bytesOf hfits hscale, rfl, ?_, ?_⟩, ?_,
      fun d' h' => signed_eq_of_encode_eq h' h⟩
    · rw [length_bytesOf hfits, length]
      omega
    · exact d.negative_make_self _
    · exact Int.toNat_of_nonneg hscale
    · rw [decode_bytesOf hfits (Int.natCast_nonneg d.scale), Int.toNat_natCast, Decimal.make_self]

/-! ### What is read, written again -/

/-- Bytes with another half-byte in the place of the last one. -/
def withSign (sign : Nat) (bytes : List UInt8) : List UInt8 :=
  ofNibbles ((nibbles bytes).dropLast ++ [sign])

/-- Whether bytes hold a number below zero: a minus sign behind digits that are
not all zero. -/
def isNegative (bytes : List UInt8) : Bool :=
  (nibbles bytes).getLast? == some 0xD && (nibbles bytes).dropLast.any (· != 0)

/-- **The bytes as a writer would leave them**: with the sign of their number, or
with the one sign of a field without. -/
def canonical (unsigned : Bool) (bytes : List UInt8) : List UInt8 :=
  withSign (signFor unsigned (isNegative bytes)) bytes

/-- Only the last half-byte of a field is changed. -/
theorem nibbles_withSign {sign : Nat} {bytes : List UInt8} (hsign : sign < 16)
    (hbytes : bytes ≠ []) : nibbles (withSign sign bytes) = (nibbles bytes).dropLast ++ [sign] := by
  have hlen := length_nibbles bytes
  have hpos : 0 < bytes.length := List.length_pos_iff.mpr hbytes
  refine nibbles_ofNibbles ?_ fun n hn => ?_
  · rw [List.length_append, List.length_singleton, List.length_dropLast, hlen]
    omega
  · rcases List.mem_append.mp hn with hn | hn
    · exact nibble_lt (List.dropLast_subset _ hn)
    · rwa [List.mem_singleton.mp hn]

/-- The sign of what is read is that of its bytes. -/
theorem negative_of_decode {bytes : List UInt8} {scale : Int} {d : Decimal}
    (h : decode bytes scale = .ok d) : d.negative = isNegative bytes := by
  obtain ⟨-, ds, sign, negative, hds, hsign, hdigits, rfl⟩ := decode_eq_ok_iff.mp h
  have hlast : (nibbles bytes).getLast? = some sign := by rw [hds, List.getLast?_concat]
  have hinit : (nibbles bytes).dropLast = ds := by rw [hds, List.dropLast_concat]
  have hminus : negative = (sign == 0xD) := (signOf?_eq_some_iff.mp hsign).2
  have hzero : (digitsValue ds != 0) = ds.any (· != 0) := by
    rw [Bool.eq_iff_iff, bne_iff_ne, Ne, digitsValue_eq_zero_iff hdigits, List.any_eq_true]
    simp
  rw [Decimal.negative_make, hminus, hzero, isNegative, hlast, hinit]
  rfl

/-- **A field that is read and written again comes back as it was, but for its
sign**, which is the writer's own for the number and the kind of field. The
number has to fit; that it does is not promised by its having been read. -/
theorem encode_decode {bytes : List UInt8} {scale : Int} {d : Decimal} {totalDigits : Nat}
    {unsigned : Bool} (h : decode bytes scale = .ok d) (hfits : d.Fits totalDigits (!unsigned))
    (hlen : bytes.length = totalDigits / 2 + 1) :
    encode d totalDigits unsigned = .ok (canonical unsigned bytes) := by
  have hsigned := negative_of_decode h
  obtain ⟨-, ds, sign, negative, hds, -, hdigits, hd⟩ := decode_eq_ok_iff.mp h
  obtain ⟨es, hes, hedigits, hevalue, heslen⟩ := exists_nibbles_bytesOf hfits
  -- both digit texts have the field's odd count of half-bytes and spell one number
  have hdslen : ds.length = 2 * (totalDigits / 2) + 1 := by
    have htwice := length_nibbles bytes
    rw [hds, List.length_append, List.length_singleton, hlen] at htwice
    omega
  have hsame : es = ds := by
    have hchars : es.map Nat.digitChar = ds.map Nat.digitChar := by
      refine Text.eq_of_ofDigitChars_eq (Text.all_isDigit_map_digitChar hedigits)
        (Text.all_isDigit_map_digitChar hdigits) ?_ ?_
      · rw [List.length_map, List.length_map, heslen, hdslen]
      · have hunscaled : d.unscaled = digitsValue ds := by rw [hd]; rfl
        exact hevalue.trans hunscaled
    rw [← Text.map_digitOf_map_digitChar hedigits, hchars, Text.map_digitOf_map_digitChar hdigits]
  have hne : bytes ≠ [] := by
    rw [← List.length_pos_iff, hlen]
    omega
  refine encode_eq_ok_iff.mpr ⟨hfits, nibbles_injective ?_⟩
  rw [Int.toNat_natCast, hes, canonical, nibbles_withSign (signFor_lt _ _) hne, hds,
    List.dropLast_concat, hsame, hsigned]

/-! ### What is read and does not fit -/

/-- **Whether bytes hold a number that a field of so many digits takes**: nothing
in the half-byte before an even count of digits, and nothing below zero without a
sign. -/
def InRange (totalDigits : Nat) (unsigned : Bool) (bytes : List UInt8) : Prop :=
  0 < totalDigits ∧ (totalDigits % 2 = 0 → (nibbles bytes).head? = some 0) ∧
    (unsigned = true → isNegative bytes = false)

instance (totalDigits : Nat) (unsigned : Bool) (bytes : List UInt8) :
    Decidable (InRange totalDigits unsigned bytes) := by
  unfold InRange
  infer_instance

/-- The half-byte before an even count of digits is all that can be too much. -/
theorem digitCount_le_iff_of_decode {bytes : List UInt8} {scale : Int} {d : Decimal}
    {totalDigits : Nat} (h : decode bytes scale = .ok d)
    (hlen : bytes.length = totalDigits / 2 + 1) (hpos : 0 < totalDigits) :
    d.digitCount ≤ totalDigits ↔ (totalDigits % 2 = 0 → (nibbles bytes).head? = some 0) := by
  obtain ⟨-, ds, sign, negative, hds, -, hdigits, rfl⟩ := decode_eq_ok_iff.mp h
  have hdslen : ds.length = 2 * (totalDigits / 2) + 1 := by
    have htwice := length_nibbles bytes
    rw [hds, List.length_append, List.length_singleton, hlen] at htwice
    omega
  rw [Decimal.digitCount_le_iff _ hpos, Decimal.unscaled_make, hds]
  obtain _ | ⟨first, rest⟩ := ds
  · cases hdslen
  have hrest : digitsValue rest < Nat.pow 10 rest.length :=
    digitsValue_lt fun n hn => hdigits n (List.mem_cons_of_mem _ hn)
  by_cases heven : totalDigits % 2 = 0
  · have hrestlen : rest.length = totalDigits := by
      rw [List.length_cons] at hdslen
      omega
    rw [hrestlen] at hrest
    rw [digitsValue_cons (hdigits first (List.mem_cons_self ..)), hrestlen, List.cons_append,
      List.head?_cons, Option.some.injEq]
    constructor
    · intro hlt _
      -- a first digit other than zero is worth a power of ten that is out of reach
      refine Decidable.byContradiction fun hfirst => ?_
      have := Nat.le_mul_of_pos_right (Nat.pow 10 totalDigits) (Nat.pos_of_ne_zero hfirst)
      omega
    · intro hfirst
      rw [hfirst heven, Nat.mul_zero, Nat.zero_add]
      exact hrest
  · have hodd : totalDigits = (first :: rest).length := by omega
    rw [hodd] at heven ⊢
    exact iff_of_true (digitsValue_lt hdigits) fun h => absurd h heven

/-- **What was read fits exactly when its bytes are in range.** -/
theorem fits_iff_inRange {bytes : List UInt8} {scale : Int} {d : Decimal} {totalDigits : Nat}
    {unsigned : Bool} (h : decode bytes scale = .ok d)
    (hlen : bytes.length = totalDigits / 2 + 1) :
    d.Fits totalDigits (!unsigned) ↔ InRange totalDigits unsigned bytes := by
  constructor
  · intro hfits
    have hpos := hfits.totalDigits_pos
    refine ⟨hpos, (digitCount_le_iff_of_decode h hlen hpos).mp hfits.digitCount_le, fun hu => ?_⟩
    rw [← negative_of_decode h]
    exact hfits.nonnegative (by rw [hu]; rfl)
  · rintro ⟨hpos, hfirst, hsign⟩
    refine ⟨(digitCount_le_iff_of_decode h hlen hpos).mpr hfirst, fun hu => ?_⟩
    rw [negative_of_decode h]
    exact hsign (by simpa using hu)

end FixedWidth.Packed
