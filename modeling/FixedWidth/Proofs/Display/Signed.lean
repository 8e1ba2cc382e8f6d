import FixedWidth.Display.Signed
import FixedWidth.Proofs.Fault
import FixedWidth.Proofs.Number.Digits
import FixedWidth.Proofs.Number.Rescale

/-!
# Signed numbers on display, written and read back

What stands in a field of `i` digits before the point and `f` after it is a row of
`i + f` digits with a point put in, where there are places, and a minus sign in
front, where the number is below zero. `FixedWidth.Display.parseSigned_eq_ok_iff`
says that reading takes exactly the texts of that form; which row of digits and which
sign it was can be told from the text, since a minus sign is neither a digit nor a
point.

Both directions of the round trip are read off this. The text of a number that fits
is of the form, with the digits of the number, so that reading it gives the number
back (`FixedWidth.Display.parseSigned_signedText`). A text that was read spells its
number with as many digits as the field has, and there is only one such row of digits;
so writing the number gives the text back
(`FixedWidth.Display.signedText_of_parseSigned`), unless its sign stood before nothing
but zeros: a number has no such sign.

What writing does before it comes to a text is to round the number, in a context that
has room for it, and to count what then stands before the point
(`FixedWidth.Display.formatNumber_eq`).
-/

namespace FixedWidth.Display

/-- A row of digits with its point, where there are digits after it. -/
def pointed (i f : Nat) (ds : List Char) : List Char :=
  ds.take i ++ if f = 0 then [] else '.' :: ds.drop i

/-- A magnitude with its sign. -/
def withSign (negative : Bool) (cs : List Char) : List Char :=
  if negative then '-' :: cs else cs

/-- Whether a text begins with a minus sign. -/
def hasSign (cs : List Char) : Bool :=
  cs.head? == some '-'

/-- The length of a text's sign. -/
def signLength (cs : List Char) : Nat :=
  if hasSign cs then 1 else 0

/-- A text without its sign. -/
def unsigned (cs : List Char) : List Char :=
  cs.drop (signLength cs)

/-- The length of a field without its sign. -/
def formLength (i f : Nat) : Nat :=
  i + f + if f = 0 then 0 else 1

/-- A text without the minus sign before nothing but zeros. -/
def withoutZeroSign (cs : List Char) : List Char :=
  if cs.head? == some '-' && cs.tail.all fun c => c == '0' || c == '.' then cs.tail else cs

variable {cs ds : List Char} {i f : Nat} {d : Decimal}

theorem signedText_eq (d : Decimal) (i f : Nat) :
    signedText d i f = withSign d.negative (pointed i f (d.digits (i + f))) := rfl

/-! ### The form of a text -/

theorem length_pointed (h : ds.length = i + f) : (pointed i f ds).length = formLength i f := by
  cases f with
  | zero => simp [pointed, formLength, h]
  | succ f =>
    simp only [pointed, formLength, List.length_append, List.length_take, List.length_drop, h,
      List.length_cons, if_neg (Nat.succ_ne_zero f)]
    omega

theorem pointed_zero (h : ds.length = i) : pointed i 0 ds = ds := by
  rw [pointed, if_pos rfl, List.append_nil, List.take_of_length_le (Nat.le_of_eq h)]

theorem pointed_append (hf : f ≠ 0) (whole fraction : List Char) :
    pointed whole.length f (whole ++ fraction) = whole ++ '.' :: fraction := by
  rw [pointed, if_neg hf, List.take_left, List.drop_left]

/-- Besides its digits a field without its sign shows a point, where it has places. -/
theorem mem_pointed_iff {c : Char} (h : ds.length = i + f) :
    c ∈ pointed i f ds ↔ c ∈ ds ∨ f ≠ 0 ∧ c = '.' := by
  by_cases hf : f = 0
  · subst hf
    rw [Nat.add_zero] at h
    rw [pointed_zero h]
    exact ⟨.inl, fun hc => hc.resolve_right fun hpoint => hpoint.1 rfl⟩
  · have hds : c ∈ ds ↔ c ∈ ds.take i ∨ c ∈ ds.drop i := by
      rw [← List.mem_append, List.take_append_drop]
    rw [pointed, if_neg hf, List.mem_append, List.mem_cons, hds, and_iff_right hf, or_assoc,
      @or_comm (c ∈ ds.drop i)]

/-- Digits and the point are all that stands in a field without its sign. -/
theorem isDigit_or_eq_of_mem_pointed {c : Char} (hdigits : ds.all Char.isDigit = true)
    (h : ds.length = i + f) (hc : c ∈ pointed i f ds) : c.isDigit = true ∨ c = '.' :=
  ((mem_pointed_iff h).mp hc).imp (List.all_eq_true.mp hdigits c) And.right

/-- Before the digits of a field stands nothing that could be taken for a sign. -/
theorem head?_pointed_ne (hdigits : ds.all Char.isDigit = true) (h : ds.length = i + f) :
    (pointed i f ds).head? ≠ some '-' := by
  intro hhead
  obtain hdash | hpoint :=
    isDigit_or_eq_of_mem_pointed hdigits h (List.mem_of_mem_head? hhead)
  · cases hdash
  · cases hpoint

/-- A row of characters with places is cut at the place of its point. -/
theorem exists_split (hf : f ≠ 0) (h : cs.length = formLength i f) :
    ∃ whole point fraction, cs = whole ++ point :: fraction ∧ whole.length = i ∧
      fraction.length = f := by
  rw [formLength, if_neg hf] at h
  have hi : i < cs.length := by omega
  refine ⟨cs.take i, cs[i], cs.drop (i + 1), ?_, List.length_take_of_le (Nat.le_of_lt hi), ?_⟩
  · rw [← List.drop_eq_getElem_cons, List.take_append_drop]
  · rw [List.length_drop]
    omega

/-! ### Reading -/

theorem digitsOnly_eq_ok_iff {position : Int} :
    digitsOnly position cs = .ok ds ↔ cs.all Char.isDigit = true ∧ ds = cs := by
  rw [← @Text.firstNonDigit?_eq_none_iff 0, digitsOnly]
  cases Text.firstNonDigit? 0 cs with
  | none => simp [eq_comm]
  | some bad => simp

theorem before_natCast : before cs i = cs.take i := by
  rw [before, place, if_neg (by omega), Int.toNat_natCast]

theorem onward_natCast_succ : onward cs (i + 1) = cs.drop (i + 1) := by
  have htoNat : ((i : Int) + 1).toNat = i + 1 := by omega
  rw [onward, place, if_neg (by omega), htoNat]

theorem charAt?_natCast : charAt? cs i = cs[i]? := by
  have hnonneg : ¬(i : Int) < 0 := by omega
  simp [charAt?, place, hnonneg]

/-- Without places, a text is read as it is. -/
theorem readDigits_zero {position : Nat} (h : cs.length = i) :
    readDigits position cs i (0 : Nat) = digitsOnly position cs := by
  rw [readDigits, before_natCast, List.take_of_length_le (Nat.le_of_eq h)]
  cases digitsOnly position cs <;> rfl

/-- Where there are places, a text is read in three pieces. -/
theorem readDigits_append {position : Nat} {whole fraction : List Char} {point : Char}
    (hf : f ≠ 0) :
    readDigits position (whole ++ point :: fraction) whole.length f =
      digitsOnly position whole >>= fun ds =>
        if point ≠ '.' then .error (.digit point (position + whole.length))
        else digitsOnly (position + whole.length + 1) fraction >>= fun places =>
          .ok (ds ++ places) := by
  have hplaces : (f : Int) ≠ 0 := by omega
  have hdrop : (whole ++ point :: fraction).drop (whole.length + 1) = fraction := by
    rw [List.append_cons, List.drop_left' (by simp)]
  have hpoint : (whole ++ point :: fraction)[whole.length]? = some point := by simp
  rw [readDigits, before_natCast, charAt?_natCast, onward_natCast_succ, List.take_left, hpoint,
    hdrop]
  simp only [if_neg hplaces]
  rfl

theorem readDigits_append_eq_ok_iff {position : Nat} {whole fraction : List Char} {point : Char}
    (hf : f ≠ 0) :
    readDigits position (whole ++ point :: fraction) whole.length f = .ok ds ↔
      whole.all Char.isDigit = true ∧ point = '.' ∧ fraction.all Char.isDigit = true ∧
        ds = whole ++ fraction := by
  rw [readDigits_append hf]
  simp only [bind_eq_ok_iff, digitsOnly_eq_ok_iff]
  constructor
  · rintro ⟨_, ⟨hwhole, rfl⟩, h⟩
    split at h
    · cases h
    next hdot =>
    obtain ⟨_, hread, hds⟩ := bind_eq_ok_iff.mp h
    obtain ⟨hfraction, rfl⟩ := digitsOnly_eq_ok_iff.mp hread
    exact ⟨hwhole, Decidable.not_not.mp hdot, hfraction, (Except.ok.inj hds).symm⟩
  · rintro ⟨hwhole, rfl, hfraction, rfl⟩
    refine ⟨whole, ⟨hwhole, rfl⟩, ?_⟩
    rw [if_neg (Decidable.not_not.mpr rfl)]
    exact bind_eq_ok_iff.mpr ⟨fraction, digitsOnly_eq_ok_iff.mpr ⟨hfraction, rfl⟩, rfl⟩

/-- **What is read from the characters of a field, the sign taken off.** -/
theorem readDigits_eq_ok_iff {position : Nat} (hlength : cs.length = formLength i f) :
    readDigits position cs i f = .ok ds ↔
      cs = pointed i f ds ∧ ds.all Char.isDigit = true ∧ ds.length = i + f := by
  by_cases hf : f = 0
  · subst hf
    have hall : cs.length = i := by
      rw [formLength, if_pos rfl] at hlength
      omega
    rw [readDigits_zero hall, digitsOnly_eq_ok_iff, Nat.add_zero]
    constructor
    · rintro ⟨hdigits, rfl⟩
      exact ⟨(pointed_zero hall).symm, hdigits, hall⟩
    · rintro ⟨hcs, hdigits, hds⟩
      rw [hcs, pointed_zero hds]
      exact ⟨hdigits, rfl⟩
  · constructor
    · intro h
      obtain ⟨whole, point, fraction, rfl, rfl, rfl⟩ := exists_split hf hlength
      obtain ⟨hwhole, rfl, hfraction, rfl⟩ := (readDigits_append_eq_ok_iff hf).mp h
      refine ⟨(pointed_append hf whole fraction).symm, ?_, List.length_append⟩
      rw [List.all_append, hwhole, hfraction]
      rfl
    · rintro ⟨rfl, hdigits, hds⟩
      -- and here the row of digits is, at the same place
      obtain ⟨whole, fraction, rfl, rfl⟩ : ∃ whole fraction,
          ds = whole ++ fraction ∧ whole.length = i :=
        ⟨ds.take i, ds.drop i, (List.take_append_drop i ds).symm,
          List.length_take_of_le (by omega)⟩
      rw [List.all_append, Bool.and_eq_true] at hdigits
      rw [pointed_append hf, readDigits_append_eq_ok_iff hf]
      exact ⟨hdigits.1, rfl, hdigits.2, rfl⟩

/-- A text is its sign and what is behind the sign. -/
theorem withSign_unsigned (cs : List Char) : withSign (hasSign cs) (unsigned cs) = cs := by
  cases cs with
  | nil => rfl
  | cons c cs =>
    by_cases hc : c = '-'
    · rw [hc]
      rfl
    · have hsign : hasSign (c :: cs) = false := by simpa [hasSign] using hc
      rw [unsigned, signLength, hsign]
      rfl

/-- The sign of a field's text is told from its digits. -/
theorem hasSign_withSign_pointed {negative : Bool} (hdigits : ds.all Char.isDigit = true)
    (h : ds.length = i + f) : hasSign (withSign negative (pointed i f ds)) = negative := by
  cases negative with
  | true => rfl
  | false => exact beq_eq_false_iff_ne.mpr (head?_pointed_ne hdigits h)

/-- What is done with a text: its length is looked at, and what is behind its sign is read. -/
theorem parseSigned_eq (cs : List Char) (i f : Nat) :
    parseSigned cs i f =
      if (unsigned cs).length ≠ formLength i f then
        .error (.width (formLength i f + signLength cs) cs.length)
      else readDigits (signLength cs) (unsigned cs) i f >>= fun ds =>
        .ok (.make (Nat.ofDigitChars 10 ds 0) (hasSign cs) f) := by
  have hwidth : signedWidth i f = formLength i f := by
    rw [signedWidth, formLength]
    split <;> split <;> omega
  have hlength : (unsigned cs).length ≠ formLength i f ↔
      ((unsigned cs).length : Int) ≠ signedWidth i f := by
    rw [hwidth]
    exact not_congr Int.ofNat_inj.symm
  rw [← hwidth]
  simp only [hlength]
  rfl

/-- **What a field takes**: a row of digits with its point, and a sign. -/
theorem parseSigned_eq_ok_iff :
    parseSigned cs i f = .ok d ↔ ∃ negative ds, cs = withSign negative (pointed i f ds) ∧
      ds.all Char.isDigit = true ∧ ds.length = i + f ∧
      d = .make (Nat.ofDigitChars 10 ds 0) negative f := by
  rw [parseSigned_eq]
  constructor
  · intro h
    split at h
    · cases h
    next hlength =>
    obtain ⟨ds, hread, hd⟩ := bind_eq_ok_iff.mp h
    obtain ⟨hbody, hdigits, hcount⟩ :=
      (readDigits_eq_ok_iff (Decidable.not_not.mp hlength)).mp hread
    refine ⟨hasSign cs, ds, ?_, hdigits, hcount, (Except.ok.inj hd).symm⟩
    rw [← hbody, withSign_unsigned]
  · rintro ⟨negative, ds, rfl, hdigits, hcount, rfl⟩
    have hlength := length_pointed hcount
    have hbody : unsigned (withSign negative (pointed i f ds)) = pointed i f ds := by
      rw [unsigned, signLength, hasSign_withSign_pointed hdigits hcount]
      cases negative <;> rfl
    rw [hbody, hasSign_withSign_pointed hdigits hcount, if_neg (not_not_intro hlength)]
    refine bind_eq_ok_iff.mpr ⟨ds, ?_, rfl⟩
    exact (readDigits_eq_ok_iff hlength).mpr ⟨rfl, hdigits, hcount⟩

/-- The number that is read has the field's places, and no more before the point than
the field has room for. -/
theorem wholePart_lt_of_parseSigned (h : parseSigned cs i f = .ok d) :
    d.scale = f ∧ d.wholePart < Nat.pow 10 i := by
  obtain ⟨negative, ds, -, hdigits, hlength, rfl⟩ := parseSigned_eq_ok_iff.mp h
  have hvalue := Text.ofDigitChars_lt hdigits
  have hpow : Nat.pow 10 ds.length = Nat.pow 10 i * Nat.pow 10 f := by
    rw [hlength]
    exact Nat.pow_add ..
  have hplaces : 0 < Nat.pow 10 f := Nat.pow_pos (by decide)
  refine ⟨rfl, (Nat.div_lt_iff_lt_mul hplaces).mpr ?_⟩
  rw [← hpow]
  exact hvalue

/-- A number below zero is read only from behind a minus sign. -/
theorem negative_eq_false_of_parseSigned (h : parseSigned cs i f = .ok d)
    (hsign : cs.head? ≠ some '-') : d.negative = false := by
  obtain ⟨negative, ds, rfl, -, -, rfl⟩ := parseSigned_eq_ok_iff.mp h
  cases negative with
  | true => exact absurd rfl hsign
  | false => rfl

/-! ### Writing -/

/-- Counts of digits are not below zero, and a number needs no reading. -/
theorem formatSigned_decimal (v : Decimal) (mode : Rounding) :
    formatSigned (.decimal v) i f mode = formatNumber v i f mode := by
  have hcounts : ¬(decide ((i : Int) < 0) || decide ((f : Int) < 0)) = true := by simp
  simp only [formatSigned, if_neg hcounts]
  rfl

/-- **A number without its sign looked at**: it is rounded to the places, and what
stands before the point has to fit. -/
theorem formatNumber_eq (hf : f ≤ 999999) {v : Decimal} {mode : Rounding}
    (hroundable : v.Roundable f mode) :
    formatNumber v i f mode =
      if ¬(v.roundTo f mode).wholePart < Nat.pow 10 i then
        .error (.digitOverflow (v.roundTo f mode).integerDigits i)
      else .ok (signedText (v.roundTo f mode) i f) := by
  have hcount := @Decimal.integerDigits_le_iff (v.roundTo f mode) i
  rw [formatNumber, Decimal.rescale_ample hf hroundable, ok_bind, ite_not]
  by_cases hfits : (v.roundTo f mode).wholePart < Nat.pow 10 i
  · have hroom := hcount.mpr hfits
    rw [if_pos hfits, if_neg (by omega)]
    rfl
  · have hlong := mt hcount.mp hfits
    rw [if_neg hfits, if_pos (by omega)]
    rfl

/-- A number that cannot be rounded is not written. -/
theorem exists_formatNumber_limitFault (hf : f ≤ 999999) {v : Decimal} {mode : Rounding}
    (hroundable : ¬v.Roundable f mode) :
    ∃ fault ∈ v.limitFaults f, formatNumber v i f mode = .error fault := by
  obtain ⟨fault, hmem, hfault⟩ := Decimal.exists_limitFault hf hroundable
  exact ⟨fault, hmem, by rw [formatNumber, hfault, error_bind]⟩

/-- A number of too many places is told of as one of too many digits. -/
theorem formatNumber_of_finest (hf : f ≤ 999999) {v : Decimal} (hfine : finestOperand < v.scale)
    (hnative : v.scale ≤ greatestNative) (hample : v.amplePrecision f ≤ maxPrecision)
    (mode : Rounding) :
    formatNumber v i f mode = .error (.overflow v.digitCount (v.amplePrecision f)) := by
  rw [formatNumber, Decimal.rescale_ample_of_finest hf hfine hnative hample, error_bind]

/-- A number that has the places already is written whatever the count of them. -/
theorem formatNumber_self (hscale : d.scale = f) (hfits : d.wholePart < Nat.pow 10 i)
    (mode : Rounding) : formatNumber d i f mode = .ok (signedText d i f) := by
  subst hscale
  have hdigits : (d.digitCount : Int) ≤ d.amplePrecision d.scale := by
    rw [Decimal.amplePrecision]
    omega
  have hself : d.rescale d.scale ⟨d.amplePrecision d.scale, mode⟩ = .ok d :=
    Decimal.rescale_self_eq_ok_iff.mpr ⟨hdigits, rfl⟩
  have hroom := d.integerDigits_le_iff.mpr hfits
  rw [formatNumber, hself, ok_bind, if_neg (by omega)]
  rfl

/-! ### Both directions -/

/-- A number that fits is written with as many digits as the field has. There may be none,
and then the number is zero, of which the one digit is not shown. -/
theorem exists_pointed_digits (hscale : d.scale = f) (hfits : d.wholePart < Nat.pow 10 i) :
    ∃ ds, pointed i f (d.digits (i + f)) = pointed i f ds ∧ ds.all Char.isDigit = true ∧
      ds.length = i + f ∧ Nat.ofDigitChars 10 ds 0 = d.unscaled := by
  by_cases hpos : 0 < i + f
  · have hcount : d.digitCount ≤ i + d.scale :=
      Decimal.digitCount_le_of_wholePart_lt (by omega) hfits
    exact ⟨d.digits (i + f), rfl, d.all_isDigit_digits _, Decimal.length_digits_eq (by omega),
      d.ofDigitChars_digits _⟩
  · obtain ⟨rfl, rfl⟩ : i = 0 ∧ f = 0 := by omega
    have hzero : d.unscaled = 0 := by
      rw [Decimal.wholePart, hscale] at hfits
      have hunit : Nat.pow 10 0 = 1 := rfl
      rw [hunit, Nat.div_one] at hfits
      omega
    exact ⟨[], rfl, rfl, rfl, hzero.symm⟩

/-- **What was written is read back.** -/
theorem parseSigned_signedText (hscale : d.scale = f) (hfits : d.wholePart < Nat.pow 10 i) :
    parseSigned (signedText d i f) i f = .ok d := by
  obtain ⟨ds, hshown, hdigits, hlength, hvalue⟩ := exists_pointed_digits hscale hfits
  refine parseSigned_eq_ok_iff.mpr ⟨d.negative, ds, ?_, hdigits, hlength, ?_⟩
  · rw [signedText_eq, hshown]
  · rw [hvalue, ← hscale, Decimal.make_self]

/-- A row of digits with its point shows nothing but zeros where its number is zero. -/
theorem all_pointed_iff (hdigits : ds.all Char.isDigit = true) (hlength : ds.length = i + f) :
    (pointed i f ds).all (fun c => c == '0' || c == '.') = true ↔
      Nat.ofDigitChars 10 ds 0 = 0 := by
  simp only [List.all_eq_true, Bool.or_eq_true, beq_iff_eq, Text.ofDigitChars_eq_zero_iff hdigits]
  constructor
  · intro h c hc
    refine (h c ((mem_pointed_iff hlength).mpr (.inl hc))).resolve_right fun hpoint => ?_
    have hdigit := List.all_eq_true.mp hdigits c hc
    rw [hpoint] at hdigit
    cases hdigit
  · intro h c hc
    exact ((mem_pointed_iff hlength).mp hc).imp (h c) And.right

theorem withoutZeroSign_withSign {negative : Bool} (hdigits : ds.all Char.isDigit = true)
    (hlength : ds.length = i + f) :
    withoutZeroSign (withSign negative (pointed i f ds)) =
      withSign (negative && Nat.ofDigitChars 10 ds 0 != 0) (pointed i f ds) := by
  have hsign := @hasSign_withSign_pointed ds i f negative hdigits hlength
  rw [hasSign] at hsign
  rw [withoutZeroSign, hsign]
  cases negative with
  | false => rfl
  | true =>
    have hall := all_pointed_iff hdigits hlength
    have htail : (withSign true (pointed i f ds)).tail = pointed i f ds := rfl
    rw [Bool.true_and, Bool.true_and, htail]
    by_cases hzero : Nat.ofDigitChars 10 ds 0 = 0
    · rw [if_pos (hall.mpr hzero), hzero]
      rfl
    · rw [if_neg (mt hall.mp hzero), bne_iff_ne.mpr hzero]

/-- **What was read is written back**, but for a sign before nothing but zeros. -/
theorem signedText_of_parseSigned (h : parseSigned cs i f = .ok d) :
    signedText d i f = withoutZeroSign cs := by
  obtain ⟨hscale, hfits⟩ := wholePart_lt_of_parseSigned h
  obtain ⟨negative, ds, rfl, hdigits, hlength, rfl⟩ := parseSigned_eq_ok_iff.mp h
  obtain ⟨shown, hshown, hdigits', hlength', hvalue⟩ := exists_pointed_digits hscale hfits
  have hself : shown = ds :=
    Text.eq_of_ofDigitChars_eq hdigits' hdigits (hlength'.trans hlength.symm) hvalue
  rw [signedText_eq, hshown, hself, withoutZeroSign_withSign hdigits hlength]
  rfl

end FixedWidth.Display
