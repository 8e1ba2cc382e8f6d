import FixedWidth.Number.Literal
import FixedWidth.Proofs.Text.Scan
import FixedWidth.Proofs.Text.Trim

/-!
# The literals of decimals

What a literal is, is said here by how it is put together: a sign or none, digits, and a
point with digits behind it or none (`FixedWidth.Decimal.HasParts`), with a digit on one side
of the point at least (`FixedWidth.Decimal.IsLiteral`). Reading cuts the white space off both
ends of a text and accepts what is left exactly where it is a literal
(`FixedWidth.Decimal.ofText_eq_ok_iff`). It asks for the digit after it has taken the parts,
so that a sign or a point alone is refused for another reason than what has no parts at all.

A number is written as a literal, in a form that leaves no choice
(`FixedWidth.Decimal.PlainForm`): no plus sign, a digit before the point and no zeros in
front of it that could be left out, and a point only where there are places. Its digits are
written from the magnitude, with zeros up to the first place before the point; where there
are such zeros, one of them is all that stands before the point. The parts of this literal
mean the number again (`FixedWidth.Decimal.ofText_toText`).
-/

namespace FixedWidth.Decimal

variable {cs ds whole fraction tail : List Char} {negative : Bool} {places k : ℕ}
  {parts : LiteralParts} {d : Decimal} {c : Char}

/-! ### The form of a literal -/

/-- The signs of a literal. -/
inductive IsSign : Bool → List Char → Prop where
  | absent : IsSign false []
  | plus : IsSign false ['+']
  | minus : IsSign true ['-']

/-- What stands in a literal behind the digits before the point. -/
inductive IsTail : List Char → List Char → Prop where
  | absent : IsTail [] []
  | point (fraction : List Char) : IsTail fraction ('.' :: fraction)

/-- **A text is put together from the parts of a literal.** -/
structure HasParts (cs : List Char) (parts : LiteralParts) : Prop where
  exists_pieces : ∃ sign tail, IsSign parts.negative sign ∧ IsTail parts.fraction tail ∧
    cs = sign ++ (parts.whole ++ tail)
  whole_digits : parts.whole.all Char.isDigit = true
  fraction_digits : parts.fraction.all Char.isDigit = true

/-- **A text is a literal** with the given parts, among which there is a digit. -/
structure IsLiteral (cs : List Char) (parts : LiteralParts) : Prop extends HasParts cs parts where
  some_digit : parts.whole ≠ [] ∨ parts.fraction ≠ []

/-- A sign that is written only below zero. -/
theorem isSign_ite (negative : Bool) : IsSign negative (if negative then ['-'] else []) := by
  cases negative with
  | false => exact .absent
  | true => exact .minus

/-- A point that is written only where there are places. -/
theorem isTail_ite (h : fraction.length = places) :
    IsTail fraction (if places = 0 then [] else '.' :: fraction) := by
  split
  next hzero =>
    rw [List.length_eq_zero_iff.mp (h.trans hzero)]
    exact .absent
  next => exact .point fraction

theorem IsSign.eq_of_mem {sign : List Char} (h : IsSign negative sign) (hc : c ∈ sign) :
    c = '+' ∨ c = '-' := by
  cases h with
  | absent => cases hc
  | plus => exact .inl (List.mem_singleton.mp hc)
  | minus => exact .inr (List.mem_singleton.mp hc)

theorem IsTail.mem_or_eq_of_mem (h : IsTail fraction tail) (hc : c ∈ tail) :
    c ∈ fraction ∨ c = '.' := by
  cases h with
  | absent => cases hc
  | point => exact (List.mem_cons.mp hc).symm

/-- Besides digits there is a sign in a literal, and a point. -/
theorem HasParts.isDigit_or_mem (h : HasParts cs parts) (hc : c ∈ cs) :
    c.isDigit = true ∨ c ∈ ['+', '-', '.'] := by
  obtain ⟨sign, tail, hsign, htail, rfl⟩ := h.exists_pieces
  simp only [List.mem_append] at hc
  simp only [List.mem_cons, List.not_mem_nil, or_false]
  rcases hc with hc | hc | hc
  · exact .inr (by rcases hsign.eq_of_mem hc with rfl | rfl <;> simp)
  · exact .inl (List.all_eq_true.mp h.whole_digits c hc)
  · rcases htail.mem_or_eq_of_mem hc with hc | rfl
    · exact .inl (List.all_eq_true.mp h.fraction_digits c hc)
    · exact .inr (by simp)

/-- There is no white space in a literal. -/
theorem HasParts.trim_eq (h : HasParts cs parts) : Text.trim cs = cs := by
  refine Text.trim_eq_self fun c hc => ?_
  rcases h.isDigit_or_mem hc with hdigit | hmem
  · exact (Text.IsPlain.of_isDigit hdigit).isBlank_eq
  · exact (Text.forall_mem_of_all (p := Text.IsPlain) (by decide) c hmem).isBlank_eq

/-! ### Reading -/

/-- Behind its sign a literal does not begin with a sign. -/
theorem IsTail.head?_append_ne (htail : IsTail fraction tail)
    (hwhole : whole.all Char.isDigit = true) (hc : c.isDigit = false ∧ c ≠ '.') :
    (whole ++ tail).head? ≠ some c := by
  intro hhead
  cases whole with
  | cons d whole =>
    obtain rfl := Option.some.inj hhead
    exact nomatch hc.1.symm.trans (Bool.and_eq_true_iff.mp hwhole).1
  | nil =>
    cases htail with
    | absent => cases hhead
    | point => exact hc.2 (Option.some.inj hhead).symm

/-- The digits before the point are taken as far as they go. -/
theorem IsTail.takeWhile_append (htail : IsTail fraction tail)
    (hwhole : whole.all Char.isDigit = true) : (whole ++ tail).takeWhile Char.isDigit = whole := by
  rw [List.takeWhile_append_of_pos (List.all_eq_true.mp hwhole)]
  cases htail with
  | absent => exact List.append_nil whole
  | point => exact List.append_nil whole

theorem IsTail.dropWhile_append (htail : IsTail fraction tail)
    (hwhole : whole.all Char.isDigit = true) : (whole ++ tail).dropWhile Char.isDigit = tail := by
  rw [List.dropWhile_append_of_pos (List.all_eq_true.mp hwhole)]
  cases htail with
  | absent => rfl
  | point => rfl

/-- **The digits of a literal**, its sign taken off. -/
theorem digitParts?_eq_some_iff : digitParts? negative cs = some parts ↔
    parts.negative = negative ∧ ∃ tail, IsTail parts.fraction tail ∧ cs = parts.whole ++ tail ∧
      parts.whole.all Char.isDigit = true ∧ parts.fraction.all Char.isDigit = true := by
  constructor
  · intro h
    have hcs : cs = cs.takeWhile Char.isDigit ++ cs.dropWhile Char.isDigit :=
      List.takeWhile_append_dropWhile.symm
    rw [digitParts?] at h
    split at h
    next hnil =>
      obtain rfl := Option.some.inj h
      exact ⟨rfl, [], .absent, (List.append_nil cs).symm, Text.dropWhile_eq_nil_iff_all.mp hnil, rfl⟩
    next fraction hpoint =>
      split at h
      next hdigits =>
        obtain rfl := Option.some.inj h
        exact ⟨rfl, _, .point fraction, hcs.trans (by rw [hpoint]), List.all_takeWhile, hdigits⟩
      next => cases h
    next => cases h
  · rintro ⟨rfl, tail, htail, rfl, hwhole, hfraction⟩
    obtain ⟨negative, whole, fraction⟩ := parts
    rw [digitParts?, htail.dropWhile_append hwhole, htail.takeWhile_append hwhole]
    cases htail with
    | absent => simp only [List.append_nil]
    | point => simp only [hfraction, if_true]

/-- Where a text does not begin with a sign, its literal has none. -/
theorem literalParts?_eq_digitParts? (hminus : cs.head? ≠ some '-') (hplus : cs.head? ≠ some '+') :
    literalParts? cs = digitParts? false cs := by
  unfold literalParts?
  split
  next => exact absurd rfl hminus
  next => exact absurd rfl hplus
  next => rfl

/-- **A text has the parts that are read from it**, and no others. -/
theorem literalParts?_eq_some_iff : literalParts? cs = some parts ↔ HasParts cs parts := by
  constructor
  · intro h
    unfold literalParts? at h
    split at h
    next =>
      obtain ⟨hnegative, tail, htail, rfl, hwhole, hfraction⟩ := digitParts?_eq_some_iff.mp h
      exact ⟨⟨['-'], tail, hnegative ▸ .minus, htail, rfl⟩, hwhole, hfraction⟩
    next =>
      obtain ⟨hnegative, tail, htail, rfl, hwhole, hfraction⟩ := digitParts?_eq_some_iff.mp h
      exact ⟨⟨['+'], tail, hnegative ▸ .plus, htail, rfl⟩, hwhole, hfraction⟩
    next =>
      obtain ⟨hnegative, tail, htail, rfl, hwhole, hfraction⟩ := digitParts?_eq_some_iff.mp h
      exact ⟨⟨[], tail, hnegative ▸ .absent, htail, rfl⟩, hwhole, hfraction⟩
  · rintro ⟨⟨sign, tail, hsign, htail, rfl⟩, hwhole, hfraction⟩
    have hbody : digitParts? parts.negative (parts.whole ++ tail) = some parts :=
      digitParts?_eq_some_iff.mpr ⟨rfl, tail, htail, rfl, hwhole, hfraction⟩
    rw [← hbody]
    obtain ⟨negative, whole, fraction⟩ := parts
    cases hsign with
    | minus => rfl
    | plus => rfl
    | absent =>
      exact literalParts?_eq_digitParts? (htail.head?_append_ne hwhole (by decide))
        (htail.head?_append_ne hwhole (by decide))

/-- **A literal means** the number of its digits, with as many places as stand behind the
point; a zero has no sign. -/
structure Means (parts : LiteralParts) (d : Decimal) : Prop where
  unscaled_eq : d.unscaled = Nat.ofDigitChars 10 (parts.whole ++ parts.fraction) 0
  scale_eq : d.scale = parts.fraction.length
  negative_iff : d.negative = true ↔ parts.negative = true ∧ d.unscaled ≠ 0

theorem means_iff : Means parts d ↔ d = parts.toDecimal := by
  constructor
  · rintro ⟨hunscaled, hscale, hnegative⟩
    refine Decimal.ext hunscaled ?_ hscale
    rw [Bool.eq_iff_iff, hnegative, LiteralParts.toDecimal, negative_make, Bool.and_eq_true,
      bne_iff_ne, hunscaled]
  · rintro rfl
    refine ⟨rfl, rfl, ?_⟩
    rw [LiteralParts.toDecimal, negative_make, Bool.and_eq_true, bne_iff_ne, unscaled_make]

/-- **A text is read where a literal stands in it** between white space. -/
theorem ofText_eq_ok_iff {text : String} : ofText text = .ok d ↔
    ∃ parts, IsLiteral (Text.trim text.toList) parts ∧ Means parts d := by
  rw [ofText]
  constructor
  · intro h
    split at h
    next => cases h
    next parts hparts =>
      split at h
      next => cases h
      next hdigit =>
        refine ⟨parts, ⟨literalParts?_eq_some_iff.mp hparts, ?_⟩, ?_⟩
        · rwa [Bool.and_eq_true, List.isEmpty_iff, List.isEmpty_iff, not_and_or] at hdigit
        · exact means_iff.mpr (Except.ok.inj h).symm
  · rintro ⟨parts, hliteral, hmeans⟩
    have hdigit : ¬(parts.whole.isEmpty && parts.fraction.isEmpty) = true := by
      rw [Bool.and_eq_true, List.isEmpty_iff, List.isEmpty_iff, not_and_or]
      exact hliteral.some_digit
    rw [literalParts?_eq_some_iff.mpr hliteral.toHasParts, means_iff.mp hmeans]
    exact if_neg hdigit

/-- A literal alone is read as what it means. -/
theorem IsLiteral.ofText_eq (h : IsLiteral cs parts) (hmeans : Means parts d) :
    ofText (String.ofList cs) = .ok d := by
  refine ofText_eq_ok_iff.mpr ⟨parts, ?_, hmeans⟩
  rwa [String.toList_ofList, h.trim_eq]

/-- A text in which no literal stands is refused as a literal. -/
theorem exists_ofText_eq_error {text : String}
    (h : ¬∃ parts, IsLiteral (Text.trim text.toList) parts) :
    ∃ flaw, ofText text = .error (.literal (.text text) flaw) := by
  cases hread : ofText text with
  | ok d =>
    obtain ⟨parts, hliteral, -⟩ := ofText_eq_ok_iff.mp hread
    exact absurd ⟨parts, hliteral⟩ h
  | error fault =>
    rw [ofText] at hread
    split at hread
    next => exact ⟨.malformed, hread.symm⟩
    next =>
      split at hread
      next => exact ⟨.noDigits, hread.symm⟩
      next => cases hread

/-! ### Writing -/

/-- **The digits of an integer**: there is one at least, and the first is a zero only where it
is alone. -/
structure IsNumeral (ds : List Char) : Prop where
  digits : ds.all Char.isDigit = true
  ne_nil : ds ≠ []
  zero_alone : ds.head? = some '0' → ds = ['0']

/-- **The plain form of a number** with so many places, below zero or not. -/
structure PlainForm (negative : Bool) (places : ℕ) (cs : List Char) : Prop where
  exists_pieces : ∃ whole fraction, IsNumeral whole ∧ fraction.all Char.isDigit = true ∧
    fraction.length = places ∧
    cs = (if negative then ['-'] else []) ++ (whole ++ if places = 0 then [] else '.' :: fraction)

/-- The first digits of an integer are those of an integer. -/
theorem IsNumeral.take (h : IsNumeral ds) (hk : 0 < k) : IsNumeral (ds.take k) := by
  obtain ⟨k, rfl⟩ : ∃ j, k = j + 1 := ⟨k - 1, by omega⟩
  obtain ⟨c, ds, rfl⟩ := List.exists_cons_of_ne_nil h.ne_nil
  refine ⟨List.all_eq_true.mpr fun c hc => ?_, List.cons_ne_nil _ _, fun hzero => ?_⟩
  · exact List.all_eq_true.mp h.digits c (List.mem_of_mem_take hc)
  · rw [h.zero_alone hzero]
    exact List.take_of_length_le (Nat.succ_le_succ k.zero_le)

/-- **A magnitude is written as an integer**: with a zero in front it would be below the power
of ten of the digits behind the zero, and would be written with no more than these. -/
theorem isNumeral_toDigits (n : ℕ) : IsNumeral (Nat.toDigits 10 n) := by
  have hdigits : (Nat.toDigits 10 n).all Char.isDigit = true := List.all_eq_true.mpr fun c hc =>
    Nat.isDigit_of_mem_toDigits (by decide) (by decide) hc
  refine ⟨hdigits, List.ne_nil_of_length_pos Nat.length_toDigits_pos, fun hzero => ?_⟩
  obtain ⟨ds, hds⟩ := List.head?_eq_some_iff.mp hzero
  obtain _ | ⟨c, ds⟩ := ds
  · exact hds
  have hvalue : Nat.ofDigitChars 10 (Nat.toDigits 10 n) 0 = n := Nat.ofDigitChars_ten_toDigits
  have hfirst : Text.digitOf '0' = 0 := rfl
  rw [hds] at hvalue hdigits
  rw [Text.ofDigitChars_cons_zero, hfirst, Nat.mul_zero, Nat.zero_add] at hvalue
  have hbelow := Text.ofDigitChars_lt (Bool.and_eq_true_iff.mp hdigits).2
  rw [hvalue] at hbelow
  have hlength := (Nat.length_toDigits_le_iff (by decide) (Nat.succ_pos _)).mpr hbelow
  rw [hds, List.length_cons] at hlength
  exact absurd hlength (Nat.not_succ_le_self _)

/-- **What stands before the point is an integer.** -/
theorem isNumeral_take_digits (d : Decimal) :
    IsNumeral ((d.digits (d.scale + 1)).take ((d.digits (d.scale + 1)).length - d.scale)) := by
  have hlength := d.length_digits (d.scale + 1)
  by_cases hshort : d.digitCount ≤ d.scale
  · -- zeros are put in front, and the first of them is all that stands before the point
    obtain ⟨k, hk⟩ : ∃ k, d.scale + 1 - (Nat.toDigits 10 d.unscaled).length = k + 1 :=
      ⟨d.scale - d.digitCount, by rw [← digitCount]; omega⟩
    have hone : (d.digits (d.scale + 1)).length - d.scale = 1 := by omega
    rw [hone, digits, List.leftpad, hk]
    exact ⟨rfl, List.cons_ne_nil _ _, fun _ => rfl⟩
  · have hnone : d.scale + 1 - (Nat.toDigits 10 d.unscaled).length = 0 := by
      rw [← digitCount]
      omega
    have hself : d.digits (d.scale + 1) = Nat.toDigits 10 d.unscaled := by
      rw [digits, List.leftpad, hnone]
      rfl
    rw [hself] at hlength ⊢
    exact (isNumeral_toDigits _).take (by omega)

/-- A number is written with its digits, cut at the point. -/
theorem exists_text_eq (d : Decimal) : ∃ whole fraction, IsNumeral whole ∧
    whole ++ fraction = d.digits (d.scale + 1) ∧ fraction.length = d.scale ∧
    d.text = (if d.negative then ['-'] else []) ++
      (whole ++ if d.scale = 0 then [] else '.' :: fraction) := by
  have hlength := d.length_digits (d.scale + 1)
  refine ⟨_, _, isNumeral_take_digits d, List.take_append_drop _ _, ?_, ?_⟩
  · rw [List.length_drop]
    omega
  · rw [text, magnitudeText]
    by_cases hscale : d.scale = 0
    · cases d.negative <;> simp [hscale]
    · cases d.negative <;> simp [hscale]

/-- **A number is written in plain form.** -/
theorem plainForm_text (d : Decimal) : PlainForm d.negative d.scale d.text := by
  obtain ⟨whole, fraction, hwhole, hdigits, hlength, htext⟩ := d.exists_text_eq
  refine ⟨whole, fraction, hwhole, List.all_eq_true.mpr fun c hc => ?_, hlength, htext⟩
  refine List.all_eq_true.mp (d.all_isDigit_digits (d.scale + 1)) c ?_
  rw [← hdigits]
  exact List.mem_append_right whole hc

/-- **A number is read back from its text.** -/
theorem ofText_toText (d : Decimal) : ofText d.toText = .ok d := by
  obtain ⟨whole, fraction, hwhole, hdigits, hlength, htext⟩ := d.exists_text_eq
  have hfraction : fraction.all Char.isDigit = true := by
    have hall := d.all_isDigit_digits (d.scale + 1)
    rw [← hdigits, List.all_append, Bool.and_eq_true] at hall
    exact hall.2
  have hliteral : IsLiteral d.text ⟨d.negative, whole, fraction⟩ :=
    ⟨⟨⟨_, _, isSign_ite _, isTail_ite hlength, htext⟩, hwhole.digits, hfraction⟩,
      .inl hwhole.ne_nil⟩
  refine hliteral.ofText_eq (means_iff.mpr ?_)
  rw [LiteralParts.toDecimal, hdigits, ofDigitChars_digits, hlength, make_self]

/-! ### Literals and numbers -/

/-- **What is read from a text** without a scale being asked for. -/
structure ReadsLiteral (text : String) (context : Context) : Prop where
  /-- A text is read where it is a literal but for the white space around it. -/
  accepted_iff (d : Decimal) : parse (.text text) none context = .ok d ↔
    ∃ core parts, Text.Stripped Text.isBlank text.toList core ∧ IsLiteral core parts ∧
      Means parts d
  /-- Any other is refused as a literal. -/
  refused : (¬∃ core parts, Text.Stripped Text.isBlank text.toList core ∧ IsLiteral core parts) →
    ∃ flaw, parse (.text text) none context = .error (.literal (.text text) flaw)

theorem parse_text (text : String) (scale : Option Int) (context : Context) :
    parse (.text text) scale context = ofText text >>= fun d => d.rescale? scale context := rfl

theorem parse_none (text : String) (context : Context) :
    parse (.text text) none context = ofText text := by
  rw [parse_text]
  cases ofText text <;> rfl

/-- **Literals are read as what they mean and nothing else is read; a number is written as a
literal in plain form, which means the number.** -/
theorem reads_writes_literals (context : Context) :
    (∀ text, ReadsLiteral text context) ∧
      ∀ d : Decimal, parse (.text d.toText) none context = .ok d ∧
        PlainForm d.negative d.scale d.toText.toList := by
  refine ⟨fun text => ⟨fun d => ?_, fun h => ?_⟩, fun d => ⟨?_, ?_⟩⟩
  · rw [parse_none, ofText_eq_ok_iff]
    constructor
    · rintro ⟨parts, hliteral, hmeans⟩
      exact ⟨_, parts, Text.stripped_iff.mpr rfl, hliteral, hmeans⟩
    · rintro ⟨core, parts, hcore, hliteral, hmeans⟩
      obtain rfl := Text.stripped_iff.mp hcore
      exact ⟨parts, hliteral, hmeans⟩
  · rw [parse_none]
    refine exists_ofText_eq_error fun ⟨parts, hliteral⟩ => h ?_
    exact ⟨_, parts, Text.stripped_iff.mpr rfl, hliteral⟩
  · rw [parse_none, ofText_toText]
  · rw [toText, String.toList_ofList]
    exact d.plainForm_text

end FixedWidth.Decimal
