import FixedWidth.Display.Field
import FixedWidth.Proofs.Display.Signed
import FixedWidth.Proofs.Display.Text
import FixedWidth.Proofs.Number.Rescale
import FixedWidth.Proofs.Storage.Zoned

/-!
# Fields on display, written and read back

A field is shown by one of three codecs, and writing and reading do not choose among
them in the same way. Writing looks at the value as well as at the geometry: a number
goes to the codec for signed numbers even where its field is plain digits, which
reading leaves to the codec for digits. The two choices still belong together, since a
number that such a field takes has neither sign nor point, and is then written as its
digits (`FixedWidth.Display.parseDigits_eq_ok_iff`). So reading a numeric field is, for
every geometry, reading a signed number under a condition on the sign
(`FixedWidth.Display.parseField_numeric_eq_ok_iff`), and writing a number is, for every
geometry, rounding it and writing a signed number
(`FixedWidth.Display.formatField_decimal`).

`FixedWidth.Display.fields_invertible` puts them together. What is shown is read as the
value that was rounded, or cut, to the field; and what was read is shown again as it
stood, but for the sign of a zero. A number that the arithmetic does not round has no third
outcome of its own, since it is told of as one of too many digits
(`FixedWidth.Display.not_fields_invertible`).
-/

namespace FixedWidth

namespace Decimal

/-- Rounding makes no number negative. -/
theorem negative_roundTo_eq_false {d : Decimal} (h : d.negative = false) (scale : Nat)
    (mode : Rounding) : (d.roundTo scale mode).negative = false := by
  rw [roundTo]
  split <;> rw [negative_make, h, Bool.false_and]

end Decimal

namespace Display

variable {cs : List Char} {signed : Bool} {i f : Nat} {d r : Decimal} {content : Content}

/-! ### Reading -/

/-- **A field of digits is a field of signed numbers without places**, but for the sign,
which it does not take. -/
theorem parseDigits_eq_ok_iff (hpos : 0 < i) :
    parseDigits cs i 0 = .ok d ↔
      parseSigned cs i (0 : Nat) = .ok d ∧ cs.head? ≠ some '-' := by
  rw [parseSigned_eq_ok_iff, parseDigits]
  constructor
  · intro h
    split at h
    · cases h
    next hwidth =>
    obtain ⟨-, -, hdigits, rfl⟩ := Zoned.decode_unsigned_eq_ok_iff.mp h
    have hlength : cs.length = i := by omega
    have hself := pointed_zero hlength
    refine ⟨⟨false, cs, hself.symm, hdigits, hlength, rfl⟩, ?_⟩
    rw [← hself]
    exact head?_pointed_ne hdigits hlength
  · rintro ⟨⟨negative, ds, rfl, hdigits, hlength, rfl⟩, hsign⟩
    have hnonnegative : negative = false := by
      cases negative with
      | true => exact absurd rfl hsign
      | false => rfl
    have hself : withSign false (pointed i 0 ds) = ds := pointed_zero hlength
    have hwidth : (ds.length : Int) = i := by omega
    rw [hnonnegative, hself, if_neg (not_not_intro hwidth), Zoned.decode_unsigned_eq_ok_iff]
    refine ⟨Int.le_refl 0, ?_, hdigits, rfl⟩
    rw [← List.length_pos_iff]
    omega

/-- What a field without a sign asks of its text, or of the number read from it. -/
def Unsigned (f : Nat) (cs : List Char) (d : Decimal) : Prop :=
  if f = 0 then cs.head? ≠ some '-' else d.negative = false

/-- **What is read from a numeric field.** -/
theorem parseField_numeric_eq_ok_iff (hpos : 0 < i + f) :
    parseField cs (.numeric signed i f) = .ok content ↔
      ∃ d, parseSigned cs i f = .ok d ∧ (signed = false → Unsigned f cs d) ∧
        content = .number d := by
  rw [parseField]
  -- a field of plain digits has a reader of its own
  by_cases hdigits : signed = false ∧ f = 0
  · obtain ⟨rfl, rfl⟩ := hdigits
    have hcodec : (!false && (0 : Nat) == 0) = true := rfl
    rw [if_pos hcodec, map_eq_ok_iff]
    refine exists_congr fun d => ?_
    have hread := @parseDigits_eq_ok_iff cs i d hpos
    rw [Nat.add_zero, Unsigned, if_pos rfl, imp_iff_right rfl, ← and_assoc, @eq_comm _ content]
    exact and_congr_left' hread
  · have hcodec : ¬(!signed && f == 0) = true := by simpa using hdigits
    rw [if_neg hcodec, bind_eq_ok_iff]
    refine exists_congr fun d => and_congr_right fun _ => ?_
    cases signed with
    | true => simp [eq_comm]
    | false =>
      have hf : f ≠ 0 := fun h => hdigits ⟨rfl, h⟩
      rw [Unsigned, if_neg hf, imp_iff_right rfl]
      cases d.negative <;> simp [eq_comm]

/-! ### Writing -/

/-- A text is shown as it is. -/
theorem shownText_toValue (cs : List Char) : shownText (Content.text cs).toValue = some cs :=
  congrArg some String.toList_ofList

/-- **A number in a numeric field**: its sign is looked at first, and it is the sign from
before rounding. -/
theorem formatField_decimal (v : Decimal) (mode : Rounding) :
    formatField (.decimal v) (.numeric signed i f) mode =
      if v.negative = true ∧ signed = false then .error .negativeToShow
      else formatNumber v i f mode := by
  have hcodec : formatField (.decimal v) (.numeric signed i f) mode =
      formatNumeric (.decimal v) signed i f mode := ite_self _
  have hsign : (v.negative && !signed) = true ↔ v.negative = true ∧ signed = false := by simp
  rw [hcodec, ← formatSigned_decimal]
  cases hnegative : v.negative <;> cases signed <;> simp [formatNumeric, Decimal.ofValue, hnegative]

/-! ### Both directions -/

/-- **How a field shows text.** -/
structure ShowsText (n : Nat) : Prop where
  /-- What is shown of a text is read as the text, cut to the field and without the
  spaces at its end. -/
  read_shown (s : String) (mode : Rounding) :
    ∃ cs, formatField (.text s) (.alphanumeric n) mode = .ok cs ∧
      parseField cs (.alphanumeric n) =
        .ok (.text (Text.dropWhileEnd (· == ' ') (s.toList.take n)))
  /-- What is read is shown as it stood. -/
  shown_read {cs : List Char} {content : Content} (mode : Rounding) :
    parseField cs (.alphanumeric n) = .ok content →
      formatField content.toValue (.alphanumeric n) mode = .ok cs

/-- **How a field shows numbers.** -/
structure ShowsNumbers (signed : Bool) (i f : Nat) : Prop where
  /-- A number below zero is not shown without a sign. -/
  negative_refused (v : Decimal) (mode : Rounding) :
    v.negative = true ∧ signed = false →
      formatField (.decimal v) (.numeric signed i f) mode = .error .negativeToShow
  /-- A number beyond the limits of the arithmetic is not shown. -/
  limit_refused (v : Decimal) (mode : Rounding) :
    ¬(v.negative = true ∧ signed = false) → ¬v.Roundable f mode →
      ∃ fault ∈ v.limitFaults f,
        formatField (.decimal v) (.numeric signed i f) mode = .error fault
  /-- What stands before the point after rounding has to fit. -/
  overflow_refused (v : Decimal) (mode : Rounding) :
    ¬(v.negative = true ∧ signed = false) → v.Roundable f mode →
      ¬(v.roundTo f mode).wholePart < Nat.pow 10 i →
        formatField (.decimal v) (.numeric signed i f) mode =
          .error (.digitOverflow (v.roundTo f mode).integerDigits i)
  /-- What is shown of any other number is read as the number rounded to the places. -/
  read_shown (v : Decimal) (mode : Rounding) :
    ¬(v.negative = true ∧ signed = false) → v.Roundable f mode →
      (v.roundTo f mode).wholePart < Nat.pow 10 i →
        ∃ cs, formatField (.decimal v) (.numeric signed i f) mode = .ok cs ∧
          parseField cs (.numeric signed i f) = .ok (.number (v.roundTo f mode))
  /-- What is read is shown as it stood, but for the sign of a zero. -/
  shown_read {cs : List Char} {content : Content} (mode : Rounding) :
    parseField cs (.numeric signed i f) = .ok content →
      formatField content.toValue (.numeric signed i f) mode = .ok (withoutZeroSign cs)

/-- How a field shows what it holds. -/
def Invertible : Geometry → Prop
  | .alphanumeric n => ShowsText n
  | .numeric signed i f => ShowsNumbers signed i f

theorem showsText (n : Nat) : ShowsText n where
  read_shown s mode := by
    refine ⟨fit .right n s.toList, ?_, ?_⟩
    · rw [formatField, formatText_natCast]
      rfl
    · rw [parseField, parseText_natCast, if_pos (length_fit ..), unfit_fit]
      rfl
  shown_read {cs content} mode h := by
    obtain ⟨text, hread, rfl⟩ := map_eq_ok_iff.mp h
    rw [parseText_natCast] at hread
    split at hread
    next hwidth =>
      rw [formatField, formatText_natCast, shownText_toValue, Option.getD_some,
        ← Except.ok.inj hread, ← hwidth, fit_unfit]
    next => cases hread

theorem showsNumbers (hpos : 0 < i + f) (hf : f ≤ 999999) : ShowsNumbers signed i f where
  negative_refused v mode h := by rw [formatField_decimal, if_pos h]
  limit_refused v mode hsign hroundable := by
    rw [formatField_decimal, if_neg hsign]
    exact exists_formatNumber_limitFault hf hroundable
  overflow_refused v mode hsign hroundable h := by
    rw [formatField_decimal, if_neg hsign, formatNumber_eq hf hroundable, if_pos h]
  read_shown v mode hsign hroundable h := by
    have hscale : (v.roundTo f mode).scale = f := v.scale_roundTo f mode
    have hcount : (v.roundTo f mode).digitCount ≤ i + f := by
      have := Decimal.digitCount_le_of_wholePart_lt (by rw [hscale]; exact hpos) h
      rwa [hscale] at this
    refine ⟨signedText (v.roundTo f mode) i f, ?_, ?_⟩
    · rw [formatField_decimal, if_neg hsign, formatNumber_eq hf hroundable,
        if_neg (not_not_intro h)]
    · refine (parseField_numeric_eq_ok_iff hpos).mpr
        ⟨_, parseSigned_signedText hscale h, fun hunsigned => ?_, rfl⟩
      -- the sign was looked at before rounding, and rounding brings none in
      have hnegative : (v.roundTo f mode).negative = false :=
        Decimal.negative_roundTo_eq_false
          (Bool.eq_false_iff.mpr fun hv => hsign ⟨hv, hunsigned⟩) f mode
      rw [Unsigned]
      split
      · rw [signedText_eq, hnegative]
        exact head?_pointed_ne (Decimal.all_isDigit_digits _ _) (Decimal.length_digits_eq hcount)
      · exact hnegative
  shown_read {cs content} mode h := by
    obtain ⟨d, hread, hsign, rfl⟩ := (parseField_numeric_eq_ok_iff hpos).mp h
    obtain ⟨hscale, hfits⟩ := wholePart_lt_of_parseSigned hread
    have hnegative : ¬(d.negative = true ∧ signed = false) := by
      rintro ⟨hd, hunsigned⟩
      have hcondition := hsign hunsigned
      rw [Unsigned] at hcondition
      split at hcondition
      · rw [negative_eq_false_of_parseSigned hread hcondition] at hd
        cases hd
      · rw [hcondition] at hd
        cases hd
    -- what was read has the field's places already, so that showing it rounds nothing
    have hshown : formatField (.decimal d) (.numeric signed i f) mode = .ok (signedText d i f) := by
      rw [formatField_decimal, if_neg hnegative, formatNumber_self hscale hfits]
    rw [← signedText_of_parseSigned hread]
    exact hshown

/-- **Writing and reading undo each other in a field of any geometry**, with a digit and
at most 999999 places where it is one of numbers. -/
theorem fields_invertible (g : Geometry)
    (hg : g.isAlphanumeric = false → 0 < g.totalDigits ∧ g.fractionDigits ≤ 999999) :
    Invertible g := by
  cases g with
  | alphanumeric n => exact showsText n
  | numeric signed i f =>
    obtain ⟨hpos, hf⟩ := hg rfl
    exact showsNumbers hpos hf

/-- A price as a picture describes it; a debt is rounded to the cent and read back. -/
theorem price_invertible :
    Geometry.ofPicture "S9(3)V99" = .ok (.numeric true 3 2) ∧
      Invertible (.numeric true 3 2) ∧
      ∃ cs, formatField (.decimal (.make 1005 true 3)) (.numeric true 3 2) .halfUp = .ok cs ∧
        parseField cs (.numeric true 3 2) = .ok (.number (.make 101 true 2)) := by
  have hprice : Invertible (.numeric true 3 2) :=
    fields_invertible (.numeric true 3 2) fun _ => ⟨by decide, by decide⟩
  have hshows : ShowsNumbers true 3 2 := hprice
  have hrounded : (Decimal.make 1005 true 3).roundTo 2 .halfUp = .make 101 true 2 := by
    decide +kernel
  refine ⟨by decide +kernel, hprice, ?_⟩
  rw [← hrounded]
  have hroundable : (Decimal.make 1005 true 3).Roundable 2 .halfUp :=
    Decimal.roundable_of_digitCount_le (by decide) (by decide) (by decide +kernel) _
  exact hshows.read_shown _ .halfUp (by decide) hroundable (by decide +kernel)

/-- **Not every number is shown or refused for its sign or its digits before the point.** -/
theorem not_fields_invertible :
    ¬∀ (signed : Bool) (i f : Nat) (v : Decimal) (mode : Rounding), 0 < i + f → f ≤ 999999 →
      formatField (.decimal v) (.numeric signed i f) mode = .error .negativeToShow ∨
        (∃ digits capacity, formatField (.decimal v) (.numeric signed i f) mode =
          .error (.digitOverflow digits capacity)) ∨
        ∃ cs, formatField (.decimal v) (.numeric signed i f) mode = .ok cs := by
  intro h
  have hrefused := @formatNumber_of_finest 1 0 (by decide) (.make 1 false 2000000000000000000)
    (by decide) (by decide) (by decide +kernel) .halfUp
  have hsign : ¬((Decimal.make 1 false 2000000000000000000).negative = true ∧ false = false) := by
    decide
  have hshown := h false 1 0 (.make 1 false 2000000000000000000) .halfUp (by decide) (by decide)
  rw [formatField_decimal, if_neg hsign, hrefused] at hshown
  obtain h | ⟨digits, capacity, h⟩ | ⟨cs, h⟩ := hshown
  · cases h
  · cases h
  · cases h

end Display

end FixedWidth
