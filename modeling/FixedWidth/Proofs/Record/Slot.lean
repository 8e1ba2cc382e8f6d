import FixedWidth.Proofs.Display.Field
import FixedWidth.Proofs.Number.Rescale
import FixedWidth.Proofs.Record.Number

/-!
# One slot, written and read back

What a slot does to a value and to bytes. A value that is written is read back as
what the slot keeps of it (`FixedWidth.Record.Keeps`,
`FixedWidth.Record.decodeSlot_of_encodeSlot`), and all that is asked of the codec for
this is that it reads back the characters that stand in the slot
(`FixedWidth.Record.Writes`). Bytes that are read can be written again only when the
slot takes what was read (`FixedWidth.Record.Holds`,
`FixedWidth.Record.holds_of_encodeSlot`), and then they come back as a writer leaves
them (`FixedWidth.Record.canonicalSlot`,
`FixedWidth.Record.encodeSlot_of_decodeSlot`).

The bytes of a slot are always those of its field, in both directions; this is
what lets slots stand in a row without anything between them.
-/

namespace FixedWidth.Record

open Copybook (Field)

-- what a picture says is a matter for its reader; nothing here opens it
attribute [local irreducible] Field.geometry

variable {f : Field} {n integerDigits scale width : Nat} {signed : Bool} {v : Value}
  {codec : Codec} {raw : List UInt8} {content : Content}

/-! ### The two kinds of slot -/

/-- A field has bytes when it is text, or when its usage has bytes for its count of
digits. -/
theorem storageLength_eq_ok_iff :
    f.storageLength = .ok width ↔ f.geometry = .ok (.alphanumeric width) ∨
      ∃ signed i scale, f.geometry = .ok (.numeric signed i scale) ∧
        (Usage.ofName f.usage).numericLength (i + scale) = .ok width := by
  rw [Field.storageLength, bind_eq_ok_iff]
  constructor
  · rintro ⟨_ | ⟨signed, i, scale⟩, hg, hwidth⟩
    · rw [← Except.ok.inj hwidth]
      exact .inl hg
    · exact .inr ⟨signed, i, scale, hg, hwidth⟩
  · rintro (hg | ⟨signed, i, scale, hg, hwidth⟩)
    · exact ⟨_, hg, rfl⟩
    · exact ⟨_, hg, hwidth⟩

theorem decodeSlot_text_eq_ok_iff (hg : f.geometry = .ok (.alphanumeric n)) :
    decodeSlot f raw codec = .ok content ↔ ∃ cs, codec.decode raw = .ok cs ∧
      content = .text (Text.dropWhileEnd (· == ' ') cs) := by
  rw [decodeSlot, hg, ok_bind]
  simp only [bind_eq_ok_iff, pure_eq_ok, Except.ok.injEq]
  exact exists_congr fun cs => and_congr_right fun _ => eq_comm

theorem decodeSlot_number_eq_ok_iff (hg : f.geometry = .ok (.numeric signed integerDigits scale)) :
    decodeSlot f raw codec = .ok content ↔ ∃ d, decodeNumber f signed scale raw codec = .ok d ∧
      content = .number d := by
  rw [decodeSlot, hg, ok_bind]
  simp only [bind_eq_ok_iff, pure_eq_ok, Except.ok.injEq]
  exact exists_congr fun d => and_congr_right fun _ => eq_comm

theorem encodeSlot_text (hg : f.geometry = .ok (.alphanumeric n)) :
    encodeSlot f v codec =
      codec.encode (Display.fit .right n ((Display.shownText v).getD [])) := by
  rw [encodeSlot, hg, ok_bind]
  simp only [Display.formatText_natCast, ok_bind]

theorem encodeSlot_number_eq_ok_iff (hg : f.geometry = .ok (.numeric signed integerDigits scale)) :
    encodeSlot f v codec = .ok raw ↔ ∃ d, Decimal.coerce v (some scale) {} = .ok d ∧
      encodeNumber f signed (integerDigits + scale) d codec = .ok raw := by
  rw [encodeSlot, hg, ok_bind]
  cases v with
  | null =>
    refine iff_of_false (fun h => nomatch h) ?_
    rintro ⟨d, hd, -⟩
    cases hd
  | _ => exact bind_eq_ok_iff

/-! ### Written and read back -/

/-- **The characters that are written into a slot**, if it has any: those of a text, and
those of a number in digits. -/
inductive Writes (f : Field) (v : Value) : List Char → Prop where
  | text {n : Nat} (geometry : f.geometry = .ok (.alphanumeric n)) :
      Writes f v (Display.fit .right n ((Display.shownText v).getD []))
  | zoned {signed : Bool} {integerDigits scale : Nat} {d : Decimal} {cs : List Char}
      (geometry : f.geometry = .ok (.numeric signed integerDigits scale))
      (usage : Usage.ofName f.usage = .display)
      (value : Decimal.coerce v (some scale) {} = .ok d)
      (digits : Zoned.encode d ↑(integerDigits + scale) signed = .ok cs) : Writes f v cs

/-- **What a slot keeps of a value.** -/
inductive Keeps (f : Field) (v : Value) : Content → Prop where
  /-- Of a text, as many characters as the slot has, without the spaces at their
  end; of nothing, no text. -/
  | text {n : Nat} (geometry : f.geometry = .ok (.alphanumeric n)) :
      Keeps f v (.text (Text.dropWhileEnd (· == ' ') (((Display.shownText v).getD []).take n)))
  /-- Of a number, that number at the scale of the field. -/
  | number {signed : Bool} {integerDigits scale : Nat} {d : Decimal}
      (geometry : f.geometry = .ok (.numeric signed integerDigits scale))
      (value : Decimal.coerce v (some scale) {} = .ok d) : Keeps f v (.number d)

/-- A value that is a number comes to the places of its field. Beyond the finest scale it may
stay behind them, and what the slot holds is then taken for a smaller number. -/
def ComesToScale (f : Field) (v : Value) : Prop :=
  ∀ {signed : Bool} {integerDigits scale : Nat} {d : Decimal},
    f.geometry = .ok (.numeric signed integerDigits scale) →
    Decimal.coerce v (some scale) {} = .ok d → d.scale = scale

section Written

variable (hwidth : f.storageLength = .ok width) (h : encodeSlot f v codec = .ok raw)

include hwidth h

/-- **What is written into a slot takes the slot's bytes**, whatever the value. -/
theorem length_of_encodeSlot (single : codec.IsSingleByte) : raw.length = width := by
  rcases storageLength_eq_ok_iff.mp hwidth with hg | ⟨signed, i, scale, hg, hnumeric⟩
  · rw [encodeSlot_text hg] at h
    rw [single h, Display.length_fit]
  · obtain ⟨d, -, hraw⟩ := (encodeSlot_number_eq_ok_iff hg).mp h
    exact length_of_encodeNumber hnumeric hraw single

/-- **What is written into a slot is read back as what the slot keeps**, where the characters
are read back. -/
theorem decodeSlot_of_encodeSlot (undoes : ∀ cs, Writes f v cs → codec.Undoes cs) :
    ∃ content, decodeSlot f raw codec = .ok content ∧
      (ComesToScale f v → Keeps f v content) := by
  rcases storageLength_eq_ok_iff.mp hwidth with hg | ⟨signed, i, scale, hg, hnumeric⟩
  · rw [encodeSlot_text hg] at h
    refine ⟨_, ?_, fun _ => .text hg⟩
    refine (decodeSlot_text_eq_ok_iff hg).mpr ⟨_, undoes _ (.text hg) h, congrArg _ ?_⟩
    exact (Display.unfit_fit .right width _).symm
  · obtain ⟨d, hd, hraw⟩ := (encodeSlot_number_eq_ok_iff hg).mp h
    have hread := decodeNumber_of_encodeNumber hnumeric hraw
      (fun cs husage hcs => undoes cs (.zoned hg husage hd hcs)) scale
    refine ⟨_, (decodeSlot_number_eq_ok_iff hg).mpr ⟨_, hread, rfl⟩, fun hscale => ?_⟩
    rw [← hscale hg hd, Decimal.make_self]
    exact .number hg hd

end Written

/-! ### Read and written again -/

/-- **Whether a slot takes the content**: a text must not be longer than the slot,
and a number must fit it and keep to the 31 digits of a number that is brought to
a scale. This is not to be opened but by the lemmas below, since opening it would
go on into the reading of the field's picture. -/
def Holds (f : Field) (content : Content) : Prop :=
  match f.geometry, content with
  | .ok (.alphanumeric n), .text cs => cs.length ≤ n
  | .ok (.numeric signed i scale), .number d => d.Fits (min (i + scale) 31) signed
  | _, _ => False

instance (f : Field) (content : Content) : Decidable (Holds f content) := by
  unfold Holds
  split <;> infer_instance

/-- **Whether a slot's bytes hold what the slot takes**, once they can be read. -/
def InRange (f : Field) (raw : List UInt8) : Prop :=
  match f.geometry with
  | .ok (.numeric signed i scale) => NumberInRange f signed (i + scale) raw
  | _ => True

instance (f : Field) (raw : List UInt8) : Decidable (InRange f raw) := by
  unfold InRange
  split <;> infer_instance

/-- **The bytes of a slot as a writer would leave them.** -/
def canonicalSlot (f : Field) (raw : List UInt8) : List UInt8 :=
  match f.geometry with
  | .ok (.numeric signed _ _) => canonicalNumber f signed raw
  | _ => raw

theorem holds_number_iff {d : Decimal}
    (hg : f.geometry = .ok (.numeric signed integerDigits scale)) :
    Holds f (.number d) ↔ d.Fits (min (integerDigits + scale) 31) signed := by
  unfold Holds
  rw [hg]

theorem holds_text_iff {cs : List Char} (hg : f.geometry = .ok (.alphanumeric n)) :
    Holds f (.text cs) ↔ cs.length ≤ n := by
  unfold Holds
  rw [hg]

theorem inRange_number_iff (hg : f.geometry = .ok (.numeric signed integerDigits scale)) :
    InRange f raw ↔ NumberInRange f signed (integerDigits + scale) raw := by
  rw [InRange, hg]

/-- A number with the places of its field is handed over as it is, where the
arithmetic has the digits for it. -/
theorem coerce_toValue_eq_ok_iff {d r : Decimal} (hscale : d.scale = scale) :
    Decimal.coerce (Content.number d).toValue (some scale) {} = .ok r ↔
      d.digitCount ≤ 31 ∧ r = d := by
  have hrescale : Decimal.coerce (Content.number d).toValue (some scale) {} =
      d.rescale d.scale {} := by
    rw [hscale]
    rfl
  have hprecision : ({} : Context).precision = 31 := rfl
  rw [hrescale, Decimal.rescale_self_eq_ok_iff, hprecision]
  exact and_congr_left fun _ => by omega

/-- The characters of a text slot are those of its text, filled up. -/
theorem fit_of_decode {cs : List Char} (hwidth : f.storageLength = .ok width)
    (hlen : raw.length = width) (hg : f.geometry = .ok (.alphanumeric n))
    (hcs : CodePage.cp037.codec.decode raw = .ok cs) :
    Display.fit .right n (Text.dropWhileEnd (· == ' ') cs) = cs := by
  -- the page has one byte to a character, so that there are as many of these as the slot has bytes
  have hn : n = width :=
    Except.ok.inj ((storageLength_eq_ok_iff.mpr (.inl hg)).symm.trans hwidth)
  have hwhole : n = cs.length := by
    rw [CodePage.decode_cp037] at hcs
    rw [hn, ← hlen, ← Except.ok.inj hcs, List.length_map]
  rw [hwhole]
  exact Display.fit_unfit .right cs

section Read

variable (hwidth : f.storageLength = .ok width) (hlen : raw.length = width)
  (h : decodeSlot f raw CodePage.cp037.codec = .ok content)

include hwidth hlen h

/-- A text is never longer than the slot that it was read from. -/
theorem holds_of_text (hg : f.geometry = .ok (.alphanumeric n)) : Holds f content := by
  obtain ⟨cs, hcs, rfl⟩ := (decodeSlot_text_eq_ok_iff hg).mp h
  have hfit := congrArg List.length (fit_of_decode hwidth hlen hg hcs)
  obtain ⟨spaces, hspaces⟩ := Text.exists_dropWhileEnd_append_replicate cs
  have hsum := congrArg List.length hspaces
  rw [Display.length_fit] at hfit
  rw [List.length_append] at hsum
  exact (holds_text_iff hg).mpr (by omega)

/-- **What was read fits exactly when the bytes are in range**, in fields of no more
digits than numbers can have. -/
theorem holds_iff_inRange (hdigits : ∀ g, f.geometry = .ok g → g.totalDigits ≤ 31) :
    Holds f content ↔ InRange f raw := by
  rcases storageLength_eq_ok_iff.mp hwidth with hg | ⟨signed, i, scale, hg, hnumeric⟩
  · refine iff_of_true (holds_of_text hwidth hlen h hg) ?_
    rw [InRange, hg]
    trivial
  · obtain ⟨d, hd, rfl⟩ := (decodeSlot_number_eq_ok_iff hg).mp h
    have hmin : min (i + scale) 31 = i + scale := Nat.min_eq_left (hdigits _ hg)
    rw [holds_number_iff hg, inRange_number_iff hg, hmin,
      fits_iff_numberInRange hnumeric hlen hd]

/-- **What a slot takes is written as it was read**, but for the sign. -/
theorem encodeSlot_of_decodeSlot (hholds : Holds f content) :
    encodeSlot f content.toValue CodePage.cp037.codec = .ok (canonicalSlot f raw) := by
  rcases storageLength_eq_ok_iff.mp hwidth with hg | ⟨signed, i, scale, hg, hnumeric⟩
  · obtain ⟨cs, hcs, rfl⟩ := (decodeSlot_text_eq_ok_iff hg).mp h
    rw [encodeSlot_text hg, Display.shownText_toValue, Option.getD_some,
      fit_of_decode hwidth hlen hg hcs]
    rw [CodePage.decode_cp037] at hcs
    rw [← Except.ok.inj hcs, CodePage.encode_cp037, canonicalSlot, hg]
  · obtain ⟨d, hd, rfl⟩ := (decodeSlot_number_eq_ok_iff hg).mp h
    have hfits := (holds_number_iff hg).mp hholds
    have hshort := hfits.digitCount_le
    have hcoerce : Decimal.coerce (Content.number d).toValue (some scale) {} = .ok d :=
      (coerce_toValue_eq_ok_iff (scale_of_decodeNumber hd)).mpr ⟨by omega, rfl⟩
    refine (encodeSlot_number_eq_ok_iff hg).mpr ⟨d, hcoerce, ?_⟩
    rw [canonicalSlot, hg]
    exact encodeNumber_of_decodeNumber hnumeric hlen hd (hfits.mono (Nat.min_le_left _ _))

/-- **A slot can be written again only with what it takes.** -/
theorem holds_of_encodeSlot {raw' : List UInt8}
    (hwritten : encodeSlot f content.toValue CodePage.cp037.codec = .ok raw') :
    Holds f content := by
  rcases storageLength_eq_ok_iff.mp hwidth with hg | ⟨signed, i, scale, hg, -⟩
  · exact holds_of_text hwidth hlen h hg
  · obtain ⟨d, hd, rfl⟩ := (decodeSlot_number_eq_ok_iff hg).mp h
    obtain ⟨r, hr, hraw⟩ := (encodeSlot_number_eq_ok_iff hg).mp hwritten
    obtain ⟨hshort, rfl⟩ := (coerce_toValue_eq_ok_iff (scale_of_decodeNumber hd)).mp hr
    have hfits := fits_of_encodeNumber hraw
    exact (holds_number_iff hg).mpr
      ⟨Nat.le_min.mpr ⟨hfits.digitCount_le, hshort⟩, hfits.nonnegative⟩

/-- What was read from a slot is all kept by it. -/
theorem eq_of_keeps_toValue {content' : Content} (hkeeps : Keeps f content.toValue content') :
    content' = content := by
  -- what is kept of it is what is read, as reading and writing cut and fill it alike
  cases hkeeps with
  | @text n hg =>
    obtain ⟨cs, hcs, rfl⟩ := (decodeSlot_text_eq_ok_iff hg).mp h
    have hfit := fit_of_decode hwidth hlen hg hcs
    rw [Display.shownText_toValue, Option.getD_some]
    refine congrArg Content.text ?_
    exact (Display.unfit_fit .right n _).symm.trans (congrArg (Display.unfit .right) hfit)
  | number hg hvalue =>
    obtain ⟨d, hd, rfl⟩ := (decodeSlot_number_eq_ok_iff hg).mp h
    obtain ⟨-, rfl⟩ := (coerce_toValue_eq_ok_iff (scale_of_decodeNumber hd)).mp hvalue
    rfl

omit hwidth hlen in
/-- It has the places of its field, however many these are. -/
theorem comesToScale_toValue : ComesToScale f content.toValue := by
  intro signed i scale d hg hd
  obtain ⟨d', hd', rfl⟩ := (decodeSlot_number_eq_ok_iff hg).mp h
  have hscale := scale_of_decodeNumber hd'
  rw [((coerce_toValue_eq_ok_iff hscale).mp hd).2, hscale]

/-- **What a slot takes is read again from the bytes that a writer leaves**, which are
as many as before. -/
theorem decodeSlot_canonicalSlot (hholds : Holds f content) :
    (canonicalSlot f raw).length = width ∧
      decodeSlot f (canonicalSlot f raw) CodePage.cp037.codec = .ok content := by
  have hwritten := encodeSlot_of_decodeSlot hwidth hlen h hholds
  obtain ⟨content', hread, hkeeps⟩ :=
    decodeSlot_of_encodeSlot hwidth hwritten fun cs _ => CodePage.faithful_cp037.undoes cs
  rw [eq_of_keeps_toValue hwidth hlen h (hkeeps (comesToScale_toValue h))] at hread
  exact ⟨length_of_encodeSlot hwidth hwritten CodePage.faithful_cp037.singleByte, hread⟩

end Read

end FixedWidth.Record
