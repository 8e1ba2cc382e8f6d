import FixedWidth.Proofs.Record.Canonical
import FixedWidth.Proofs.Storage.Agreement

/-!
# What comes back whole

A slot keeps of most values only a part: it cuts a text and drops the spaces at its end,
and it brings a number to its scale. Of some content it keeps everything, and
`FixedWidth.Record.Whole` says of which: a text of characters of the page that is not
longer than the slot and does not end in a space, and a number with the places of the
field that fits it.

Such content can always be written, whatever the usage, as long as the field has bytes
at all (`FixedWidth.Record.Whole.exists_encodeSlot`); and a record of such contents is
read back as exactly these (`FixedWidth.Record.exists_encode_of_heldWhole`), in the first
of the EBCDIC pages.
-/

namespace FixedWidth.Record

open Copybook (Field)

attribute [local irreducible] Field.geometry

variable {f : Field} {content content' : Content} {width total : Nat} {fields : List Field}

/-! ### One slot -/

/-- **A number that fits is taken by every kind of slot** that has bytes for its digits. -/
theorem exists_encodeNumber {signed : Bool} {totalDigits : Nat} {d : Decimal}
    (hwidth : (Usage.ofName f.usage).numericLength totalDigits = .ok width)
    (hfits : d.Fits totalDigits signed) :
    ∃ raw, encodeNumber f signed totalDigits d CodePage.cp037.codec = .ok raw := by
  unfold encodeNumber
  cases husage : Usage.ofName f.usage with
  | display =>
    obtain ⟨bytes, hbytes, -⟩ := Zoned.exists_bytes_of_textOf d totalDigits signed
    refine ⟨bytes, ?_⟩
    change Zoned.encodeBytes d totalDigits CodePage.cp037.codec signed = .ok bytes
    rw [Zoned.encodeBytes, Zoned.encode_eq_ok_iff.mpr ⟨hfits, rfl⟩, ok_bind, Int.toNat_natCast,
      ← hbytes, CodePage.encode_cp037]
  | packed => exact ⟨_, Packed.encode_eq_ok_iff.mpr ⟨by simpa using hfits, rfl⟩⟩
  | binary =>
    rw [husage] at hwidth
    exact ⟨_, encodeBinary_eq_ok_iff.mpr ⟨hfits, width, hwidth, rfl⟩⟩
  | unsupported name =>
    -- such a field has no bytes at all
    rw [husage] at hwidth
    cases hwidth

/-- Characters of the page are read from some bytes. -/
theorem exists_map_cp037Char {cs : List Char} (h : ∀ c ∈ cs, ∃ b, CodePage.cp037Char b = c) :
    ∃ bytes : List UInt8, bytes.map CodePage.cp037Char = cs := by
  induction cs with
  | nil => exact ⟨[], rfl⟩
  | cons c cs ih =>
    obtain ⟨⟨b, rfl⟩, hcs⟩ := List.forall_mem_cons.mp h
    obtain ⟨bytes, rfl⟩ := ih hcs
    exact ⟨b :: bytes, rfl⟩

/-- **Whether a slot keeps all of a content.** -/
inductive Whole (f : Field) : Content → Prop where
  /-- A text of characters of the page that the slot has room for, without spaces at its
  end. -/
  | text {n : Nat} {cs : List Char} (geometry : f.geometry = .ok (.alphanumeric n))
      (length_le : cs.length ≤ n) (inPage : ∀ c ∈ cs, ∃ b, CodePage.cp037Char b = c)
      (trimmed : Text.dropWhileEnd (· == ' ') cs = cs) : Whole f (.text cs)
  /-- A number with the places of the field that fits it and the arithmetic. -/
  | number {signed : Bool} {integerDigits scale : Nat} {d : Decimal}
      (geometry : f.geometry = .ok (.numeric signed integerDigits scale))
      (places : d.scale = scale) (fits : d.Fits (min (integerDigits + scale) 31) signed) :
      Whole f (.number d)

namespace Whole

/-- **What a slot keeps whole can be written.** -/
theorem exists_encodeSlot (h : Whole f content) (hwidth : f.storageLength = .ok width) :
    ∃ raw, encodeSlot f content.toValue CodePage.cp037.codec = .ok raw := by
  cases h with
  | @text n cs hg hlen hpage _ =>
    have hspace : ∃ b, CodePage.cp037Char b = ' ' := ⟨0x40, by decide +kernel⟩
    have hfit : ∀ c ∈ Display.fit .right n cs, ∃ b, CodePage.cp037Char b = c := by
      intro c hc
      rw [Display.fit, List.take_of_length_le hlen, List.rightpad] at hc
      rcases List.mem_append.mp hc with hc | hc
      · exact hpage c hc
      · rw [(List.mem_replicate.mp hc).2]
        exact hspace
    obtain ⟨bytes, hbytes⟩ := exists_map_cp037Char hfit
    refine ⟨bytes, ?_⟩
    rw [encodeSlot_text hg, Display.shownText_toValue, Option.getD_some, ← hbytes,
      CodePage.encode_cp037]
  | @number signed i scale d hg hplaces hfits =>
    have hshort := hfits.digitCount_le
    have hcoerce : Decimal.coerce (Content.number d).toValue (some scale) {} = .ok d :=
      (coerce_toValue_eq_ok_iff hplaces).mpr ⟨by omega, rfl⟩
    rcases storageLength_eq_ok_iff.mp hwidth with hg' | ⟨signed', i', scale', hg', hnumeric⟩
    · cases hg.symm.trans hg'
    · cases hg.symm.trans hg'
      obtain ⟨raw, hraw⟩ := exists_encodeNumber hnumeric (hfits.mono (Nat.min_le_left _ _))
      exact ⟨raw, (encodeSlot_number_eq_ok_iff hg).mpr ⟨d, hcoerce, hraw⟩⟩

/-- **And nothing of it is lost.** -/
theorem eq_of_keeps (h : Whole f content) (hkeeps : Keeps f content.toValue content') :
    content' = content := by
  cases h with
  | @text n cs hg hlen _ htrimmed =>
    cases hkeeps with
    | text hg' =>
      cases hg.symm.trans hg'
      rw [Display.shownText_toValue, Option.getD_some, List.take_of_length_le hlen, htrimmed]
    | number hg' => cases hg.symm.trans hg'
  | @number signed i scale d hg hplaces _ =>
    cases hkeeps with
    | text hg' => cases hg.symm.trans hg'
    | number hg' hvalue =>
      cases hg.symm.trans hg'
      rw [((coerce_toValue_eq_ok_iff hplaces).mp hvalue).2]

/-- A number that is kept whole has the places of its field. -/
theorem comesToScale (h : Whole f content) : ComesToScale f content.toValue := by
  intro signed i scale d hg' hd
  cases h with
  | text hg => cases hg.symm.trans hg'
  | number hg hplaces _ =>
    cases hg.symm.trans hg'
    rw [((coerce_toValue_eq_ok_iff hplaces).mp hd).2, hplaces]

end Whole

/-! ### A record -/

/-- **Contents for slots, each of which keeps its own whole**, in the order of the slots. -/
structure HeldWhole (row : List (String × Field)) (contents : List (String × Content)) : Prop where
  names_eq : contents.map Prod.fst = row.map Prod.fst
  whole : ∀ slot ∈ row, ∃ content, (slot.1, content) ∈ contents ∧ Whole slot.2 content

/-- **A record of what its slots keep whole can be written, and is read back as it is.** -/
theorem exists_encode_of_heldWhole {contents : List (String × Content)}
    (hlength : length fields = .ok total) (hdistinct : ((slots fields).map Prod.fst).Nodup)
    (hheld : HeldWhole (slots fields) contents) :
    ∃ bytes, encode fields (toValues contents) CodePage.cp037.codec = .ok bytes ∧
      bytes.length = total ∧ decode fields bytes CodePage.cp037.codec = .ok contents := by
  obtain ⟨hsized, htotal⟩ := length_eq_totalWidth hlength
  have hdistinct' : (contents.map Prod.fst).Nodup := by
    rw [hheld.names_eq]
    exact hdistinct
  have hwritten : ∀ slot ∈ slots fields, ∃ raw,
      encodeSlot slot.2 (Value.entry (toValues contents) slot.1) CodePage.cp037.codec = .ok raw := by
    intro slot hslot
    obtain ⟨content, hmem, hwhole⟩ := hheld.whole slot hslot
    rw [entry_toValues hdistinct' hmem]
    exact hwhole.exists_encodeSlot (hsized slot hslot)
  obtain ⟨bytes, hbytes⟩ := exists_encodeSlots hwritten
  have faithful := CodePage.faithful_cp037
  have hlen := length_of_encodeSlots faithful.singleByte hsized hbytes
  obtain ⟨contents', hreads, hnames, hall⟩ := decodeSlots_of_encodeSlots faithful.singleByte hsized
    (fun _ _ cs _ => faithful.undoes cs) hbytes
  have hsame : contents = contents' := by
    refine Entries.eq_of_forall_mem (hheld.names_eq.trans hnames.symm) hdistinct' fun name hname => ?_
    rw [hheld.names_eq] at hname
    obtain ⟨slot, hslot, rfl⟩ := List.mem_map.mp hname
    obtain ⟨content, hmem, hwhole⟩ := hheld.whole slot hslot
    obtain ⟨content', hmem', hkeeps⟩ := hall slot hslot
    rw [entry_toValues hdistinct' hmem] at hkeeps
    exact ⟨content, hmem, hwhole.eq_of_keeps (hkeeps hwhole.comesToScale) ▸ hmem'⟩
  refine ⟨bytes, hbytes, hlen.trans htotal.symm,
    (decode_eq_ok_iff hdistinct).mpr ⟨total, hlength, by omega, ?_⟩⟩
  rw [hreads, hsame]

end FixedWidth.Record
