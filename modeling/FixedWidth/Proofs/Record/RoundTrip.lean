import FixedWidth.Proofs.Picture.Presented
import FixedWidth.Proofs.Record.Layout
import FixedWidth.Proofs.Record.Slot
import Mathlib.Data.List.Nodup

/-!
# Records, written and read back

A record is read back slot by slot as it was written, because both directions cut
it in the same places. What is written from the slots on is read from them on
(`FixedWidth.Record.decodeSlots_of_encodeSlots`), and
`FixedWidth.Record.record_roundTrip` says it of the record, by name.

The names of the slots have to be different, since a value is found by the name of
its slot. Of the codec no more is asked than one byte to a character, and that it reads
back the characters that are written.

A number is kept at the scale of its field as long as there are such places
(`FixedWidth.Record.PlacesInReach`). The arithmetic names none finer than 1000026; a field
with more of them is written with the digits that there are, and read as if they were as
many as the field has (`FixedWidth.Record.not_record_roundTrip`).
-/

namespace FixedWidth.Record

open Copybook (Field)

attribute [local irreducible] Field.geometry

variable {fields : List Field} {row : List (String × Field)} {f : Field} {v : Value}
  {values : List (String × Value)} {codec : Codec} {bytes : List UInt8} {total : Nat}

/-! ### Slots in a row -/

/-- **Slots take their own bytes**, and nothing is written between them. -/
theorem length_of_encodeSlots (single : codec.IsSingleByte) (hsized : Sized row)
    (h : encodeSlots codec values row = .ok bytes) : bytes.length = totalWidth row := by
  induction row generalizing bytes with
  | nil =>
    cases h
    rfl
  | cons slot row ih =>
    obtain ⟨hslot, hrow⟩ := List.forall_mem_cons.mp hsized
    obtain ⟨raw, hraw, h⟩ := bind_eq_ok_iff.mp h
    obtain ⟨rest, hrest, h⟩ := bind_eq_ok_iff.mp h
    rw [← Except.ok.inj h, List.length_append, length_of_encodeSlot hslot hraw single,
      ih hrow hrest, totalWidth]

/-- **What is written slot by slot is read slot by slot**: each slot gives what it
keeps of the value under its name. -/
theorem decodeSlots_of_encodeSlots (single : codec.IsSingleByte) (hsized : Sized row)
    (undoes : ∀ slot ∈ row, ∀ cs, Writes slot.2 (Value.entry values slot.1) cs → codec.Undoes cs)
    (h : encodeSlots codec values row = .ok bytes) :
    ∃ contents, decodeSlots codec row bytes = .ok contents ∧
      contents.map Prod.fst = row.map Prod.fst ∧ ∀ slot ∈ row, ∃ content,
        (slot.1, content) ∈ contents ∧ (ComesToScale slot.2 (Value.entry values slot.1) →
          Keeps slot.2 (Value.entry values slot.1) content) := by
  induction row generalizing bytes with
  | nil =>
    cases h
    exact ⟨[], rfl, rfl, fun slot hslot => absurd hslot List.not_mem_nil⟩
  | cons slot row ih =>
    obtain ⟨name, f⟩ := slot
    obtain ⟨hslot, hrow⟩ := List.forall_mem_cons.mp hsized
    obtain ⟨hundoes, hothers⟩ := List.forall_mem_cons.mp undoes
    obtain ⟨raw, hraw, h⟩ := bind_eq_ok_iff.mp h
    obtain ⟨rest, hrest, h⟩ := bind_eq_ok_iff.mp h
    have hlen := length_of_encodeSlot hslot hraw single
    obtain ⟨content, hread, hkeeps⟩ := decodeSlot_of_encodeSlot hslot hraw hundoes
    obtain ⟨contents, hreads, hnames, hall⟩ := ih hrow hothers hrest
    rw [← Except.ok.inj h]
    refine ⟨(name, content) :: contents, ?_, by rw [List.map_cons, List.map_cons, hnames], ?_⟩
    · -- the slot's own bytes are in front, and those of the others behind them
      rw [decodeSlots, hslot, ok_bind, ← hlen, List.take_left, List.drop_left, hread, ok_bind,
        hreads]
      rfl
    · intro slot hmem
      rcases List.mem_cons.mp hmem with rfl | hmem
      · exact ⟨content, List.mem_cons_self .., hkeeps⟩
      · obtain ⟨content', hmem', hkeeps'⟩ := hall slot hmem
        exact ⟨content', List.mem_cons_of_mem _ hmem', hkeeps'⟩

/-! ### A record -/

/-- Whether every number can be brought to the places of the field. -/
def PlacesInReach (f : Field) : Prop :=
  ∀ {signed : Bool} {integerDigits scale : Nat},
    f.geometry = .ok (.numeric signed integerDigits scale) → scale ≤ finestScale

theorem PlacesInReach.comesToScale (h : PlacesInReach f) : ComesToScale f v :=
  fun hg hd => Decimal.scale_of_coerce (h hg) hd

/-- **A record that is written is read back.** It has the bytes of its length, and
every slot gives what it keeps of the value under its name: of a text its
characters up to the slot's width, without the spaces at the end, and of a number,
in whatever storage, that number at the field's scale. -/
theorem record_roundTrip (hlength : length fields = .ok total)
    (hdistinct : ((slots fields).map Prod.fst).Nodup) (single : codec.IsSingleByte)
    (undoes : ∀ slot ∈ slots fields, ∀ cs,
      Writes slot.2 (Value.entry values slot.1) cs → codec.Undoes cs)
    (h : encode fields values codec = .ok bytes) :
    bytes.length = total ∧ ∃ contents, decode fields bytes codec = .ok contents ∧
      contents.map Prod.fst = (slots fields).map Prod.fst ∧
      ∀ slot ∈ slots fields, ∃ content, Entries.get? contents slot.1 = some content ∧
        (PlacesInReach slot.2 → Keeps slot.2 (Value.entry values slot.1) content) := by
  obtain ⟨hsized, htotal⟩ := length_eq_totalWidth hlength
  have hbytes : bytes.length = total := (length_of_encodeSlots single hsized h).trans htotal.symm
  obtain ⟨contents, hreads, hnames, hall⟩ := decodeSlots_of_encodeSlots single hsized undoes h
  refine ⟨hbytes, contents, (decode_eq_ok_iff hdistinct).mpr ⟨total, hlength, by omega, hreads⟩,
    hnames, fun slot hslot => ?_⟩
  obtain ⟨content, hmem, hkeeps⟩ := hall slot hslot
  rw [← hnames] at hdistinct
  exact ⟨content, Entries.get?_of_mem hdistinct hmem, fun hplaces => hkeeps hplaces.comesToScale⟩

/-! ### A record of every storage -/

/-- The fields of an order, one of each storage and one that stands twice. -/
def orderFields : List Field :=
  [⟨"CUSTOMER", "X(5)", none, 1⟩, ⟨"PRICE", "S9(3)V99", some "COMP-3", 2⟩,
    ⟨"COUNT", "9(4)", some "COMP", 1⟩, ⟨"DAYS", "S9(3)", none, 1⟩]

/-- What is known of an order: numbers of several kinds, and one customer whose name
does not fill its field. -/
def orderValues : List (String × Value) :=
  [("CUSTOMER", .text "AB"), ("PRICE_0", .integer (-12)), ("PRICE_1", .text "1.5"),
    ("COUNT", .integer 300), ("DAYS", .integer (-45))]

/-- The order in bytes. -/
def orderBytes : List UInt8 :=
  [0xC1, 0xC2, 0x40, 0x40, 0x40, 0x01, 0x20, 0x0D, 0x00, 0x15, 0x0C, 0x01, 0x2C, 0xF0, 0xF4, 0xD5]

/-- The places of an order's prices can all be named. -/
theorem order_placesInReach : ∀ f ∈ orderFields, PlacesInReach f := by
  have hall : ∀ f ∈ orderFields, ∀ g ∈ f.geometry.toOption, g.totalDigits ≤ finestScale := by
    decide +kernel
  intro f hf signed i scale hg
  have hdigits : i + scale ≤ finestScale :=
    hall f hf (.numeric signed i scale) (by rw [hg]; rfl)
  omega

theorem order_roundTrip :
    length orderFields = .ok 16 ∧ ((slots orderFields).map Prod.fst).Nodup ∧
      encode orderFields orderValues CodePage.cp037.codec = .ok orderBytes ∧
      orderBytes.length = 16 ∧
      ∃ contents, decode orderFields orderBytes CodePage.cp037.codec = .ok contents ∧
        contents.map Prod.fst = (slots orderFields).map Prod.fst ∧
        ∀ slot ∈ slots orderFields, ∃ content, Entries.get? contents slot.1 = some content ∧
          Keeps slot.2 (Value.entry orderValues slot.1) content := by
  have hlength : length orderFields = .ok 16 := by decide +kernel
  have hdistinct : ((slots orderFields).map Prod.fst).Nodup := by decide +kernel
  have hwritten : encode orderFields orderValues CodePage.cp037.codec = .ok orderBytes := by
    decide +kernel
  have faithful := CodePage.faithful_cp037
  obtain ⟨hbytes, contents, hread, hnames, hall⟩ :=
    record_roundTrip hlength hdistinct faithful.singleByte (fun _ _ cs _ => faithful.undoes cs)
      hwritten
  refine ⟨hlength, hdistinct, hwritten, hbytes, contents, hread, hnames, fun slot hslot => ?_⟩
  obtain ⟨content, hget, hkeeps⟩ := hall slot hslot
  have hfield : slot.2 ∈ orderFields := by
    obtain ⟨f, hf, hmem⟩ := List.mem_flatMap.mp hslot
    obtain ⟨i, -, rfl⟩ := List.mem_map.mp hmem
    exact hf
  exact ⟨content, hget, hkeeps (order_placesInReach _ hfield)⟩

/-! ### A field of too many places -/

/-- A packed field with one place more than can be named. -/
def dustField : Field :=
  ⟨"DUST", "S9(1)V9(1000027)", some "COMP-3", 1⟩

/-- Five units of the finest place that can be named. -/
def dustValues : List (String × Value) :=
  [("DUST", .decimal (.make 500 false 1000028))]

theorem geometry_dustField : dustField.geometry = .ok (.numeric true 1 1000027) := by
  have hpicture : "S9(" ++ toString 1 ++ ")V9(" ++ toString 1000027 ++ ")" =
      "S9(1)V9(1000027)" := by decide +kernel
  have hg := Geometry.ofPicture_signedDecimal 1 1000027
  rw [hpicture] at hg
  unfold Field.geometry
  exact hg

theorem numericLength_dustField :
    (Usage.ofName dustField.usage).numericLength (1 + 1000027) = .ok 500015 := by
  have hpacked : Usage.ofName dustField.usage = .packed := by decide +kernel
  rw [hpacked]
  rfl

theorem storageLength_dustField : dustField.storageLength = .ok 500015 :=
  storageLength_eq_ok_iff.mpr
    (.inr ⟨true, 1, 1000027, geometry_dustField, numericLength_dustField⟩)

theorem slots_dustField : slots [dustField] = [("DUST", dustField)] := by
  decide +kernel

/-- At the scale of its field the value has the finest place instead. -/
theorem coerce_dustValues :
    Decimal.coerce (Value.entry dustValues "DUST") (some 1000027) {} =
      .ok (.make 5 false 1000026) := by
  decide +kernel

/-- The field is written by the digit that is left. -/
theorem exists_encode_dustField : ∃ bytes,
    encodeNumber dustField true (1 + 1000027) (.make 5 false 1000026) CodePage.cp037.codec =
      .ok bytes ∧
    encode [dustField] dustValues CodePage.cp037.codec = .ok bytes := by
  have hpacked : Usage.ofName dustField.usage = .packed := by decide +kernel
  have hfits : (Decimal.make 5 false 1000026).Fits (1 + 1000027) true :=
    ⟨by decide +kernel, by decide⟩
  obtain ⟨bytes, hnumber⟩ : ∃ bytes, encodeNumber dustField true (1 + 1000027)
      (.make 5 false 1000026) CodePage.cp037.codec = .ok bytes := by
    rw [encodeNumber, hpacked]
    exact ⟨_, Packed.encode_eq_ok_iff.mpr ⟨hfits, rfl⟩⟩
  have hslot : encodeSlot dustField (Value.entry dustValues "DUST") CodePage.cp037.codec =
      .ok bytes :=
    (encodeSlot_number_eq_ok_iff geometry_dustField).mpr ⟨_, coerce_dustValues, hnumber⟩
  refine ⟨bytes, hnumber, ?_⟩
  rw [encode, slots_dustField, encodeSlots, hslot, ok_bind, encodeSlots, ok_bind, List.append_nil]
  rfl

/-- **A number is not kept beyond the finest place.** At the scale of its field it has the
finest place instead, and is read back as a tenth of what it was. -/
theorem not_record_roundTrip :
    length [dustField] = .ok 500015 ∧ ((slots [dustField]).map Prod.fst).Nodup ∧
      CodePage.cp037.codec.Faithful ∧ ∃ bytes contents,
        encode [dustField] dustValues CodePage.cp037.codec = .ok bytes ∧
        decode [dustField] bytes CodePage.cp037.codec = .ok contents ∧
        Decimal.coerce (Value.entry dustValues "DUST") (some 1000027) {} =
          .ok (.make 5 false 1000026) ∧
        Entries.get? contents "DUST" = some (.number (.make 5 false 1000027)) := by
  have faithful := CodePage.faithful_cp037
  have hlength : length [dustField] = .ok 500015 := by
    rw [length, storageLength_dustField]
    rfl
  have hdistinct : ((slots [dustField]).map Prod.fst).Nodup := by
    rw [slots_dustField]
    exact List.nodup_singleton _
  obtain ⟨bytes, hnumber, hwritten⟩ := exists_encode_dustField
  -- the number is packed by its digits, so that nothing in the bytes tells of its places
  have hread : decodeNumber dustField true 1000027 bytes CodePage.cp037.codec =
      .ok (.make 5 false 1000027) :=
    decodeNumber_of_encodeNumber numericLength_dustField hnumber
      (fun cs _ _ => faithful.undoes cs) 1000027
  have hfull : bytes.length = 500015 :=
    length_of_encodeNumber numericLength_dustField hnumber faithful.singleByte
  have hslots : decodeSlots CodePage.cp037.codec (slots [dustField]) bytes =
      .ok [("DUST", .number (.make 5 false 1000027))] := by
    rw [slots_dustField, decodeSlots, storageLength_dustField, ok_bind,
      List.take_of_length_le (Nat.le_of_eq hfull),
      (decodeSlot_number_eq_ok_iff geometry_dustField).mpr ⟨_, hread, rfl⟩, ok_bind]
    rfl
  have hdecoded := (decode_eq_ok_iff hdistinct).mpr
    ⟨_, hlength, Nat.le_of_eq hfull.symm, hslots⟩
  exact ⟨hlength, hdistinct, faithful, bytes, _, hwritten, hdecoded, coerce_dustValues, rfl⟩

end FixedWidth.Record
