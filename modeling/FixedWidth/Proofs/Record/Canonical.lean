import FixedWidth.Proofs.Record.RoundTrip

/-!
# Records, read and written again

The other way round: bytes that nobody need have written, read in the first of the
EBCDIC pages and written again. A slot can hold more than its field takes. There
may be a digit in front of an even count of packed digits, a minus sign in a packed
field without one, or a binary number beyond the digits of its field; reading does
not mind, and writing refuses. `FixedWidth.Record.contents_hold_iff` says that
these are the only cases.

Where everything that was read is held by its slot, the record can be written
again, and comes back slot by slot as a writer would leave it
(`FixedWidth.Record.rewritten_canonical`): another sign in a packed slot, or zero
without a minus sign in a zoned one, and all else as it was.
-/

namespace FixedWidth.Record

open Copybook (Field)

attribute [local irreducible] Field.geometry

variable {fields : List Field} {body : List UInt8} {contents : List (String × Content)}

/-- What was read, as values to be written. -/
def toValues (contents : List (String × Content)) : List (String × Value) :=
  contents.map fun entry => (entry.1, entry.2.toValue)

theorem entry_toValues {name : String} {content : Content}
    (hdistinct : (contents.map Prod.fst).Nodup) (h : (name, content) ∈ contents) :
    Value.entry (toValues contents) name = content.toValue := by
  have hnames : ((toValues contents).map Prod.fst).Nodup := by
    rw [toValues, List.map_map]
    exact hdistinct
  rw [Value.entry, Entries.get?_of_mem hnames (List.mem_map.mpr ⟨_, h, rfl⟩), Option.getD_some]

theorem mem_of_mem_slots {slot : String × Field} (h : slot ∈ slots fields) : slot.2 ∈ fields := by
  obtain ⟨f, hf, hslot⟩ := List.mem_flatMap.mp h
  obtain ⟨i, -, rfl⟩ := List.mem_map.mp hslot
  exact hf

/-- **A slot of a record that was read**: its own bytes, and what was read from
them, which is found under its name and stands there when the record is written
again. -/
structure SlotRead (contents : List (String × Content)) (slot : String × Field)
    (raw : List UInt8) (content : Content) : Prop where
  sized : slot.2.storageLength = .ok (slotWidth slot.2)
  length_eq : raw.length = slotWidth slot.2
  read : decodeSlot slot.2 raw CodePage.cp037.codec = .ok content
  get?_eq : Entries.get? contents slot.1 = some content
  entry_eq : Value.entry (toValues contents) slot.1 = content.toValue

/-- A record holds what was read from it where it holds the numbers among this. -/
theorem holds_of_numbers (hholds : ∀ slot ∈ slots fields, ∀ d,
      Entries.get? contents slot.1 = some (.number d) → Holds slot.2 (.number d)) :
    ∀ p ∈ slotBytes (slots fields) body, ∀ content, SlotRead contents p.1 p.2 content →
      Holds p.1.2 content := by
  intro p hp content hread
  rcases storageLength_eq_ok_iff.mp hread.sized with hg | ⟨signed, i, scale, hg, -⟩
  · exact holds_of_text hread.sized hread.length_eq hread.read hg
  · obtain ⟨d, -, rfl⟩ := (decodeSlot_number_eq_ok_iff hg).mp hread.read
    exact hholds p.1 (mem_of_mem_slotBytes hp) d hread.get?_eq

section Read

variable (hdistinct : ((slots fields).map Prod.fst).Nodup)
  (h : decode fields body CodePage.cp037.codec = .ok contents)

include hdistinct h

/-- Every slot of a record that was read has been read from its bytes. -/
theorem exists_slotRead {p : (String × Field) × List UInt8}
    (hp : p ∈ slotBytes (slots fields) body) : ∃ content, SlotRead contents p.1 p.2 content := by
  obtain ⟨total, hlength, hlen, hreads⟩ := (decode_eq_ok_iff hdistinct).mp h
  obtain ⟨hsized, rfl⟩ := length_eq_totalWidth hlength
  obtain ⟨content, hread, hmem⟩ := decodeSlot_of_decodeSlots hreads hp
  have hnames : (contents.map Prod.fst).Nodup := by
    rw [names_of_decodeSlots hreads]
    exact hdistinct
  exact ⟨content, hsized p.1 (mem_of_mem_slotBytes hp), length_of_mem_slotBytes hlen hp, hread,
    Entries.get?_of_mem hnames hmem, entry_toValues hnames hmem⟩

/-- To say something of what stands under every name is to say it slot by slot. -/
theorem forall_slots_iff {P : Field → Content → Prop} :
    (∀ slot ∈ slots fields, ∃ content, Entries.get? contents slot.1 = some content ∧
      P slot.2 content) ↔
    ∀ p ∈ slotBytes (slots fields) body, ∀ content, SlotRead contents p.1 p.2 content →
      P p.1.2 content := by
  constructor
  · intro hall p hp content hread
    obtain ⟨content', hget, hP⟩ := hall p.1 (mem_of_mem_slotBytes hp)
    rw [hread.get?_eq] at hget
    rwa [Option.some.inj hget]
  · intro hall slot hslot
    rw [← map_fst_slotBytes (slots fields) body] at hslot
    obtain ⟨p, hp, rfl⟩ := List.mem_map.mp hslot
    obtain ⟨content, hread⟩ := exists_slotRead hdistinct h hp
    exact ⟨content, hread.get?_eq, hall p hp content hread⟩

/-- What is held by its slots can be written again, and is written as a writer would
leave it. -/
theorem encode_toValues (hholds : ∀ p ∈ slotBytes (slots fields) body, ∀ content,
      SlotRead contents p.1 p.2 content → Holds p.1.2 content) :
    encode fields (toValues contents) CodePage.cp037.codec =
      .ok ((slotBytes (slots fields) body).flatMap fun p => canonicalSlot p.1.2 p.2) := by
  refine encodeSlots_of_slotBytes fun p hp => ?_
  obtain ⟨content, hread⟩ := exists_slotRead hdistinct h hp
  rw [hread.entry_eq]
  exact encodeSlot_of_decodeSlot hread.sized hread.length_eq hread.read (hholds p hp content hread)

/-- A record can be written again only where all its slots hold what was read. -/
theorem exists_encode_toValues_iff :
    (∃ bytes, encode fields (toValues contents) CodePage.cp037.codec = .ok bytes) ↔
      ∀ p ∈ slotBytes (slots fields) body, ∀ content, SlotRead contents p.1 p.2 content →
        Holds p.1.2 content := by
  constructor
  · rintro ⟨bytes, hbytes⟩ p hp content hread
    obtain ⟨raw', hraw'⟩ := encodeSlot_of_encodeSlots hbytes (mem_of_mem_slotBytes hp)
    rw [hread.entry_eq] at hraw'
    exact holds_of_encodeSlot hread.sized hread.length_eq hread.read hraw'
  · exact fun hholds => ⟨_, encode_toValues hdistinct h hholds⟩

/-- In fields of no more digits than numbers can have, it is the bytes alone that
decide. -/
theorem forall_holds_iff (hdigits : ∀ f ∈ fields, ∀ g, f.geometry = .ok g → g.totalDigits ≤ 31) :
    (∀ p ∈ slotBytes (slots fields) body, ∀ content, SlotRead contents p.1 p.2 content →
      Holds p.1.2 content) ↔
    ∀ p ∈ slotBytes (slots fields) body, InRange p.1.2 p.2 := by
  have hslot : ∀ p ∈ slotBytes (slots fields) body, ∀ content,
      SlotRead contents p.1 p.2 content → (Holds p.1.2 content ↔ InRange p.1.2 p.2) :=
    fun p hp content hread => holds_iff_inRange hread.sized hread.length_eq hread.read
      (hdigits p.1.2 (mem_of_mem_slots (mem_of_mem_slotBytes hp)))
  constructor
  · intro hall p hp
    obtain ⟨content, hread⟩ := exists_slotRead hdistinct h hp
    exact (hslot p hp content hread).mp (hall p hp content hread)
  · exact fun hall p hp content hread => (hslot p hp content hread).mpr (hall p hp)

/-- What a writer leaves in a slot has the slot's bytes and is read alike. -/
theorem canonicalSlot_reads_alike (hholds : ∀ p ∈ slotBytes (slots fields) body, ∀ content,
      SlotRead contents p.1 p.2 content → Holds p.1.2 content) :
    ∀ p ∈ slotBytes (slots fields) body, p.2.length = slotWidth p.1.2 ∧
      (canonicalSlot p.1.2 p.2).length = slotWidth p.1.2 ∧
      decodeSlot p.1.2 (canonicalSlot p.1.2 p.2) CodePage.cp037.codec =
        decodeSlot p.1.2 p.2 CodePage.cp037.codec := by
  intro p hp
  obtain ⟨content, hread⟩ := exists_slotRead hdistinct h hp
  obtain ⟨hlen, hagain⟩ := decodeSlot_canonicalSlot hread.sized hread.length_eq hread.read
    (hholds p hp content hread)
  exact ⟨hread.length_eq, hlen, hagain.trans hread.read.symm⟩

end Read

/-- **When a record that was read holds what its fields can hold**, and can be
written again: exactly when no packed slot has a digit in front of an even count of
them or a minus sign that its field has no place for, and no binary slot a number
beyond the digits of its field. Text and zoned slots always hold what they give. -/
theorem contents_hold_iff (hdistinct : ((slots fields).map Prod.fst).Nodup)
    (hdigits : ∀ f ∈ fields, ∀ g, f.geometry = .ok g → g.totalDigits ≤ 31)
    (h : decode fields body CodePage.cp037.codec = .ok contents) :
    ((∀ slot ∈ slots fields, ∃ content, Entries.get? contents slot.1 = some content ∧
        Holds slot.2 content) ↔ ∀ p ∈ slotBytes (slots fields) body, InRange p.1.2 p.2) ∧
    ((∃ bytes, encode fields (toValues contents) CodePage.cp037.codec = .ok bytes) ↔
      ∀ p ∈ slotBytes (slots fields) body, InRange p.1.2 p.2) := by
  have hbytes := forall_holds_iff hdistinct h hdigits
  exact ⟨(forall_slots_iff hdistinct h).trans hbytes,
    (exists_encode_toValues_iff hdistinct h).trans hbytes⟩

/-- What is asked of the geometries of fields is settled by reading their pictures. -/
theorem forall_geometry_of_forall {P : Geometry → Prop}
    (h : ∀ f ∈ fields, ∀ g ∈ f.geometry.toOption, P g) :
    ∀ f ∈ fields, ∀ g, f.geometry = .ok g → P g := by
  intro f hf g hg
  refine h f hf g ?_
  rw [hg]
  rfl

/-- Whether fields have no more than so many digits is settled that way. -/
theorem totalDigits_le_of_forall {n : Nat}
    (h : ∀ f ∈ fields, ∀ g ∈ f.geometry.toOption, g.totalDigits ≤ n) :
    ∀ f ∈ fields, ∀ g, f.geometry = .ok g → g.totalDigits ≤ n :=
  forall_geometry_of_forall h

/-- An order in bytes, with signs that no writer leaves: `F` for a price that is not
negative, and a minus sign on a price and on days that are zero. -/
def orderBody : List UInt8 :=
  [0xC1, 0xC2, 0x40, 0x40, 0x40, 0x01, 0x20, 0x0F, 0x00, 0x00, 0x0D, 0x01, 0x2C, 0xF0, 0xF0, 0xD0]

/-- What is read from it. -/
def orderContents : List (String × Content) :=
  [("CUSTOMER", .text ['A', 'B']), ("PRICE_0", .number (.make 1200 false 2)),
    ("PRICE_1", .number (.make 0 false 2)), ("COUNT", .number (.make 300 false 0)),
    ("DAYS", .number (.make 0 false 0))]

theorem order_distinct : ((slots orderFields).map Prod.fst).Nodup := by decide +kernel

theorem decode_orderBody :
    decode orderFields orderBody CodePage.cp037.codec = .ok orderContents := by
  decide +kernel

theorem order_contents_hold :
    (∀ f ∈ orderFields, ∀ g, f.geometry = .ok g → g.totalDigits ≤ 31) ∧
      (∀ slot ∈ slots orderFields, ∃ content, Entries.get? orderContents slot.1 = some content ∧
        Holds slot.2 content) ∧
      ∃ bytes, encode orderFields (toValues orderContents) CodePage.cp037.codec = .ok bytes := by
  have hdigits : ∀ f ∈ orderFields, ∀ g, f.geometry = .ok g → g.totalDigits ≤ 31 :=
    totalDigits_le_of_forall (by decide +kernel)
  have hrange : ∀ p ∈ slotBytes (slots orderFields) orderBody, InRange p.1.2 p.2 := by
    decide +kernel
  obtain ⟨hholds, hwritten⟩ := contents_hold_iff order_distinct hdigits decode_orderBody
  exact ⟨hdigits, hholds.mpr hrange, hwritten.mpr hrange⟩

/-- A field of four packed digits, which takes three bytes and so five digits. -/
def packedFields : List Field :=
  [⟨"TOTAL", "9(4)", some "COMP-3", 1⟩]

/-- **Not every record that can be read can be written again**: with a digit in the
half-byte before the four of a packed field, a number of five digits is read. -/
theorem not_all_contents_hold :
    ¬∀ (fields : List Field) (body : List UInt8) (contents : List (String × Content)),
      ((slots fields).map Prod.fst).Nodup →
      (∀ f ∈ fields, ∀ g, f.geometry = .ok g → g.totalDigits ≤ 31) →
      decode fields body CodePage.cp037.codec = .ok contents →
      (∀ slot ∈ slots fields, ∃ content, Entries.get? contents slot.1 = some content ∧
        Holds slot.2 content) ∧
      ∃ bytes, encode fields (toValues contents) CodePage.cp037.codec = .ok bytes := by
  intro hall
  have hread : decode packedFields [0x12, 0x34, 0x5C] CodePage.cp037.codec =
      .ok [("TOTAL", .number (.make 12345 false 0))] := by decide +kernel
  have hdigits : ∀ f ∈ packedFields, ∀ g, f.geometry = .ok g → g.totalDigits ≤ 31 :=
    totalDigits_le_of_forall (by decide +kernel)
  have hrefused : ∀ slot ∈ slots packedFields,
      ¬Holds slot.2 (.number (.make 12345 false 0)) := by decide +kernel
  obtain ⟨hheld, -⟩ := hall packedFields _ _ (by decide +kernel) hdigits hread
  have hslot : ("TOTAL", ⟨"TOTAL", "9(4)", some "COMP-3", 1⟩) ∈ slots packedFields := by
    decide +kernel
  obtain ⟨content, hget, hholds⟩ := hheld _ hslot
  refine hrefused _ hslot ?_
  rwa [← Option.some.inj hget] at hholds

/-- **A record that is read and written again comes back as a writer would leave
it**, slot by slot, in as many bytes, and gives the same when it is read once more.
What it takes for this is that every number that was read fits its field. -/
theorem rewritten_canonical (hlength : length fields = .ok body.length)
    (hdistinct : ((slots fields).map Prod.fst).Nodup)
    (h : decode fields body CodePage.cp037.codec = .ok contents)
    (hholds : ∀ slot ∈ slots fields, ∀ d,
      Entries.get? contents slot.1 = some (.number d) → Holds slot.2 (.number d)) :
    ∃ bytes, encode fields (toValues contents) CodePage.cp037.codec = .ok bytes ∧
      bytes.length = body.length ∧ decode fields bytes CodePage.cp037.codec = .ok contents ∧
      body = (slotBytes (slots fields) body).flatMap (fun p => p.2) ∧
      bytes = (slotBytes (slots fields) body).flatMap (fun p => canonicalSlot p.1.2 p.2) ∧
      ∀ p ∈ slotBytes (slots fields) body, (canonicalSlot p.1.2 p.2).length = p.2.length := by
  have hall : ∀ p ∈ slotBytes (slots fields) body, ∀ content,
      SlotRead contents p.1 p.2 content → Holds p.1.2 content := holds_of_numbers hholds
  have hslot := canonicalSlot_reads_alike hdistinct h hall
  have hwritten := encode_toValues hdistinct h hall
  obtain ⟨hsized, hwidth⟩ := length_eq_totalWidth hlength
  have hbytes := length_of_encodeSlots CodePage.faithful_cp037.singleByte hsized hwritten
  -- slot by slot the bytes are others, as many, and read alike
  obtain ⟨total, -, -, hreads⟩ := (decode_eq_ok_iff hdistinct).mp h
  rw [← decodeSlots_flatMap hsized fun p hp => (hslot p hp).2] at hreads
  exact ⟨_, hwritten, hbytes.trans hwidth.symm,
    (decode_eq_ok_iff hdistinct).mpr ⟨_, hlength, by omega, hreads⟩,
    (flatMap_snd_slotBytes hwidth).symm, rfl,
    fun p hp => (hslot p hp).2.1.trans (hslot p hp).1.symm⟩

theorem order_rewritten :
    length orderFields = .ok orderBody.length ∧
      (∀ slot ∈ slots orderFields, ∀ d,
        Entries.get? orderContents slot.1 = some (.number d) → Holds slot.2 (.number d)) ∧
      ∃ bytes, encode orderFields (toValues orderContents) CodePage.cp037.codec = .ok bytes ∧
        bytes.length = orderBody.length ∧
        decode orderFields bytes CodePage.cp037.codec = .ok orderContents ∧
        orderBody = (slotBytes (slots orderFields) orderBody).flatMap (fun p => p.2) ∧
        bytes = (slotBytes (slots orderFields) orderBody).flatMap
          (fun p => canonicalSlot p.1.2 p.2) ∧
        ∀ p ∈ slotBytes (slots orderFields) orderBody,
          (canonicalSlot p.1.2 p.2).length = p.2.length := by
  have hlength : length orderFields = .ok orderBody.length := by decide +kernel
  have hall : ∀ slot ∈ slots orderFields, ∀ content ∈ Entries.get? orderContents slot.1,
      Holds slot.2 content := by decide +kernel
  have hholds : ∀ slot ∈ slots orderFields, ∀ d,
      Entries.get? orderContents slot.1 = some (.number d) → Holds slot.2 (.number d) :=
    fun slot hslot d hd => hall slot hslot _ hd
  exact ⟨hlength, hholds, rewritten_canonical hlength order_distinct decode_orderBody hholds⟩

/-- The order comes back with the signs that a writer leaves, and is else as it was. -/
example : (slotBytes (slots orderFields) orderBody).flatMap (fun p => canonicalSlot p.1.2 p.2) =
    [0xC1, 0xC2, 0x40, 0x40, 0x40, 0x01, 0x20, 0x0C, 0x00, 0x00, 0x0C, 0x01, 0x2C, 0xF0, 0xF0,
      0xC0] := by decide +kernel

end FixedWidth.Record
