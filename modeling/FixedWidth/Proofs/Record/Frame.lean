import FixedWidth.Proofs.Record.Canonical

/-!
# Slots do not touch each other

The writer of a record counts nothing: it puts the bytes of the slots one behind the other.
The reader counts the bytes that the fields have and never looks at what was written. Both
are at the same places all the same (`FixedWidth.Record.offset`), since what is written into a
slot has as many bytes as its field, whatever the value.

So a slot is a window on the record. What is read from it depends on the bytes in the window
alone (`FixedWidth.Record.decodeSlot_of_decode`), and what is written into it is in the window
alone (`FixedWidth.Record.exists_parts_of_encode`).
`FixedWidth.Record.slots_independent` puts the two together.
-/

namespace FixedWidth.Record

open Copybook (Field)

attribute [local irreducible] Field.geometry

variable {fields : List Field} {row front behind : List (String × Field)} {f : Field}
  {slot : String × Field} {name : String} {codec : Codec} {k : Nat} {v : Value}
  {raw bytes bytes' : List UInt8}
  {values values' : List (String × Value)} {contents contents' : List (String × Content)}

/-! ### Where a slot is -/

/-- **Where a slot begins**: behind the bytes of the slots before it. -/
def offset (row : List (String × Field)) (k : Nat) : Nat :=
  totalWidth (row.take k)

/-- The bytes of a record in the window of a slot. -/
def window (row : List (String × Field)) (k : Nat) (f : Field) (bytes : List UInt8) :
    List UInt8 :=
  (bytes.drop (offset row k)).take (slotWidth f)

/-- The window of a slot has the bytes that are handed out to it. -/
theorem window_mem_slotBytes (h : row[k]? = some slot) :
    (slot, window row k slot.2 bytes) ∈ slotBytes row bytes := by
  induction row generalizing k bytes with
  | nil => cases h
  | cons first row ih =>
    cases k with
    | zero =>
      obtain rfl := Option.some.inj h
      exact List.mem_cons_self
    | succ k =>
      have hmem : (slot, window row k slot.2 (bytes.drop (slotWidth first.2))) ∈ _ := ih h
      rw [window, List.drop_drop] at hmem
      exact List.mem_cons_of_mem _ hmem

/-! ### Reading -/

/-- **A slot's value is read from the bytes in its window**, and found under its name. -/
theorem decodeSlot_of_decode (hdistinct : ((slots fields).map Prod.fst).Nodup)
    (hslot : (slots fields)[k]? = some (name, f)) (h : decode fields bytes codec = .ok contents) :
    ∃ content, Entries.get? contents name = some content ∧
      decodeSlot f (window (slots fields) k f bytes) codec = .ok content := by
  obtain ⟨total, -, -, hreads⟩ := (decode_eq_ok_iff hdistinct).mp h
  obtain ⟨content, hread, hmem⟩ := decodeSlot_of_decodeSlots hreads (window_mem_slotBytes hslot)
  rw [← names_of_decodeSlots hreads] at hdistinct
  exact ⟨content, Entries.get?_of_mem hdistinct hmem, hread⟩

/-! ### Writing -/

/-- A slot that is written has bytes, if its usage is one. -/
theorem storageLength_of_encodeSlot (hsupported : ∀ name, Usage.ofName f.usage ≠ .unsupported name)
    (h : encodeSlot f v codec = .ok raw) : f.storageLength = .ok (slotWidth f) := by
  have hwidth : ∃ width, f.storageLength = .ok width := by
    obtain ⟨g, hg, -⟩ := bind_eq_ok_iff.mp h
    cases g with
    | alphanumeric n => exact ⟨n, storageLength_eq_ok_iff.mpr (.inl hg)⟩
    | numeric signed i scale =>
      obtain ⟨d, -, hraw⟩ := (encodeSlot_number_eq_ok_iff hg).mp h
      have hnumeric : ∃ width, (Usage.ofName f.usage).numericLength (i + scale) = .ok width := by
        rw [encodeNumber] at hraw
        cases husage : Usage.ofName f.usage with
        | display => exact ⟨_, rfl⟩
        | packed => exact ⟨_, rfl⟩
        | binary =>
          rw [husage] at hraw
          obtain ⟨-, width, hwidth, -⟩ := encodeBinary_eq_ok_iff.mp hraw
          exact ⟨width, hwidth⟩
        | unsupported name => exact absurd husage (hsupported name)
      obtain ⟨width, hwidth⟩ := hnumeric
      exact ⟨width, storageLength_eq_ok_iff.mpr (.inr ⟨signed, i, scale, hg, hwidth⟩)⟩
  obtain ⟨width, hwidth⟩ := hwidth
  rw [slotWidth_of_ok hwidth, hwidth]

/-- All slots of a row that is written have bytes. -/
theorem sized_of_encodeSlots
    (hsupported : ∀ slot ∈ row, ∀ name, Usage.ofName slot.2.usage ≠ .unsupported name)
    (h : encodeSlots codec values row = .ok bytes) : Sized row := by
  intro slot hslot
  obtain ⟨raw, hraw⟩ := encodeSlot_of_encodeSlots h hslot
  exact storageLength_of_encodeSlot (hsupported slot hslot) hraw

/-- **Rows of slots are written one behind the other.** -/
theorem encodeSlots_append_eq_ok_iff : encodeSlots codec values (front ++ behind) = .ok bytes ↔
    ∃ head rest, encodeSlots codec values front = .ok head ∧
      encodeSlots codec values behind = .ok rest ∧ bytes = head ++ rest := by
  induction front generalizing bytes with
  | nil =>
    constructor
    · exact fun h => ⟨[], bytes, rfl, h, rfl⟩
    · rintro ⟨head, rest, hhead, hrest, rfl⟩
      obtain rfl := Except.ok.inj hhead
      exact hrest
  | cons slot front ih =>
    simp only [List.cons_append, encodeSlots, bind_eq_ok_iff, ih, pure_eq_ok, Except.ok.injEq]
    constructor
    · rintro ⟨raw, hraw, _, ⟨head, rest, hhead, hrest, rfl⟩, rfl⟩
      exact ⟨raw ++ head, rest, ⟨raw, hraw, head, hhead, rfl⟩, hrest, (List.append_assoc ..).symm⟩
    · rintro ⟨_, rest, ⟨raw, hraw, head, hhead, rfl⟩, hrest, rfl⟩
      exact ⟨raw, hraw, head ++ rest, ⟨head, rest, hhead, hrest, rfl⟩, (List.append_assoc ..).symm⟩

/-- Slots under whose names the same values stand are written alike. -/
theorem encodeSlots_congr
    (h : ∀ slot ∈ row, Value.entry values slot.1 = Value.entry values' slot.1) :
    encodeSlots codec values row = encodeSlots codec values' row := by
  induction row with
  | nil => rfl
  | cons slot row ih =>
    obtain ⟨hslot, hrow⟩ := List.forall_mem_cons.mp h
    rw [encodeSlots, encodeSlots, hslot, ih hrow]

/-- What is written of a record: the slots before the given one, its own bytes in its window,
and the slots behind it. -/
theorem exists_parts_of_encodeSlots
    (hsupported : ∀ slot ∈ row, ∀ name, Usage.ofName slot.2.usage ≠ .unsupported name)
    (single : codec.IsSingleByte) (hslot : row[k]? = some (name, f))
    (h : encodeSlots codec values row = .ok bytes) :
    ∃ head raw rest, encodeSlots codec values (row.take k) = .ok head ∧
      encodeSlot f (Value.entry values name) codec = .ok raw ∧
      encodeSlots codec values (row.drop (k + 1)) = .ok rest ∧
      head.length = offset row k ∧ raw.length = slotWidth f ∧ bytes = head ++ (raw ++ rest) := by
  have hsized := sized_of_encodeSlots hsupported h
  obtain ⟨hk, hget⟩ := List.getElem?_eq_some_iff.mp hslot
  have hsplit : row = row.take k ++ (name, f) :: row.drop (k + 1) := by
    rw [← hget, ← List.drop_eq_getElem_cons hk, List.take_append_drop]
  rw [hsplit] at h
  obtain ⟨head, tail, hhead, htail, rfl⟩ := encodeSlots_append_eq_ok_iff.mp h
  rw [encodeSlots] at htail
  obtain ⟨raw, hraw, htail⟩ := bind_eq_ok_iff.mp htail
  obtain ⟨rest, hrest, htail⟩ := bind_eq_ok_iff.mp htail
  have hfront : Sized (row.take k) := fun slot hmem => hsized slot (List.mem_of_mem_take hmem)
  have hwidth : f.storageLength = .ok (slotWidth f) := hsized _ (List.mem_of_getElem? hslot)
  exact ⟨head, raw, rest, hhead, hraw, hrest,
    length_of_encodeSlots single hfront hhead, length_of_encodeSlot hwidth hraw single,
    congrArg _ (Except.ok.inj htail).symm⟩

/-! ### One slot and the others -/

/-- The name of a slot is the name of no other. -/
theorem names_ne_of_nodup (hdistinct : (row.map Prod.fst).Nodup)
    (hslot : row[k]? = some (name, f)) :
    (∀ slot ∈ row.take k, slot.1 ≠ name) ∧ ∀ slot ∈ row.drop (k + 1), slot.1 ≠ name := by
  obtain ⟨hk, hget⟩ := List.getElem?_eq_some_iff.mp hslot
  rw [← List.take_append_drop k row, List.drop_eq_getElem_cons hk, hget, List.map_append,
    List.map_cons, List.nodup_append, List.nodup_cons] at hdistinct
  obtain ⟨-, ⟨hbehind, -⟩, hbefore⟩ := hdistinct
  constructor
  · exact fun slot hmem => hbefore _ (List.mem_map_of_mem hmem) _ List.mem_cons_self
  · rintro slot hmem rfl
    exact hbehind (List.mem_map.mpr ⟨slot, hmem, rfl⟩)

/-- **Slots do not touch each other.** Two records that are read and agree in the window of
a slot give the slot the same value, whatever else is in them and behind them. Two sets of
values that are written and differ under the name of the slot alone give records of the
same length that differ in that window alone. -/
theorem slots_independent (hdistinct : ((slots fields).map Prod.fst).Nodup)
    (hsupported : ∀ f ∈ fields, ∀ name, Usage.ofName f.usage ≠ .unsupported name)
    (single : codec.IsSingleByte) (hslot : (slots fields)[k]? = some (name, f)) :
    (∀ bytes bytes' contents contents', decode fields bytes codec = .ok contents →
      decode fields bytes' codec = .ok contents' →
      window (slots fields) k f bytes = window (slots fields) k f bytes' →
      ∃ content, decodeSlot f (window (slots fields) k f bytes) codec = .ok content ∧
        Entries.get? contents name = some content ∧
        Entries.get? contents' name = some content) ∧
    ∀ values values' bytes bytes', encode fields values codec = .ok bytes →
      encode fields values' codec = .ok bytes' →
      (∀ other, other ≠ name → Value.entry values other = Value.entry values' other) →
      encodeSlot f (Value.entry values name) codec = .ok (window (slots fields) k f bytes) ∧
        bytes.length = bytes'.length ∧
        bytes.take (offset (slots fields) k) = bytes'.take (offset (slots fields) k) ∧
        bytes.drop (offset (slots fields) k + slotWidth f) =
          bytes'.drop (offset (slots fields) k + slotWidth f) := by
  constructor
  · intro bytes bytes' contents contents' h h' hwindow
    obtain ⟨content, hget, hread⟩ := decodeSlot_of_decode hdistinct hslot h
    obtain ⟨content', hget', hread'⟩ := decodeSlot_of_decode hdistinct hslot h'
    rw [hwindow] at hread ⊢
    obtain rfl := Except.ok.inj (hread'.symm.trans hread)
    exact ⟨content', hread', hget, hget'⟩
  · intro values values' bytes bytes' h h' hvalues
    have hsupported' : ∀ slot ∈ slots fields, ∀ name,
        Usage.ofName slot.2.usage ≠ .unsupported name := by
      intro slot hmem
      obtain ⟨f, hf, hmem⟩ := List.mem_flatMap.mp hmem
      obtain ⟨i, -, rfl⟩ := List.mem_map.mp hmem
      exact hsupported f hf
    obtain ⟨head, raw, rest, hhead, hraw, hrest, hoffset, hwidth, rfl⟩ :=
      exists_parts_of_encodeSlots hsupported' single hslot h
    obtain ⟨head', raw', rest', hhead', -, hrest', hoffset', hwidth', rfl⟩ :=
      exists_parts_of_encodeSlots hsupported' single hslot h'
    -- the names of the other slots are not the name of this one, so that these are written alike
    obtain ⟨hbefore, hbehind⟩ := names_ne_of_nodup hdistinct hslot
    rw [encodeSlots_congr fun slot hmem => hvalues _ (hbefore slot hmem), hhead'] at hhead
    rw [encodeSlots_congr fun slot hmem => hvalues _ (hbehind slot hmem), hrest'] at hrest
    obtain rfl := Except.ok.inj hhead
    obtain rfl := Except.ok.inj hrest
    have hlength : raw.length = raw'.length := hwidth.trans hwidth'.symm
    refine ⟨?_, by simp only [List.length_append, hlength], ?_, ?_⟩
    · rw [window, List.drop_left' hoffset, List.take_left' hwidth]
      exact hraw
    · rw [List.take_left' hoffset, List.take_left' hoffset]
    · rw [← List.drop_drop, ← List.drop_drop, List.drop_left' hoffset, List.drop_left' hoffset,
        List.drop_left' hwidth, List.drop_left' hwidth']

/-- The order of another customer, with a byte behind it. -/
def otherBody : List UInt8 :=
  0xC3 :: orderBody.drop 1 ++ [0xFF]

/-- The order with another price. -/
def otherValues : List (String × Value) :=
  Entries.insert "PRICE_1" (.integer 7) orderValues

theorem order_slots_independent :
    (slots orderFields)[2]? = some ("PRICE_1", ⟨"PRICE", "S9(3)V99", some "COMP-3", 2⟩) ∧
      (∃ contents content, decode orderFields orderBody CodePage.cp037.codec = .ok orderContents ∧
        decode orderFields otherBody CodePage.cp037.codec = .ok contents ∧
        Entries.get? orderContents "PRICE_1" = some content ∧
        Entries.get? contents "PRICE_1" = some content) ∧
      ∃ bytes, encode orderFields orderValues CodePage.cp037.codec = .ok orderBytes ∧
        encode orderFields otherValues CodePage.cp037.codec = .ok bytes ∧
        orderBytes.length = bytes.length ∧ orderBytes.take 8 = bytes.take 8 ∧
        orderBytes.drop 11 = bytes.drop 11 := by
  have hnames : ∀ f ∈ orderFields, Usage.ofName f.usage = .display ∨
      Usage.ofName f.usage = .packed ∨ Usage.ofName f.usage = .binary := by decide +kernel
  have hsupported : ∀ f ∈ orderFields, ∀ name, Usage.ofName f.usage ≠ .unsupported name := by
    intro f hf name hname
    rcases hnames f hf with h | h | h
    all_goals exact Usage.noConfusion (h.symm.trans hname)
  have hslot : (slots orderFields)[2]? =
      some ("PRICE_1", ⟨"PRICE", "S9(3)V99", some "COMP-3", 2⟩) := rfl
  obtain ⟨hread, hwrite⟩ :=
    slots_independent order_distinct hsupported CodePage.faithful_cp037.singleByte hslot
  refine ⟨hslot, ?_, ?_⟩
  · have hother : decode orderFields otherBody CodePage.cp037.codec =
        .ok (Entries.insert "CUSTOMER" (.text ['C', 'B']) orderContents) := by decide +kernel
    obtain ⟨content, -, hget, hget'⟩ :=
      hread _ _ _ _ decode_orderBody hother (by decide +kernel)
    exact ⟨_, content, decode_orderBody, hother, hget, hget'⟩
  · have horder : encode orderFields orderValues CodePage.cp037.codec = .ok orderBytes := by
      decide +kernel
    have hother : encode orderFields otherValues CodePage.cp037.codec =
        .ok (orderBytes.take 8 ++ [0x00, 0x70, 0x0C] ++ orderBytes.drop 11) := by decide +kernel
    have hoffset : offset (slots orderFields) 2 = 8 := by decide +kernel
    have hwidth : slotWidth ⟨"PRICE", "S9(3)V99", some "COMP-3", 2⟩ = 3 := by decide +kernel
    rw [hoffset, hwidth] at hwrite
    obtain ⟨-, hlength, hbefore, hbehind⟩ := hwrite _ _ _ _ horder hother fun name hname => by
      rw [otherValues, Value.entry, Value.entry, Entries.get?_insert_of_ne hname]
    exact ⟨_, horder, hother, hlength, hbefore, hbehind⟩

end FixedWidth.Record
