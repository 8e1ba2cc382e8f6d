import FixedWidth.Proofs.Entries
import FixedWidth.Proofs.Fault
import FixedWidth.Record.Codec

/-!
# Where the slots of a record are

A record is cut at places that depend on its layout alone. Each slot takes the
bytes of its field, whatever it holds, and `FixedWidth.Record.length` is the sum of
these (`FixedWidth.Record.length_eq_totalWidth`). So the bytes of a record can be
handed out to its slots before anything is read (`FixedWidth.Record.slotBytes`),
and reading or writing a record is reading or writing its slots one by one.

Names enter only at the end: where those of the slots are all different, what was
read from the slots is what is found under their names
(`FixedWidth.Record.decode_eq_ok_iff`).
-/

namespace FixedWidth.Record

open Copybook (Field)

-- where a slot ends is asked of its field, whose picture stays closed
attribute [local irreducible] Field.geometry

variable {fields : List Field} {row : List (String × Field)} {bytes : List UInt8}
  {codec : Codec} {contents : List (String × Content)} {total : Nat}

/-! ### The bytes of the slots -/

/-- The bytes of a slot of the field. -/
def slotWidth (f : Field) : Nat :=
  f.storageLength.toOption.getD 0

/-- **All slots have bytes**, as many as their fields say. -/
def Sized (row : List (String × Field)) : Prop :=
  ∀ slot ∈ row, slot.2.storageLength = .ok (slotWidth slot.2)

/-- The bytes of slots in a row. -/
def totalWidth : List (String × Field) → Nat
  | [] => 0
  | slot :: row => slotWidth slot.2 + totalWidth row

theorem slotWidth_of_ok {f : Field} {width : Nat} (h : f.storageLength = .ok width) :
    slotWidth f = width := by
  rw [slotWidth, h]
  rfl

theorem totalWidth_append (row row' : List (String × Field)) :
    totalWidth (row ++ row') = totalWidth row + totalWidth row' := by
  induction row with
  | nil => exact (Nat.zero_add _).symm
  | cons slot row ih => rw [List.cons_append, totalWidth, totalWidth, ih, Nat.add_assoc]

/-- A field that stands several times takes its bytes as many times. -/
theorem totalWidth_copies (f : Field) (name : Nat → String) (copies : List Nat) :
    totalWidth (copies.map fun i => (name i, f)) = slotWidth f * copies.length := by
  induction copies with
  | nil => rfl
  | cons i copies ih =>
    rw [List.map_cons, totalWidth, ih, List.length_cons, Nat.mul_succ, Nat.add_comm]

theorem slots_cons (f : Field) (fields : List Field) :
    slots (f :: fields) =
      ((List.range f.occurs).map fun i => (f.name ++ Copybook.copySuffix f.occurs i, f)) ++
        slots fields :=
  List.flatMap_cons

/-- **The length of a record is that of its slots.** -/
theorem length_eq_totalWidth (h : length fields = .ok total) :
    Sized (slots fields) ∧ total = totalWidth (slots fields) := by
  induction fields generalizing total with
  | nil =>
    cases h
    exact ⟨fun slot hslot => absurd hslot List.not_mem_nil, rfl⟩
  | cons f fields ih =>
    rw [length] at h
    obtain ⟨width, hwidth, h⟩ := bind_eq_ok_iff.mp h
    obtain ⟨rest, hrest, h⟩ := bind_eq_ok_iff.mp h
    obtain ⟨hsized, rfl⟩ := ih hrest
    have hslot := slotWidth_of_ok hwidth
    rw [slots_cons]
    constructor
    · intro slot hmem
      rcases List.mem_append.mp hmem with hmem | hmem
      · obtain ⟨i, -, rfl⟩ := List.mem_map.mp hmem
        rw [hslot]
        exact hwidth
      · exact hsized slot hmem
    · rw [← Except.ok.inj h, totalWidth_append,
        totalWidth_copies f fun i => f.name ++ Copybook.copySuffix f.occurs i, hslot,
        List.length_range]

/-! ### Reading by slots -/

/-- What is read has the names of the slots. -/
theorem names_of_decodeSlots (h : decodeSlots codec row bytes = .ok contents) :
    contents.map Prod.fst = row.map Prod.fst := by
  induction row generalizing bytes contents with
  | nil =>
    cases h
    rfl
  | cons slot row ih =>
    obtain ⟨name, f⟩ := slot
    rw [decodeSlots] at h
    obtain ⟨width, -, h⟩ := bind_eq_ok_iff.mp h
    obtain ⟨content, -, h⟩ := bind_eq_ok_iff.mp h
    obtain ⟨rest, hrest, h⟩ := bind_eq_ok_iff.mp h
    rw [← Except.ok.inj h, List.map_cons, List.map_cons, ih hrest]

/-- **A record is read by reading its slots**, where it has the bytes for them and
no name hides another. -/
theorem decode_eq_ok_iff (hdistinct : ((slots fields).map Prod.fst).Nodup) :
    decode fields bytes codec = .ok contents ↔ ∃ total, length fields = .ok total ∧
      total ≤ bytes.length ∧ decodeSlots codec (slots fields) bytes = .ok contents := by
  -- no name hides another, so nothing is lost when the contents are put under their names
  have hentries : ∀ contents', decodeSlots codec (slots fields) bytes = .ok contents' →
      Entries.ofList contents' = contents' := fun contents' h => by
    rw [← names_of_decodeSlots h] at hdistinct
    exact Entries.ofList_eq_self hdistinct
  rw [decode, bind_eq_ok_iff]
  refine exists_congr fun total => and_congr_right fun _ => ?_
  by_cases hshort : bytes.length < total
  · rw [if_pos hshort]
    exact iff_of_false (fun h => nomatch h) fun h => by omega
  · rw [if_neg hshort, and_iff_right (by omega)]
    constructor
    · intro h
      obtain ⟨contents', hread, h⟩ := bind_eq_ok_iff.mp h
      rw [hread, ← Except.ok.inj h, hentries _ hread]
    · intro hread
      change (decodeSlots codec (slots fields) bytes >>= fun contents' =>
        Except.ok (Entries.ofList contents')) = _
      rw [hread, ok_bind, hentries _ hread]

/-! ### Bytes by slots -/

/-- **The bytes of a record, handed out to its slots.** -/
def slotBytes : List (String × Field) → List UInt8 → List ((String × Field) × List UInt8)
  | [], _ => []
  | slot :: row, bytes =>
    (slot, bytes.take (slotWidth slot.2)) :: slotBytes row (bytes.drop (slotWidth slot.2))

theorem map_fst_slotBytes (row : List (String × Field)) (bytes : List UInt8) :
    (slotBytes row bytes).map Prod.fst = row := by
  induction row generalizing bytes with
  | nil => rfl
  | cons slot row ih => rw [slotBytes, List.map_cons, ih]

theorem mem_of_mem_slotBytes {p : (String × Field) × List UInt8} (hp : p ∈ slotBytes row bytes) :
    p.1 ∈ row := by
  have hmem : p.1 ∈ (slotBytes row bytes).map Prod.fst := List.mem_map_of_mem hp
  rwa [map_fst_slotBytes] at hmem

/-- Nothing of a record's bytes is left over, and nothing stands between slots. -/
theorem flatMap_snd_slotBytes (h : bytes.length = totalWidth row) :
    (slotBytes row bytes).flatMap Prod.snd = bytes := by
  induction row generalizing bytes with
  | nil => exact (List.length_eq_zero_iff.mp h).symm
  | cons slot row ih =>
    rw [totalWidth] at h
    rw [slotBytes, List.flatMap_cons, ih (by rw [List.length_drop]; omega), List.take_append_drop]

theorem length_of_mem_slotBytes {p : (String × Field) × List UInt8}
    (hlen : totalWidth row ≤ bytes.length) (hp : p ∈ slotBytes row bytes) :
    p.2.length = slotWidth p.1.2 := by
  induction row generalizing bytes with
  | nil => cases hp
  | cons slot row ih =>
    rw [totalWidth] at hlen
    rcases List.mem_cons.mp hp with rfl | hp
    · rw [List.length_take]
      exact Nat.min_eq_left (by omega)
    · exact ih (by rw [List.length_drop]; omega) hp

/-- **Every slot is read from its own bytes.** -/
theorem decodeSlot_of_decodeSlots (h : decodeSlots codec row bytes = .ok contents)
    {p : (String × Field) × List UInt8} (hp : p ∈ slotBytes row bytes) :
    ∃ content, decodeSlot p.1.2 p.2 codec = .ok content ∧ (p.1.1, content) ∈ contents := by
  induction row generalizing bytes contents with
  | nil => cases hp
  | cons slot row ih =>
    obtain ⟨name, f⟩ := slot
    rw [decodeSlots] at h
    obtain ⟨width, hwidth, h⟩ := bind_eq_ok_iff.mp h
    obtain ⟨content, hread, h⟩ := bind_eq_ok_iff.mp h
    obtain ⟨rest, hrest, h⟩ := bind_eq_ok_iff.mp h
    rw [← slotWidth_of_ok hwidth] at hread hrest
    rw [← Except.ok.inj h]
    rcases List.mem_cons.mp hp with rfl | hp
    · exact ⟨content, hread, List.mem_cons_self ..⟩
    · obtain ⟨content', hread', hmem⟩ := ih hrest hp
      exact ⟨content', hread', List.mem_cons_of_mem _ hmem⟩

/-- Slots that are given other bytes of the same lengths, but read alike, make a
record that reads alike. -/
theorem decodeSlots_flatMap {write : (String × Field) × List UInt8 → List UInt8}
    (hsized : Sized row) (h : ∀ p ∈ slotBytes row bytes, (write p).length = slotWidth p.1.2 ∧
      decodeSlot p.1.2 (write p) codec = decodeSlot p.1.2 p.2 codec) :
    decodeSlots codec row ((slotBytes row bytes).flatMap write) = decodeSlots codec row bytes := by
  induction row generalizing bytes with
  | nil => rfl
  | cons slot row ih =>
    obtain ⟨name, f⟩ := slot
    obtain ⟨⟨hlen, hread⟩, hrest⟩ := List.forall_mem_cons.mp h
    have hwidth : f.storageLength = .ok (slotWidth f) := hsized (name, f) (List.mem_cons_self ..)
    -- the others are read from behind the first slot's bytes, of which there are as many as before
    have hrows := ih (fun slot hslot => hsized slot (List.mem_cons_of_mem _ hslot)) hrest
    rw [slotBytes, List.flatMap_cons, decodeSlots, decodeSlots, hwidth, ok_bind, ok_bind,
      List.take_left' hlen, List.drop_left' hlen, hread, hrows]

/-- **A record is written by writing its slots**, each into its own place. -/
theorem encodeSlots_of_slotBytes {values : List (String × Value)}
    {write : (String × Field) × List UInt8 → List UInt8}
    (h : ∀ p ∈ slotBytes row bytes,
      encodeSlot p.1.2 (Value.entry values p.1.1) codec = .ok (write p)) :
    encodeSlots codec values row = .ok ((slotBytes row bytes).flatMap write) := by
  induction row generalizing bytes with
  | nil => rfl
  | cons slot row ih =>
    obtain ⟨hslot, hrest⟩ := List.forall_mem_cons.mp h
    rw [encodeSlots, hslot, ok_bind, ih hrest]
    rfl

/-- A record is written only where each of its slots is. -/
theorem encodeSlot_of_encodeSlots {values : List (String × Value)}
    (h : encodeSlots codec values row = .ok bytes) {slot : String × Field} (hslot : slot ∈ row) :
    ∃ raw, encodeSlot slot.2 (Value.entry values slot.1) codec = .ok raw := by
  induction row generalizing bytes with
  | nil => cases hslot
  | cons slot row ih =>
    obtain ⟨name, f⟩ := slot
    rw [encodeSlots] at h
    obtain ⟨raw, hraw, h⟩ := bind_eq_ok_iff.mp h
    obtain ⟨rest, hrest, -⟩ := bind_eq_ok_iff.mp h
    rcases List.mem_cons.mp hslot with rfl | hslot
    · exact ⟨raw, hraw⟩
    · exact ih hrest hslot

/-- And a record is written where each of its slots is. -/
theorem exists_encodeSlots {values : List (String × Value)}
    (h : ∀ slot ∈ row, ∃ raw, encodeSlot slot.2 (Value.entry values slot.1) codec = .ok raw) :
    ∃ bytes, encodeSlots codec values row = .ok bytes := by
  induction row with
  | nil => exact ⟨[], rfl⟩
  | cons slot row ih =>
    obtain ⟨⟨raw, hraw⟩, hrow⟩ := List.forall_mem_cons.mp h
    obtain ⟨rest, hrest⟩ := ih hrow
    refine ⟨raw ++ rest, ?_⟩
    rw [encodeSlots, hraw, ok_bind, hrest]
    rfl

end FixedWidth.Record
