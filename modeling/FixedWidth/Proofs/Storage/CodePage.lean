import FixedWidth.Storage.CodePage

/-!
# Code pages, written and read back

In every page but UTF-8 a character is one byte, and what is written is read back
as it was (`FixedWidth.CodePage.faithful_codec`). This is more than a record needs
of its codec, which is only that it is so with the texts that are written.

The other way round is not a matter of course: a byte that stands for no
character is not read at all, and one that stands for the character of another
byte would be written as that other byte. The first page of the EBCDIC family
has neither kind of byte, its table being a permutation of the code points below
256 (`FixedWidth.CodePage.encode_cp037`), so that every record can be read in
it and written again.
-/

namespace FixedWidth.CodePage

/-! ### One byte to a character -/

/-- A byte that stands for a character is read as that character. -/
theorem charOf?_of_byteOf? {page : CodePage} {c : Char} {b : UInt8}
    (h : page.byteOf? c = some b) : page.charOf? b = some c := by
  have hebcdic : ∀ page : CodePage,
      (allBytes.find? fun b => page.ebcdicPoint b = c.toNat) = some b →
        some (Char.ofNat (page.ebcdicPoint b)) = some c := by
    intro page hfind
    have hpoint : page.ebcdicPoint b = c.toNat := by
      simpa using List.find?_some hfind
    rw [hpoint, Char.ofNat_toNat]
  cases page with
  | cp037 => exact hebcdic _ h
  | cp500 => exact hebcdic _ h
  | cp1140 => exact hebcdic _ h
  | ascii =>
    simp only [byteOf?] at h
    split at h
    next hc =>
      have hnat : (UInt8.ofNat c.toNat).toNat = c.toNat :=
        UInt8.toNat_ofNat_of_lt' (show c.toNat < 256 by omega)
      have hlt : UInt8.ofNat c.toNat < 0x80 := by
        rw [UInt8.lt_iff_toNat_lt, hnat]
        exact hc
      rw [← Option.some.inj h, charOf?, if_pos hlt, hnat, Char.ofNat_toNat]
    · cases h
  | latin1 =>
    simp only [byteOf?] at h
    split at h
    next hc =>
      have hnat : (UInt8.ofNat c.toNat).toNat = c.toNat := UInt8.toNat_ofNat_of_lt' hc
      rw [← Option.some.inj h, charOf?, hnat, Char.ofNat_toNat]
    · cases h
  | utf8 => cases h

theorem decodeFrom_eq_ok_iff {page : CodePage} {position : Nat} {bytes : List UInt8}
    {cs : List Char} :
    page.decodeFrom position bytes = .ok cs ↔ bytes.map page.charOf? = cs.map some := by
  induction bytes generalizing position cs with
  | nil =>
    rw [decodeFrom, List.map_nil, eq_comm (a := []), List.map_eq_nil_iff, Except.ok.injEq, eq_comm]
  | cons b bytes ih =>
    rw [decodeFrom, List.map_cons]
    cases hb : page.charOf? b with
    | none => cases cs <;> simp
    | some c =>
      obtain _ | ⟨c', cs⟩ := cs
      · cases page.decodeFrom (position + 1) bytes <;> simp [Except.map]
      · rw [List.map_cons, List.cons.injEq, ← @ih (position + 1), Option.some.injEq]
        cases page.decodeFrom (position + 1) bytes <;> simp [Except.map]

theorem decode_of_single {page : CodePage} (single : page ≠ .utf8) (bytes : List UInt8) :
    page.decode bytes = page.decodeFrom 0 bytes := by
  cases page with
  | utf8 => exact absurd rfl single
  | _ => simp only [decode]

/-- **Reading, byte by byte.** -/
theorem decode_eq_ok_iff {page : CodePage} (single : page ≠ .utf8) {bytes : List UInt8}
    {cs : List Char} :
    page.decode bytes = .ok cs ↔ bytes.map page.charOf? = cs.map some := by
  rw [decode_of_single single, decodeFrom_eq_ok_iff]

theorem firstRunOutside?_eq_none_iff {page : CodePage} {cs : List Char} :
    page.firstRunOutside? cs = none ↔ ∀ c ∈ cs, page.holds c = true := by
  rw [← List.all_eq_true, ← Text.dropWhile_eq_nil_iff_all, firstRunOutside?]
  split
  next h => exact iff_of_true rfl h
  next h => exact iff_of_false (fun hc => nomatch hc) (by rw [h]; simp)

theorem holds_iff {page : CodePage} (single : page ≠ .utf8) {c : Char} :
    page.holds c = true ↔ (page.byteOf? c).isSome = true := by
  cases page with
  | utf8 => exact absurd rfl single
  | _ => simp only [holds]

/-- Where a function has an answer for every item, filtering by it loses none. -/
theorem map_eq_map_some_iff {α β : Type} {f : α → Option β} {xs : List α} {ys : List β} :
    xs.map f = ys.map some ↔ (∀ x ∈ xs, (f x).isSome = true) ∧ xs.filterMap f = ys := by
  induction xs generalizing ys with
  | nil => cases ys <;> simp
  | cons x xs ih =>
    cases hx : f x with
    | none => cases ys <;> simp [hx]
    | some y =>
      obtain _ | ⟨y', ys⟩ := ys
      · simp [hx]
      · rw [List.map_cons, List.map_cons, List.cons.injEq, ih, List.filterMap_cons_some hx, hx,
          List.cons.injEq, List.forall_mem_cons, hx, Option.some.injEq]
        exact ⟨fun h => ⟨⟨rfl, h.2.1⟩, h.1, h.2.2⟩, fun h => ⟨h.2.1, h.1.2, h.2.2⟩⟩

/-- **Writing, character by character.** -/
theorem encode_eq_ok_iff {page : CodePage} (single : page ≠ .utf8) {bytes : List UInt8}
    {cs : List Char} :
    page.encode cs = .ok bytes ↔ cs.map page.byteOf? = bytes.map some := by
  rw [map_eq_map_some_iff]
  unfold encode
  cases hrun : page.firstRunOutside? cs with
  | some run =>
    obtain ⟨c, first, stop⟩ := run
    refine iff_of_false (fun h => nomatch h) fun h => ?_
    have hnone : page.firstRunOutside? cs = none :=
      firstRunOutside?_eq_none_iff.mpr fun c hc => (holds_iff single).mpr (h.1 c hc)
    rw [hrun] at hnone
    cases hnone
  | none =>
    have hall : ∀ c ∈ cs, (page.byteOf? c).isSome = true := fun c hc =>
      (holds_iff single).mp (firstRunOutside?_eq_none_iff.mp hrun c hc)
    rw [and_iff_right hall]
    cases page with
    | utf8 => exact absurd rfl single
    | _ => simp only [Except.ok.injEq]

/-! ### What is written is read back -/

/-- **Every page but UTF-8 is faithful.** -/
theorem faithful_codec {page : CodePage} (single : page ≠ .utf8) : page.codec.Faithful where
  singleByte {cs bytes} hcs := by
    have hbytes := (encode_eq_ok_iff single).mp hcs
    simpa using (congrArg List.length hbytes).symm
  undoes cs {bytes} hcs := by
    have hbytes := (encode_eq_ok_iff single).mp hcs
    refine (decode_eq_ok_iff single).mpr ?_
    clear hcs
    induction cs generalizing bytes with
    | nil => rw [List.map_eq_nil_iff.mp hbytes.symm]; rfl
    | cons c cs ih =>
      obtain _ | ⟨b, bytes⟩ := bytes
      · cases hbytes
      obtain ⟨hc, hcs⟩ := List.cons.inj hbytes
      rw [List.map_cons, List.map_cons, ih hcs, charOf?_of_byteOf? hc]

/-! ### A page that is a permutation -/

/-- Whether numbers are all different, and different from those whose bit is set
in the mask. Each number sets its bit as it is met. -/
def allDistinct (mask : Nat) : List Nat → Bool
  | [] => true
  | n :: ns => !mask.testBit n && allDistinct (mask ||| 1 <<< n) ns

theorem nodup_of_allDistinct {mask : Nat} {ns : List Nat} (h : allDistinct mask ns = true) :
    ns.Nodup ∧ ∀ n ∈ ns, mask.testBit n = false := by
  induction ns generalizing mask with
  | nil => exact ⟨List.nodup_nil, fun n hn => absurd hn List.not_mem_nil⟩
  | cons n ns ih =>
    obtain ⟨hn, hns⟩ := Bool.and_eq_true_iff.mp h
    obtain ⟨hnodup, hmask⟩ := ih hns
    have hfree : ∀ m ∈ ns, mask.testBit m = false ∧ n ≠ m := by
      intro m hm
      have hbit := hmask m hm
      rw [Nat.testBit_or, Bool.or_eq_false_iff] at hbit
      refine ⟨hbit.1, ?_⟩
      rintro rfl
      simp at hbit
    refine ⟨List.nodup_cons.mpr ⟨fun hmem => (hfree n hmem).2 rfl, hnodup⟩, ?_⟩
    rw [List.forall_mem_cons]
    exact ⟨by simpa using hn, fun m hm => (hfree m hm).1⟩

theorem nodup_cp037Table : cp037Table.Nodup :=
  (@nodup_of_allDistinct 0 _ (by decide +kernel)).1

theorem length_cp037Table : cp037Table.length = 256 := by
  decide +kernel

theorem lt_of_mem_cp037Table : ∀ n ∈ cp037Table, n < 256 := by
  decide +kernel

/-- The character of a byte in the first of the EBCDIC pages. -/
def cp037Char (b : UInt8) : Char :=
  Char.ofNat (cp037.ebcdicPoint b)

/-- A byte stands for the code point in its place of the table. -/
theorem getElem?_cp037Table (b : UInt8) :
    cp037Table[b.toNat]? = some (cp037.ebcdicPoint b) := by
  have hlt : b.toNat < cp037Table.length := length_cp037Table ▸ b.toNat_lt
  have hgetD : cp037.ebcdicPoint b = cp037Table.getD b.toNat 0 := rfl
  rw [hgetD, List.getD_eq_getElem?_getD, List.getElem?_eq_getElem hlt, Option.getD_some]

theorem toNat_cp037Char (b : UInt8) : (cp037Char b).toNat = cp037.ebcdicPoint b := by
  have hlt := lt_of_mem_cp037Table _ (List.mem_of_getElem? (getElem?_cp037Table b))
  have hvalid : (cp037.ebcdicPoint b).isValidChar := Or.inl (by omega)
  rw [cp037Char, Char.ofNat, dif_pos hvalid]
  rfl

theorem cp037Char_injective {a b : UInt8} (h : cp037Char a = cp037Char b) : a = b := by
  have hpoint := congrArg Char.toNat h
  rw [toNat_cp037Char, toNat_cp037Char] at hpoint
  have hlt : a.toNat < cp037Table.length := length_cp037Table ▸ a.toNat_lt
  refine UInt8.toNat_inj.mp ((List.getElem?_inj hlt nodup_cp037Table).mp ?_)
  rw [getElem?_cp037Table, getElem?_cp037Table, hpoint]

theorem mem_allBytes (b : UInt8) : b ∈ allBytes :=
  List.mem_map.mpr ⟨b.toNat, List.mem_range.mpr b.toNat_lt, UInt8.ofNat_toNat⟩

theorem byteOf?_cp037Char (b : UInt8) : cp037.byteOf? (cp037Char b) = some b := by
  have hself : cp037.ebcdicPoint b = (cp037Char b).toNat := (toNat_cp037Char b).symm
  change (allBytes.find? fun a => cp037.ebcdicPoint a = (cp037Char b).toNat) = some b
  cases hfind : allBytes.find? fun a => cp037.ebcdicPoint a = (cp037Char b).toNat with
  | none =>
    have := List.find?_eq_none.mp hfind b (mem_allBytes b)
    simp [hself] at this
  | some a =>
    have hpoint : cp037.ebcdicPoint a = (cp037Char b).toNat := by
      simpa using List.find?_some hfind
    refine congrArg some (cp037Char_injective ?_)
    rw [cp037Char, hpoint, Char.ofNat_toNat]

theorem cp037_ne_utf8 : cp037 ≠ utf8 := by decide

/-- **Every record can be read** in the first of the EBCDIC pages. -/
theorem decode_cp037 (bytes : List UInt8) :
    cp037.codec.decode bytes = .ok (bytes.map cp037Char) := by
  refine (decode_eq_ok_iff cp037_ne_utf8).mpr ?_
  rw [List.map_map]
  exact List.map_congr_left fun b _ => rfl

/-- **And what was read in it can be written again**, byte for byte. -/
theorem encode_cp037 (bytes : List UInt8) :
    cp037.codec.encode (bytes.map cp037Char) = .ok bytes := by
  refine (encode_eq_ok_iff cp037_ne_utf8).mpr ?_
  rw [List.map_map]
  exact List.map_congr_left fun b _ => byteOf?_cp037Char b

theorem faithful_cp037 : cp037.codec.Faithful :=
  faithful_codec cp037_ne_utf8

end FixedWidth.CodePage
