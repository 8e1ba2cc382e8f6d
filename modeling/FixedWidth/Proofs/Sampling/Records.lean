import FixedWidth.Proofs.Record.Split
import FixedWidth.Proofs.Record.Whole
import FixedWidth.Sampling.Records
import FixedWidth.Sampling.Twister

/-!
# Random records, read back

Whatever is drawn for a slot is something that the slot keeps whole
(`FixedWidth.Sampling.whole_content`): capitals up to the slot's width, or a number with
the places of its field below the power of ten of its digits, without a minus sign where
there is no place for one. So a record of such contents can be written and is read back
as it was drawn, and `FixedWidth.Sampling.records_decode_back` says it of a dataset that
is split into its records again.

Nothing is asked of the source of chance. It answers within the bounds it is given,
since nothing else can be an answer, and that is all that is used of it.
-/

namespace FixedWidth.Sampling

open Copybook (Field)
open Record (Whole HeldWhole toValues)

attribute [local irreducible] Field.geometry

variable {σ : Type} (source : Source σ) {fields : List Field} {total : Nat}

/-! ### One slot -/

/-- **Whether the numbers of a field have a digit**, and no more than the arithmetic takes. -/
def HasDigits (g : Geometry) : Prop :=
  g.isAlphanumeric = false → 1 ≤ g.totalDigits ∧ g.totalDigits ≤ 31

instance (g : Geometry) : Decidable (HasDigits g) := by
  unfold HasDigits
  infer_instance

/-- The byte of a capital, counted from `A`. The page has the capitals in three rows. -/
def capitalByte (k : Nat) : UInt8 :=
  .ofNat (if k < 9 then 0xC1 + k else if k < 18 then 0xD1 + (k - 9) else 0xE2 + (k - 18))

/-- Every capital is a character of the page, and none is a space. -/
theorem cp037Char_capitalByte : ∀ k < 26,
    CodePage.cp037Char (capitalByte k) = Char.ofNat ('A'.toNat + k) ∧
      (Char.ofNat ('A'.toNat + k) == ' ') = false := by
  decide +kernel

/-- So many capitals are drawn as are asked for. -/
theorem capitals_spec (count : Nat) (s : σ) : (source.capitals count s).1.length = count ∧
    ∀ c ∈ (source.capitals count s).1, ∃ k < 26, c = Char.ofNat ('A'.toNat + k) := by
  induction count generalizing s with
  | zero => exact ⟨rfl, fun c hc => absurd hc List.not_mem_nil⟩
  | succ count ih =>
    obtain ⟨hlen, hall⟩ := ih (source.capital s).2
    refine ⟨congrArg (· + 1) hlen, fun c hc => ?_⟩
    rcases List.mem_cons.mp hc with rfl | hc
    · exact ⟨_, (source.below 26 (by decide) s).1.isLt, rfl⟩
    · exact hall c hc

/-- A magnitude below the power of ten fits so many digits, with whatever sign has a
place in the field. -/
theorem fits_make {n k scale : Nat} {negative signed : Bool} (hpos : 0 < k)
    (hlt : n < Nat.pow 10 k) (hsign : signed = false → negative = false) :
    (Decimal.make n negative scale).Fits k signed := by
  refine ⟨((Decimal.make n negative scale).digitCount_le_iff hpos).mpr ?_, fun hsigned => ?_⟩
  · rwa [Decimal.unscaled_make]
  · rw [Decimal.negative_make, hsign hsigned, Bool.false_and]

/-- **A number that is drawn has the places of its field and fits it.** -/
theorem number_spec (signed : Bool) {i scale : Nat} (hpos : 0 < i + scale) (s : σ) :
    (number source (.numeric signed i scale) s).1.scale = scale ∧
      (number source (.numeric signed i scale) s).1.Fits (i + scale) signed := by
  have hlt := (source.below (Nat.pow 10 (i + scale)) (Nat.pow_pos (by decide)) s).1.isLt
  cases signed with
  | false => exact ⟨rfl, fits_make hpos hlt fun _ => rfl⟩
  | true => exact ⟨rfl, fits_make hpos hlt fun hsigned => nomatch hsigned⟩

/-- **What is drawn for a slot is kept whole by it.** -/
theorem whole_content {f : Field} {g : Geometry} (hg : f.geometry = .ok g) (hdigits : HasDigits g)
    (s : σ) : Whole f (content source g s).1 := by
  cases g with
  | alphanumeric n =>
    obtain ⟨hlen, hall⟩ := capitals_spec source (source.upTo n s).1 (source.upTo n s).2
    refine .text hg ?_ (fun c hc => ?_) (Text.dropWhileEnd_eq_self fun c hc => ?_)
    · exact Nat.le_of_lt_succ (Nat.lt_of_le_of_lt (Nat.le_of_eq hlen) (source.upTo n s).1.isLt)
    · obtain ⟨k, hk, rfl⟩ := hall c hc
      exact ⟨capitalByte k, (cp037Char_capitalByte k hk).1⟩
    · obtain ⟨k, hk, rfl⟩ := hall c hc
      exact (cp037Char_capitalByte k hk).2
  | numeric signed i scale =>
    obtain ⟨hpos, hle⟩ : 1 ≤ i + scale ∧ i + scale ≤ 31 := hdigits rfl
    obtain ⟨hplaces, hfits⟩ := number_spec source signed hpos s
    exact .number hg hplaces (by rwa [Nat.min_eq_left hle])

/-! ### One record -/

/-- **What is drawn for slots is kept whole by them**, where every slot has a name of its
own. -/
theorem exists_contents {row : List (String × Field)} {drawn : List (String × Content)}
    (hgeometry : ∀ slot ∈ row, ∃ g, slot.2.geometry = .ok g ∧ HasDigits g)
    (hdistinct : ((drawn.map Prod.fst) ++ row.map Prod.fst).Nodup) (s : σ) :
    ∃ held s', contents source row drawn s = .ok (drawn ++ held, s') ∧ HeldWhole row held := by
  induction row generalizing drawn s with
  | nil =>
    refine ⟨[], s, by rw [contents, List.append_nil], rfl, ?_⟩
    exact fun slot hslot => absurd hslot List.not_mem_nil
  | cons slot row ih =>
    obtain ⟨name, f⟩ := slot
    obtain ⟨⟨g, hg, hdigits⟩, hrow⟩ := List.forall_mem_cons.mp hgeometry
    have hnew : name ∉ drawn.map Prod.fst := fun hmem =>
      (List.nodup_append.mp hdistinct).2.2 _ hmem _ List.mem_cons_self rfl
    have hwhole := whole_content source hg hdigits s
    rw [contents, hg, ok_bind]
    generalize content source g s = next at hwhole ⊢
    obtain ⟨c, s⟩ := next
    have hnext : ((drawn ++ [(name, c)]).map Prod.fst ++ row.map Prod.fst).Nodup := by
      rw [List.map_append, List.append_assoc]
      exact hdistinct
    obtain ⟨held, s', hdrawn, hheld⟩ := ih hrow hnext s
    refine ⟨(name, c) :: held, s', ?_, ?_, fun slot hslot => ?_⟩
    · rw [List.append_cons, ← hdrawn, ← Entries.insert_of_notMem hnew]
    · rw [List.map_cons, List.map_cons, hheld.names_eq]
    · rcases List.mem_cons.mp hslot with rfl | hslot
      · exact ⟨c, List.mem_cons_self, hwhole⟩
      · obtain ⟨c', hmem, hwhole'⟩ := hheld.whole slot hslot
        exact ⟨c', List.mem_cons_of_mem _ hmem, hwhole'⟩

/-! ### A dataset -/

/-- **Whether a dataset is made of bodies** of one length, each of which is read as the
record in its place. -/
structure MadeOf (fields : List Field) (total : Nat) (bodies : List (List UInt8))
    (data : Dataset) : Prop where
  bytes_eq : data.bytes = bodies.flatten
  length_eq : ∀ body ∈ bodies, body.length = total
  decode_eq : bodies.map (fun body => Record.decode fields body CodePage.cp037.codec) =
    data.records.map Except.ok

section Layout

variable (hlength : Record.length fields = .ok total)
  (hdistinct : ((Record.slots fields).map Prod.fst).Nodup)
  (hdigits : ∀ f ∈ fields, ∀ g, f.geometry = .ok g → HasDigits g)

include hlength hdigits in
/-- Every slot of a record with a length has a geometry. -/
theorem exists_geometry : ∀ slot ∈ Record.slots fields,
    ∃ g, slot.2.geometry = .ok g ∧ HasDigits g := by
  intro slot hslot
  have hdigits' := hdigits slot.2 (Record.mem_of_mem_slots hslot)
  rcases Record.storageLength_eq_ok_iff.mp ((Record.length_eq_totalWidth hlength).1 slot hslot) with
    hg | ⟨signed, i, scale, hg, -⟩
  · exact ⟨_, hg, hdigits' _ hg⟩
  · exact ⟨_, hg, hdigits' _ hg⟩

include hlength hdistinct hdigits

/-- One more record is one more body in front. -/
theorem exists_records_succ (count : Nat)
    (hrest : ∀ s, ∃ data bodies, records source fields CodePage.cp037.codec count s = .ok data ∧
      bodies.length = count ∧ MadeOf fields total bodies data) (s : σ) :
    ∃ data bodies, records source fields CodePage.cp037.codec (count + 1) s = .ok data ∧
      bodies.length = count + 1 ∧ MadeOf fields total bodies data := by
  have hdistinct' : (([] : List (String × Content)).map Prod.fst ++
      (Record.slots fields).map Prod.fst).Nodup := hdistinct
  obtain ⟨held, s', hdrawn, hheld⟩ := exists_contents source
    (exists_geometry hlength hdigits) hdistinct' s
  obtain ⟨body, hbody, hlen, hread⟩ := Record.exists_encode_of_heldWhole hlength hdistinct hheld
  obtain ⟨data, bodies, hdata, hcount, hmade⟩ := hrest s'
  refine ⟨⟨body ++ data.bytes, held :: data.records⟩, body :: bodies, ?_, by rw [List.length_cons,
    hcount], ?_, ?_, ?_⟩
  · rw [records, hdrawn, ok_bind, List.nil_append]
    change Record.encode fields (toValues held) CodePage.cp037.codec >>= _ = _
    rw [hbody, ok_bind, hdata, ok_bind, pure_eq_ok]
  · rw [List.flatten_cons, hmade.bytes_eq]
  · exact List.forall_mem_cons.mpr ⟨hlen, hmade.length_eq⟩
  · rw [List.map_cons, List.map_cons, hread, hmade.decode_eq]

/-- **So many random records are as many bodies**, whatever is drawn. -/
theorem exists_records (count : Nat) (s : σ) :
    ∃ data bodies, records source fields CodePage.cp037.codec count s = .ok data ∧
      bodies.length = count ∧ MadeOf fields total bodies data := by
  induction count generalizing s with
  | zero => exact ⟨⟨[], []⟩, [], rfl, rfl, rfl, fun body hbody => absurd hbody List.not_mem_nil, rfl⟩
  | succ count ih => exact exists_records_succ source hlength hdistinct hdigits count ih s

/-- **Random records are read back as they were drawn**, whatever the source of chance
and its state. For a layout whose record has bytes, whose slots have different names and
whose numbers have from one digit to as many as the arithmetic takes, a dataset of so
many records can always be made. It has the bytes of as many records, it is split into as
many bodies, and each of these gives what was drawn for it. -/
theorem records_decode_back (hpos : 0 < total) (count : Nat) (s : σ) :
    ∃ data, records source fields CodePage.cp037.codec count s = .ok data ∧
      data.bytes.length = count * total ∧ data.records.length = count ∧
      ∃ bodies, Record.split data.bytes total = .ok bodies ∧ bodies.length = count ∧
        bodies.map (fun body => Record.decode fields body CodePage.cp037.codec) =
          data.records.map Except.ok := by
  obtain ⟨data, bodies, hdata, hcount, hmade⟩ :=
    exists_records source hlength hdistinct hdigits count s
  have hrecords := congrArg List.length hmade.decode_eq
  rw [List.length_map, List.length_map] at hrecords
  refine ⟨data, hdata, ?_, hrecords.symm.trans hcount, bodies, ?_, hcount, hmade.decode_eq⟩
  · rw [hmade.bytes_eq, Record.length_flatten_of_forall hmade.length_eq, hcount]
  · rw [hmade.bytes_eq]
    exact Record.split_flatten hpos hmade.length_eq

end Layout

/-- Three random orders. -/
theorem orders_decode_back :
    Record.length Record.orderFields = .ok 16 ∧
      ((Record.slots Record.orderFields).map Prod.fst).Nodup ∧
      (∀ f ∈ Record.orderFields, ∀ g, f.geometry = .ok g → HasDigits g) ∧ 0 < 16 ∧
      ∃ data, records Twister.source Record.orderFields CodePage.cp037.codec 3
          (Twister.ofSeed 1234) = .ok data ∧
        data.bytes.length = 3 * 16 ∧ data.records.length = 3 ∧
        ∃ bodies, Record.split data.bytes (16 : Nat) = .ok bodies ∧ bodies.length = 3 ∧
          bodies.map (fun body => Record.decode Record.orderFields body CodePage.cp037.codec) =
            data.records.map Except.ok := by
  have hlength : Record.length Record.orderFields = .ok 16 := by decide +kernel
  have hdigits : ∀ f ∈ Record.orderFields, ∀ g, f.geometry = .ok g → HasDigits g :=
    Record.forall_geometry_of_forall (by decide +kernel)
  exact ⟨hlength, Record.order_distinct, hdigits, by decide,
    records_decode_back Twister.source hlength Record.order_distinct hdigits (by decide) 3
      (Twister.ofSeed 1234)⟩

end FixedWidth.Sampling
