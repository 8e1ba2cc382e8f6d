import FixedWidth.Proofs.Copybook.Forest
import FixedWidth.Proofs.Copybook.Place
import FixedWidth.Proofs.Record.Layout
import Mathlib.Algebra.GroupWithZero.Nat

/-!
# The names of the slots

The number of a copy is put behind a name in two places: those of the groups while the
copies are written out, and that of the item with its slots. Put together they name the
places of the layout (`FixedWidth.Record.names_slots_fieldsOf`), which are all different.
So no slot of a copybook hides another, and what is read from a record has an entry for each
of its slots (`FixedWidth.Record.nodup_names_of_read`).

That is as long as the items have names of their own, and without underscores: an item can
be named as the copy of another one is.
-/

namespace FixedWidth.Record

open Copybook

variable {fields : List Field} {contents : List (String × Content)} {bytes : List UInt8}
  {codec : Codec} {text : String}

/-! ### The slots are named after their places -/

mutual
theorem names_slots_fields {path : List Nat} : ∀ {node : Node},
    (slots (node.fields (pathSuffix path))).map Prod.fst = (node.places path).map Place.name
  | .item level field => by
    rw [Node.fields, Node.places, slots, List.flatMap_singleton, List.map_map, List.map_map]
    refine List.map_congr_left fun i _ => ?_
    rw [Function.comp_apply, Function.comp_apply, Place.name, pathSuffix_append,
      pathSuffix_copyPath, String.append_assoc]
  | .group level count children => by
    rw [Node.fields, Node.places, slots, List.flatMap_assoc, List.map_flatMap, List.map_flatMap]
    refine List.flatMap_congr fun i _ => ?_
    rw [← pathSuffix_copyPath, ← pathSuffix_append]
    exact names_slots_fieldsOf

/-- **The names of the slots are those of the places.** -/
theorem names_slots_fieldsOf {path : List Nat} : ∀ {nodes : List Node},
    (slots (fieldsOf (pathSuffix path) nodes)).map Prod.fst = (placesOf path nodes).map Place.name
  | [] => rfl
  | node :: nodes => by
    rw [fieldsOf, placesOf, List.map_append, ← names_slots_fields, ← names_slots_fieldsOf,
      ← List.map_append, slots, List.flatMap_append]
    rfl
end

/-- A field has as many slots as it stands times. -/
theorem length_slots (fields : List Field) :
    (slots fields).length = (fields.map Field.occurs).sum := by
  rw [slots, List.length_flatMap]
  refine congrArg List.sum (List.map_congr_left fun f _ => ?_)
  rw [List.length_map, List.length_range]

/-- Where no name hides another, every slot is among the contents. -/
theorem length_of_decode (hdistinct : ((slots fields).map Prod.fst).Nodup)
    (h : decode fields bytes codec = .ok contents) :
    contents.map Prod.fst = (slots fields).map Prod.fst ∧
      contents.length = (fields.map Field.occurs).sum := by
  obtain ⟨total, -, -, hreads⟩ := (decode_eq_ok_iff hdistinct).mp h
  have hnames := names_of_decodeSlots hreads
  have hlength := congrArg List.length hnames
  rw [List.length_map, List.length_map, length_slots] at hlength
  exact ⟨hnames, hlength⟩

/-- **No slot of a copybook hides another.** Where the items have names of their own,
without underscores, the slots have names of their own, whatever stands how often; and a record
that is read has an entry for each slot. -/
theorem nodup_names_of_read
    (hdistinct : ((itemsOf (forest (entries text.toList))).map Field.name).Nodup)
    (hplain : ∀ f ∈ itemsOf (forest (entries text.toList)), '_' ∉ f.name.toList) :
    ((slots (Copybook.read text)).map Prod.fst).Nodup ∧
      ∀ bytes codec contents, decode (Copybook.read text) bytes codec = .ok contents →
        contents.map Prod.fst = (slots (Copybook.read text)).map Prod.fst ∧
          contents.length = ((Copybook.read text).map Field.occurs).sum := by
  have hslots : ((slots (Copybook.read text)).map Prod.fst).Nodup := by
    have hnames := @names_slots_fieldsOf [] (forest (entries text.toList))
    rw [pathSuffix] at hnames
    rw [Copybook.read_eq_fieldsOf_forest, hnames]
    refine List.Nodup.map_on (fun place hplace place' hplace' => ?_) (nodup_placesOf hdistinct)
    obtain ⟨⟨f, hf, hname⟩, -⟩ := exists_item_of_mem_placesOf hplace
    obtain ⟨⟨f', hf', hname'⟩, -⟩ := exists_item_of_mem_placesOf hplace'
    exact Place.eq_of_name_eq (hname ▸ hplain f hf) (hname' ▸ hplain f' hf')
  exact ⟨hslots, fun bytes codec contents h => length_of_decode hslots h⟩

/-- A layout in which groups and items stand several times: two orders of three lines, with
two parts and a price to each. -/
def linesText : String :=
  "01 ORDER OCCURS 2.\n 05 LINE OCCURS 3.\n  10 PART PIC X OCCURS 2.\n  10 PRICE PIC 9(3).\n"

theorem lines_nodup_names :
    ((itemsOf (forest (entries linesText.toList))).map Field.name) = ["PART", "PRICE"] ∧
      ((slots (Copybook.read linesText)).map Prod.fst).Nodup ∧
      ∀ bytes codec contents, decode (Copybook.read linesText) bytes codec = .ok contents →
        contents.map Prod.fst = (slots (Copybook.read linesText)).map Prod.fst ∧
          contents.length = 18 := by
  have hitems : (itemsOf (forest (entries linesText.toList))).map Field.name =
      ["PART", "PRICE"] := by decide +kernel
  have hplain : ∀ f ∈ itemsOf (forest (entries linesText.toList)), '_' ∉ f.name.toList := by
    decide +kernel
  have hcount : ((Copybook.read linesText).map Field.occurs).sum = 18 := by decide +kernel
  have hnames := nodup_names_of_read (hitems ▸ by decide) hplain
  rw [hcount] at hnames
  exact ⟨hitems, hnames⟩

/-- With an underscore in a name, a slot can have the name of another one. -/
example : (slots (Copybook.read "01 A PIC X OCCURS 2.\n01 A_1 PIC 9.\n")).map Prod.fst =
    ["A_0", "A_1", "A_1"] := by
  decide +kernel

end FixedWidth.Record
