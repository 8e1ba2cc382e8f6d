import FixedWidth.Record.Codec
import Mathlib.Data.List.Sort

/-!
# Records in a row

A dataset has no marks between its records: what makes it one is that they all have the
same length. So it is cut at the multiples of that length, as long as a whole record is left
behind the place (`FixedWidth.Record.starts`), and no byte that stands in a whole record is
lost or given twice.

The other way round, records that are put in a row are cut out of it again as they were,
whatever stands behind the last one, if it is too short for one more
(`FixedWidth.Record.split_flatten_append`).
-/

namespace FixedWidth.Record

variable {α : Type} {length : Nat}

theorem length_flatten_of_forall {rows : List (List α)} (h : ∀ row ∈ rows, row.length = length) :
    rows.flatten.length = rows.length * length := by
  induction rows with
  | nil => exact (Nat.zero_mul length).symm
  | cons row rows ih =>
    obtain ⟨hrow, hrows⟩ := List.forall_mem_cons.mp h
    rw [List.flatten_cons, List.length_append, List.length_cons, hrow, ih hrows, Nat.succ_mul,
      Nat.add_comm]

/-! ### Pieces -/

/-- Each piece is the part of the list from its own place on. -/
theorem pieces_eq_map (length count : Nat) (xs : List α) :
    pieces length count xs = (List.range count).map fun i => (xs.drop (i * length)).take length := by
  induction count generalizing xs with
  | zero => rfl
  | succ count ih =>
    rw [pieces, ih, List.range_succ_eq_map, List.map_cons, List.map_map, Nat.zero_mul,
      List.drop_zero]
    refine congrArg _ (List.map_congr_left fun i _ => ?_)
    rw [List.drop_drop, Function.comp_apply, Nat.succ_mul, Nat.add_comm length]

@[simp] theorem length_pieces (length count : Nat) (xs : List α) :
    (pieces length count xs).length = count := by
  rw [pieces_eq_map, List.length_map, List.length_range]

/-- The pieces put in a row are the front of the list. -/
theorem flatten_pieces (length count : Nat) (xs : List α) :
    (pieces length count xs).flatten = xs.take (length * count) := by
  induction count generalizing xs with
  | zero => rfl
  | succ count ih => rw [pieces, List.flatten_cons, ih, ← List.take_add, Nat.mul_succ, Nat.add_comm]

/-- A piece has its length as long as the list has enough for it. -/
theorem length_of_mem_pieces {count : Nat} {xs piece : List α} (h : length * count ≤ xs.length)
    (hpiece : piece ∈ pieces length count xs) : piece.length = length := by
  rw [pieces_eq_map] at hpiece
  obtain ⟨i, hi, rfl⟩ := List.mem_map.mp hpiece
  have hnext : (i + 1) * length ≤ count * length :=
    Nat.mul_le_mul_right length (List.mem_range.mp hi)
  rw [Nat.succ_mul, Nat.mul_comm count] at hnext
  rw [List.length_take, List.length_drop]
  omega

/-- Rows of one length are the pieces of what they make together, also with something behind. -/
theorem pieces_flatten_append {rows : List (List α)} (h : ∀ row ∈ rows, row.length = length)
    (rest : List α) : pieces length rows.length (rows.flatten ++ rest) = rows := by
  induction rows with
  | nil => rfl
  | cons row rows ih =>
    obtain ⟨hrow, hrows⟩ := List.forall_mem_cons.mp h
    rw [List.flatten_cons, List.length_cons, pieces, List.append_assoc, List.take_left' hrow,
      List.drop_left' hrow, ih hrows]

/-! ### Datasets -/

/-- **The places at which the records of a dataset begin**: the multiples of the record length
that are below the first place with too few bytes behind it. -/
def starts (size length : Nat) : List Nat :=
  (List.range (size + 1 - length)).filter fun start => length ∣ start

/-- There are as many places as the size has whole records. -/
theorem starts_eq_map (hpos : 0 < length) (size : Nat) :
    starts size length = (List.range (size / length)).map (· * length) := by
  have hsorted : (starts size length).Pairwise (· < ·) := List.pairwise_lt_range.filter _
  have hsorted' : ((List.range (size / length)).map (· * length)).Pairwise (· < ·) :=
    List.pairwise_lt_range.map _ fun _ _ h => Nat.mul_lt_mul_of_pos_right h hpos
  refine hsorted.eq_of_mem_iff hsorted' fun start => ?_
  -- a multiple `i * length` is a place exactly when the record behind it ends within the size
  have hroom : ∀ i, i * length < size + 1 - length ↔ i < size / length := by
    intro i
    rw [Nat.lt_iff_add_one_le (m := i), Nat.le_div_iff_mul_le hpos, Nat.succ_mul]
    omega
  simp only [starts, List.mem_filter, List.mem_range, List.mem_map, decide_eq_true_eq]
  constructor
  · rintro ⟨hlt, i, rfl⟩
    rw [Nat.mul_comm] at hlt ⊢
    exact ⟨i, (hroom i).mp hlt, rfl⟩
  · rintro ⟨i, hi, rfl⟩
    exact ⟨(hroom i).mpr hi, Nat.dvd_mul_left length i⟩

/-- A dataset is split into as many records as it has bytes for. -/
theorem split_eq_pieces (hpos : 0 < length) (bytes : List UInt8) :
    split bytes length = .ok (pieces length (bytes.length / length) bytes) := by
  rw [split, if_neg (by omega), Int.toNat_natCast]

/-- **Records of one length in a row are split into these records**, and what is left behind
them is dropped if it is shorter than a record. -/
theorem split_flatten_append {bodies : List (List UInt8)} {tail : List UInt8} (hpos : 0 < length)
    (h : ∀ body ∈ bodies, body.length = length) (htail : tail.length < length) :
    split (bodies.flatten ++ tail) length = .ok bodies := by
  have hcount : (bodies.flatten ++ tail).length / length = bodies.length := by
    rw [List.length_append, length_flatten_of_forall h, Nat.mul_comm,
      Nat.mul_add_div hpos, Nat.div_eq_of_lt htail, Nat.add_zero]
  rw [split_eq_pieces hpos, hcount, pieces_flatten_append h]

theorem split_flatten {bodies : List (List UInt8)} (hpos : 0 < length)
    (h : ∀ body ∈ bodies, body.length = length) : split bodies.flatten length = .ok bodies := by
  have hsplit := split_flatten_append hpos h (show ([] : List UInt8).length < length from hpos)
  rwa [List.append_nil] at hsplit

/-- **Splitting loses nothing and gives nothing twice.** A dataset is split into as many records
as its size has room for, each of the record length: one at each of the places, so that together
they are the dataset without its short rest. And whatever records of one length a dataset is
made of, with a short rest or without, it is split into these records. -/
theorem split_exact (hpos : 0 < length) :
    (∀ bytes : List UInt8, ∃ bodies, split bytes length = .ok bodies ∧
      bodies.length = bytes.length / length ∧ (∀ body ∈ bodies, body.length = length) ∧
      bodies.flatten = bytes.take (length * (bytes.length / length)) ∧
      bodies = (starts bytes.length length).map fun start => (bytes.drop start).take length) ∧
    ∀ (bodies : List (List UInt8)) (tail : List UInt8), (∀ body ∈ bodies, body.length = length) →
      tail.length < length → split (bodies.flatten ++ tail) length = .ok bodies := by
  refine ⟨fun bytes => ⟨_, split_eq_pieces hpos bytes, length_pieces _ _ _,
    fun body => length_of_mem_pieces (Nat.mul_div_le bytes.length length), flatten_pieces _ _ _, ?_⟩,
    fun bodies tail => split_flatten_append hpos⟩
  rw [starts_eq_map hpos, List.map_map, pieces_eq_map]
  rfl

/-- Seven letters in records of three: two records, and a letter that belongs to none. -/
theorem letters_split_exact : 0 < 3 ∧
    (∃ bodies, split [97, 98, 99, 100, 101, 102, 103] (3 : Nat) = .ok bodies ∧
      bodies.length = 2 ∧ bodies.flatten = [97, 98, 99, 100, 101, 102]) ∧
    (∀ body ∈ ([[97, 98, 99], [100, 101, 102]] : List (List UInt8)), body.length = 3) ∧
    split [97, 98, 99, 100, 101, 102, 103] (3 : Nat) = .ok [[97, 98, 99], [100, 101, 102]] := by
  have hpos : 0 < 3 := by decide
  have hbodies : ∀ body ∈ ([[97, 98, 99], [100, 101, 102]] : List (List UInt8)),
      body.length = 3 := by decide
  obtain ⟨hsplit, hjoined⟩ := split_exact hpos
  obtain ⟨bodies, h, hcount, -, hflatten, -⟩ := hsplit [97, 98, 99, 100, 101, 102, 103]
  exact ⟨hpos, ⟨bodies, h, hcount, hflatten⟩, hbodies,
    hjoined [[97, 98, 99], [100, 101, 102]] [103] hbodies (by decide)⟩

end FixedWidth.Record
