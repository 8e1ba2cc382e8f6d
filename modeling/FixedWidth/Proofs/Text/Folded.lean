import FixedWidth.Text.Scan
import Mathlib.Data.List.Basic

/-!
# Text in either case

A text in small letters is read as the same text in capitals, wherever case does not count:
white space is found in the same places, keywords are, and both have one upper case. So what
a reader makes of a text that it first puts into upper case is the same for all texts of one
lower case, and it is enough to look at one of them.

Each law says that a step of reading and the lower case can be taken in either order. They all
come from three facts about a single letter, and these from a look at the 26 capitals
(`FixedWidth.Text.congr_toLower`).
-/

namespace FixedWidth.Text

/-! ### One letter -/

/-- The letters that have another lower case. -/
def capitals : List Char :=
  "ABCDEFGHIJKLMNOPQRSTUVWXYZ".toList

theorem mem_capitals_of_toLower_ne {c : Char} (h : c.toLower ≠ c) : c ∈ capitals := by
  have hall : ∀ k ∈ List.range 26, Char.ofNat (0x41 + k) ∈ capitals := by decide
  have hcapital : 'A'.val ≤ c.val ∧ c.val ≤ 'Z'.val :=
    Decidable.byContradiction fun hother => h (dif_neg hother)
  have hlow : 0x41 ≤ c.toNat := UInt32.le_iff_toNat_le.mp hcapital.1
  have hhigh : c.toNat ≤ 0x5A := UInt32.le_iff_toNat_le.mp hcapital.2
  have hmem := hall (c.toNat - 0x41) (List.mem_range.mpr (by omega))
  rwa [Nat.add_sub_cancel' hlow, Char.ofNat_toNat] at hmem

/-- **What is the same of a capital and its small letter** is the same of every character and
its lower case. -/
theorem congr_toLower {α : Type} [DecidableEq α] (f : Char → α)
    (h : (capitals.all fun c => f c.toLower = f c) = true) (c : Char) : f c.toLower = f c := by
  by_cases hc : c.toLower = c
  · rw [hc]
  · exact of_decide_eq_true (List.all_eq_true.mp h c (mem_capitals_of_toLower_ne hc))

theorem isBlank_toLower : ∀ c : Char, isBlank c.toLower = isBlank c :=
  congr_toLower isBlank (by decide)

theorem foldLetter_toLower : ∀ c : Char, foldLetter c.toLower = foldLetter c :=
  congr_toLower foldLetter (by decide)

theorem upperChar_toLower : ∀ c : Char, upperChar c.toLower = upperChar c :=
  congr_toLower upperChar (by decide +kernel)

/-! ### Texts -/

theorem upper_map_toLower (cs : List Char) : upper (cs.map Char.toLower) = upper cs := by
  rw [upper, upper, List.flatMap_map]
  exact List.flatMap_congr fun c _ => upperChar_toLower c

theorem dropWhile_isBlank_map_toLower (cs : List Char) :
    (cs.map Char.toLower).dropWhile isBlank = (cs.dropWhile isBlank).map Char.toLower := by
  rw [List.dropWhile_map]
  exact congrArg (fun p => (cs.dropWhile p).map Char.toLower) (funext isBlank_toLower)

theorem trim_map_toLower (cs : List Char) :
    trim (cs.map Char.toLower) = (trim cs).map Char.toLower := by
  rw [trim, trim, trimWhile, trimWhile, dropWhileEnd, dropWhileEnd, dropWhile_isBlank_map_toLower,
    ← List.map_reverse, dropWhile_isBlank_map_toLower, List.map_reverse]

theorem dropKeyword?_map_toLower (keyword cs : List Char) :
    dropKeyword? keyword (cs.map Char.toLower) =
      (dropKeyword? keyword cs).map (List.map Char.toLower) := by
  induction keyword generalizing cs with
  | nil => rfl
  | cons k keyword ih =>
    cases cs with
    | nil => rfl
    | cons c cs =>
      rw [List.map_cons, dropKeyword?, dropKeyword?, foldLetter_toLower]
      split
      · exact ih cs
      · rfl

theorem dropBlanks?_map_toLower (cs : List Char) :
    dropBlanks? (cs.map Char.toLower) = (dropBlanks? cs).map (List.map Char.toLower) := by
  cases cs with
  | nil => rfl
  | cons c cs =>
    rw [List.map_cons, dropBlanks?, dropBlanks?, isBlank_toLower, dropWhile_isBlank_map_toLower]
    split <;> rfl

theorem dropOptional_map_toLower (keyword cs : List Char) :
    dropOptional keyword (cs.map Char.toLower) = (dropOptional keyword cs).map Char.toLower := by
  have hfound : (dropKeyword? keyword (cs.map Char.toLower)).bind dropBlanks? =
      ((dropKeyword? keyword cs).bind dropBlanks?).map (List.map Char.toLower) := by
    rw [dropKeyword?_map_toLower, Option.bind_map, Option.map_bind]
    exact congrArg _ (funext dropBlanks?_map_toLower)
  rw [dropOptional, dropOptional, hfound]
  cases (dropKeyword? keyword cs).bind dropBlanks? <;> rfl

end FixedWidth.Text
