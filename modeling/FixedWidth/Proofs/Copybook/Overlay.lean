import FixedWidth.Copybook.Layout
import FixedWidth.Proofs.Copybook.Line
import Mathlib.Logic.Relation

/-!
# Entries that leave no trace

An entry that lies over another one takes no storage, and neither does what stands
below it. Going through the entries, one has to keep in mind only the level of the
overlay that is open; looking back from an entry, one has to find an overlay above it.
`FixedWidth.Copybook.dropOverlays_none_eq_stored` says that this is the same.

A layout is also built as if such entries had never been written, which is shown for the
entries (`FixedWidth.Copybook.dropOverlays_overlay`) and for the lines of a copybook.
`FixedWidth.Copybook.Skips` says which lines can be taken out together, and
`FixedWidth.Copybook.read_eq_of_skips` that taking them out, as often as one likes,
leaves the fields of the record as they were.
-/

namespace FixedWidth.Copybook

variable {rows before block after : List Entry} {overlay : Option Nat} {e : Entry} {n level : Nat}

/-! ### Taking entries out -/

/-- What stands below an overlay is left out with it. -/
theorem dropOverlays_of_below (h : ∀ b ∈ block, level < b.level) :
    dropOverlays (some level) (block ++ after) = dropOverlays (some level) after := by
  induction block with
  | nil => rfl
  | cons b block ih =>
    obtain ⟨hb, hblock⟩ := List.forall_mem_cons.mp h
    rw [List.cons_append, dropOverlays, if_pos (by simpa using hb), ih hblock]

/-- An overlay is over with an entry that does not stand below it. -/
theorem dropOverlays_of_head (h : ∀ b ∈ after.head?, b.level ≤ level) :
    dropOverlays (some level) after = dropOverlays none after := by
  cases after with
  | nil => rfl
  | cons b after =>
    have hb : ¬level < b.level := Nat.not_lt.mpr (h b rfl)
    simp only [dropOverlays, Option.any_some, hb, decide_false, Option.any_none, Bool.false_eq_true,
      if_false]

/-- **An overlay can be taken out together with what stands below it**, wherever it
stands: below another overlay, behind one, or in a group. -/
theorem dropOverlays_overlay (hredefines : e.redefines = true)
    (hblock : ∀ b ∈ block, e.level < b.level) (hafter : ∀ b ∈ after.head?, b.level ≤ e.level) :
    dropOverlays overlay (before ++ e :: (block ++ after)) =
      dropOverlays overlay (before ++ after) := by
  induction before generalizing overlay with
  | cons a before ih =>
    rw [List.cons_append, List.cons_append, dropOverlays, dropOverlays, ih, ih, ih]
  | nil =>
    rw [List.nil_append, List.nil_append, dropOverlays]
    have hopened : dropOverlays (some e.level) (block ++ after) = dropOverlays none after :=
      (dropOverlays_of_below hblock).trans (dropOverlays_of_head hafter)
    cases overlay with
    | none => rw [if_neg (by simp), if_pos hredefines, hopened]
    | some level =>
      by_cases hlevel : level < e.level
      · -- it stands below the overlay before it, and so does what stands below it
        rw [if_pos (by simpa using hlevel),
          dropOverlays_of_below fun b hb => Nat.lt_trans hlevel (hblock b hb)]
      · -- it ends the overlay before it, and so does what ends it
        rw [if_neg (by simpa using hlevel), if_pos hredefines, hopened,
          dropOverlays_of_head fun b hb => Nat.le_trans (hafter b hb) (Nat.le_of_not_lt hlevel)]

/-! ### Entries by their places -/

/-- The level of an entry, by its place. -/
def levelAt (rows : List Entry) (i : Nat) : Nat :=
  (rows[i]?.map Entry.level).getD 0

/-- **Whether one entry stands below another**, by their places: it comes behind it, and
from there on all levels are greater, its own included. -/
def Below (rows : List Entry) (i j : Nat) : Prop :=
  i < j ∧ ∀ k ≤ j, i < k → levelAt rows i < levelAt rows k

instance (rows : List Entry) (i j : Nat) : Decidable (Below rows i j) := by
  unfold Below
  infer_instance

/-- **Whether an entry takes no storage of its own**: it lies over another item, or
stands below an entry that does. -/
def Overlaid (rows : List Entry) (j : Nat) : Prop :=
  rows[j]?.any Entry.redefines ∨ ∃ i < j, rows[i]?.any Entry.redefines ∧ Below rows i j

instance (rows : List Entry) (j : Nat) : Decidable (Overlaid rows j) := by
  unfold Overlaid
  infer_instance

/-- **The entries that take storage of their own.** -/
def stored (rows : List Entry) : List Entry :=
  rows.zipIdx.filterMap fun row => if Overlaid rows row.2 then none else some row.1

theorem levelAt_length : levelAt (before ++ e :: after) before.length = e.level := by
  simp [levelAt]

/-- Whether an entry of the given level would stand below an overlay, if it came next
after the first `n` entries. -/
def OpenFor (rows : List Entry) (n level : Nat) : Prop :=
  ∃ i < n, rows[i]?.any Entry.redefines ∧
    (∀ k < n, i < k → levelAt rows i < levelAt rows k) ∧ levelAt rows i < level

theorem OpenFor.mono {level' : Nat} (h : OpenFor rows n level) (hle : level ≤ level') :
    OpenFor rows n level' := by
  obtain ⟨i, hi, hredefines, hbetween, hlt⟩ := h
  exact ⟨i, hi, hredefines, hbetween, Nat.lt_of_lt_of_le hlt hle⟩

theorem overlaid_iff : Overlaid rows n ↔
    rows[n]?.any Entry.redefines ∨ OpenFor rows n (levelAt rows n) := by
  refine or_congr_right (exists_congr fun i => and_congr_right fun hi => and_congr_right fun _ => ?_)
  constructor
  · exact fun h => ⟨fun k hk => h.2 k (Nat.le_of_lt hk), h.2 n (Nat.le_refl n) hi⟩
  · rintro ⟨hbetween, hlast⟩
    refine ⟨hi, fun k hk hik => ?_⟩
    rcases Nat.lt_or_eq_of_le hk with hk | rfl
    · exact hbetween k hk hik
    · exact hlast

/-- Whether an overlay is open after one more entry: an open one that the entry stands
below, or the entry itself. -/
theorem openFor_succ_iff : OpenFor rows (n + 1) level ↔
    OpenFor rows n (min (levelAt rows n) level) ∨
      rows[n]?.any Entry.redefines ∧ levelAt rows n < level := by
  constructor
  · rintro ⟨i, hi, hredefines, hbetween, hlt⟩
    rcases Nat.lt_succ_iff_lt_or_eq.mp hi with hi | rfl
    · exact .inl ⟨i, hi, hredefines, fun k hk => hbetween k (by omega),
        Nat.lt_min.mpr ⟨hbetween n (by omega) hi, hlt⟩⟩
    · exact .inr ⟨hredefines, hlt⟩
  · rintro (⟨i, hi, hredefines, hbetween, hlt⟩ | ⟨hredefines, hlt⟩)
    · obtain ⟨hlast, hlt⟩ := Nat.lt_min.mp hlt
      refine ⟨i, by omega, hredefines, fun k hk hik => ?_, hlt⟩
      rcases Nat.lt_succ_iff_lt_or_eq.mp hk with hk | rfl
      · exact hbetween k hk hik
      · exact hlast
    · exact ⟨n, Nat.lt_succ_self n, hredefines, fun k hk hnk => by omega, hlt⟩

/-- Behind the first entries it is enough to know for which levels an overlay is open. -/
theorem dropOverlays_eq_filterMap {entries : List Entry} (hrows : rows = before ++ entries)
    (hopen : ∀ level, overlay.any (· < level) = true ↔ OpenFor rows before.length level) :
    dropOverlays overlay entries = (entries.zipIdx before.length).filterMap fun row =>
      if Overlaid rows row.2 then none else some row.1 := by
  induction entries generalizing before overlay with
  | nil => rfl
  | cons e entries ih =>
    have hlevel : levelAt rows before.length = e.level := by rw [hrows, levelAt_length]
    have hself : rows[before.length]?.any Entry.redefines = e.redefines := by simp [hrows]
    have hlen : (before ++ [e]).length = before.length + 1 := by simp
    have hoverlaid : Overlaid rows before.length ↔
        e.redefines = true ∨ overlay.any (· < e.level) = true := by
      rw [overlaid_iff, hself, hlevel, hopen]
    have hsucc : ∀ level, OpenFor rows (before ++ [e]).length level ↔
        OpenFor rows before.length (min e.level level) ∨ e.redefines = true ∧ e.level < level :=
      fun level => by rw [hlen, openFor_succ_iff, hself, hlevel]
    have hrows' : rows = before ++ [e] ++ entries := by simp [hrows]
    rw [dropOverlays, List.zipIdx_cons, List.filterMap_cons, ← hlen]
    by_cases hbelow : overlay.any (· < e.level) = true
    · -- the overlay that is open stays so for the levels it was open for
      rw [if_pos hbelow, if_pos (hoverlaid.mpr (.inr hbelow))]
      refine ih hrows' fun level => ?_
      rw [hsucc, ← hopen]
      cases overlay with
      | none => cases hbelow
      | some first =>
        simp only [Option.any_some, decide_eq_true_eq] at hbelow ⊢
        omega
    · have hclosed : ∀ level, ¬OpenFor rows before.length (min e.level level) := fun level h =>
        hbelow ((hopen _).mpr (h.mono (Nat.min_le_left _ _)))
      rw [if_neg hbelow]
      by_cases he : e.redefines = true
      · rw [if_pos he, if_pos (hoverlaid.mpr (.inl he))]
        refine ih hrows' fun level => ?_
        rw [hsucc, or_iff_right (hclosed level), and_iff_right he]
        simp
      · rw [if_neg he, if_neg fun h => (hoverlaid.mp h).elim he hbelow]
        refine congrArg (e :: ·) (ih hrows' fun level => ?_)
        rw [hsucc, or_iff_right (hclosed level)]
        simp [he]

/-- **What is left out is what is overlaid.** -/
theorem dropOverlays_none_eq_stored (rows : List Entry) : dropOverlays none rows = stored rows :=
  dropOverlays_eq_filterMap (List.nil_append rows).symm fun level => by
    refine iff_of_false (by simp) ?_
    rintro ⟨i, hi, -⟩
    exact absurd hi (Nat.not_lt_zero i)

/-! ### Taking lines out -/

/-- **Whether a line ends what stands below an entry of the given level**: it has a
level number, and not one of those that take no storage, which is not greater. -/
def endsBelow (level : Nat) (line : List Char) : Bool :=
  match levelAndName? line with
  | some (other, _) => !isSkippedLevel other && normalizeLevel other ≤ level
  | none => false

theorem endsBelow_of_readLine? {line : List Char} {b : Entry} (h : readLine? line = some b) :
    endsBelow level line = decide (b.level ≤ level) := by
  obtain ⟨-, -, ⟨other, name, hname, h66, h88, hlevel, -⟩, -, -, -⟩ := readLine?_eq_some_iff.mp h
  rw [endsBelow, hname, hlevel]
  simp only [isSkippedLevel_of_ne h66 h88, Bool.not_false, Bool.true_and]
  rfl

/-- A line that ends what stands below an entry is an entry itself. -/
theorem exists_readLine?_of_endsBelow {line : List Char}
    (h : endsBelow level line = true) : ∃ b, readLine? line = some b ∧ b.level ≤ level := by
  unfold endsBelow at h
  split at h
  next other name hname =>
    obtain ⟨hkept, hlevel⟩ := Bool.and_eq_true_iff.mp h
    rw [readLine?_of_levelAndName? hname, if_neg (by simpa using hkept)]
    exact ⟨_, rfl, by simpa using hlevel⟩
  · cases h

/-- The lines behind an entry up to the first that ends what stands below it hold
only entries that do stand below it. -/
theorem lt_level_of_takeWhile {lines : List (List Char)} {b : Entry}
    (hb : b ∈ (lines.takeWhile fun line => !endsBelow level line).filterMap readLine?) :
    level < b.level := by
  obtain ⟨line, hline, hread⟩ := List.mem_filterMap.mp hb
  have hopen := List.all_eq_true.mp List.all_takeWhile line hline
  rw [endsBelow_of_readLine? hread] at hopen
  simpa using hopen

theorem level_le_of_head?_dropWhile {lines : List (List Char)} {b : Entry}
    (hb : b ∈ ((lines.dropWhile fun line => !endsBelow level line).filterMap readLine?).head?) :
    b.level ≤ level := by
  cases hlines : lines.dropWhile fun line => !endsBelow level line with
  | nil => simp [hlines] at hb
  | cons line rest =>
    have hends : endsBelow level line = true := by
      have := List.head?_dropWhile_not (fun line => !endsBelow level line) lines
      simpa [hlines] using this
    obtain ⟨b', hread, hlevel⟩ := exists_readLine?_of_endsBelow hends
    rw [hlines, List.filterMap_cons_some hread] at hb
    rwa [← Option.some.inj hb]

/-- **What can be taken out of the lines of a copybook**, in one piece. -/
inductive Skips : List (List Char) → List (List Char) → Prop where
  /-- A blank line, or a comment. -/
  | remark {before after : List (List Char)} {line : List Char}
      (h : (∀ c ∈ line, Text.isBlank c = true) ∨
        (line.dropWhile Text.isBlank).head? = some '*') :
      Skips (before ++ line :: after) (before ++ after)
  /-- A line without a level number and a name. -/
  | unnamed {before after : List (List Char)} {line : List Char}
      (h : levelAndName? line = none) : Skips (before ++ line :: after) (before ++ after)
  /-- A line of one of the levels that take no storage. -/
  | storageless {before after : List (List Char)} {line name : List Char} {level : Nat}
      (h : levelAndName? line = some (level, name)) (hlevel : level = 66 ∨ level = 88) :
      Skips (before ++ line :: after) (before ++ after)
  /-- A line of another level that lies over an item, with all lines behind it up to
  the first that ends what stands below its level. -/
  | overlay {before after : List (List Char)} {line name : List Char} {level : Nat}
      (h : levelAndName? line = some (level, name)) (h66 : level ≠ 66) (h88 : level ≠ 88)
      (hredefines : redefinesIn line = true) :
      Skips (before ++ line :: after)
        (before ++ after.dropWhile fun other => !endsBelow (normalizeLevel level) other)

variable {lines lines' : List (List Char)}

/-- A line that says nothing leaves the entries as they are. -/
theorem filterMap_readLine?_of_eq_none {before after : List (List Char)} {line : List Char}
    (h : readLine? line = none) :
    (before ++ line :: after).filterMap readLine? = (before ++ after).filterMap readLine? := by
  rw [List.filterMap_append, List.filterMap_append, List.filterMap_cons_none h]

/-- **Taking lines out in one piece leaves the entries that count as they are.** -/
theorem Skips.dropOverlays_eq (h : Skips lines lines') :
    dropOverlays none (lines.filterMap readLine?) =
      dropOverlays none (lines'.filterMap readLine?) := by
  cases h with
  | remark h =>
    rw [filterMap_readLine?_of_eq_none]
    rw [readLine?, if_pos (isRemark_eq_true_iff.mpr h)]
  | unnamed h =>
    rw [filterMap_readLine?_of_eq_none]
    rw [readLine?, h, ite_self]
  | storageless h hlevel =>
    rw [filterMap_readLine?_of_eq_none]
    rw [readLine?_of_levelAndName? h, if_pos (isSkippedLevel_eq_true_iff.mpr hlevel)]
  | @overlay before after line name level h h66 h88 hredefines =>
    have hline := readLine?_of_levelAndName? h
    rw [isSkippedLevel_of_ne h66 h88, if_neg Bool.false_ne_true] at hline
    -- behind the line are first the entries below it, then those from the first that is not
    have hafter : after.filterMap readLine? =
        (after.takeWhile fun other => !endsBelow (normalizeLevel level) other).filterMap readLine? ++
          (after.dropWhile fun other => !endsBelow (normalizeLevel level) other).filterMap
            readLine? := by
      rw [← List.filterMap_append, List.takeWhile_append_dropWhile]
    rw [List.filterMap_append, List.filterMap_append, List.filterMap_cons_some hline, hafter]
    exact dropOverlays_overlay hredefines (fun b => lt_level_of_takeWhile)
      fun b => level_le_of_head?_dropWhile

/-- Taking lines out makes no new ones. -/
theorem Skips.sublist (h : Skips lines lines') : lines'.Sublist lines := by
  cases h with
  | overlay => exact ((List.dropWhile_sublist _).cons _).append_left _
  | _ => exact (List.sublist_cons_self _ _).append_left _

/-- **What is skipped has no effect on a layout.** Blank lines, comments, lines of the
levels that take no storage, and lines that lie over an item with what stands below
them can be taken out of a copybook, in any order and as often as one likes: there is a
copybook of the lines that are left, and every such copybook has the same fields. -/
theorem read_eq_of_skips {text : String}
    (h : Relation.ReflTransGen Skips (Text.lines text.toList) lines) :
    (∃ text' : String, Text.lines text'.toList = lines) ∧
      ∀ text' : String, Text.lines text'.toList = lines → read text' = read text := by
  have hkept : dropOverlays none ((Text.lines text.toList).filterMap readLine?) =
      dropOverlays none (lines.filterMap readLine?) ∧
        lines.Sublist (Text.lines text.toList) := by
    induction h with
    | refl => exact ⟨rfl, List.Sublist.refl _⟩
    | tail _ hskips ih => exact ⟨ih.1.trans hskips.dropOverlays_eq, hskips.sublist.trans ih.2⟩
  constructor
  · refine ⟨String.ofList (Text.joinLines lines), ?_⟩
    rw [String.toList_ofList]
    exact Text.lines_joinLines fun line hline =>
      Text.not_isLineEnd_of_mem_lines _ line (hkept.2.subset hline)
  · intro text' htext'
    rw [read, read, entries, entries, htext', hkept.1]

/-- A copybook in which the price is also taken apart into its digits. -/
def priceText : String :=
  "01 ORDER.\n 05 PRICE PIC 9(5).\n* by digits\n 05 PARTS REDEFINES PRICE.\n" ++
    "  10 PART OCCURS 5.\n 88 NO VALUE 0.\n   15 DIGIT PIC 9.\n 05 DAYS PIC S9(3).\n"

/-- Its first lines. -/
def priceHead : List (List Char) :=
  ["01 ORDER.".toList, " 05 PRICE PIC 9(5).".toList]

/-- Its lines behind the one for the digits. -/
def priceTail : List (List Char) :=
  ["  10 PART OCCURS 5.".toList, " 88 NO VALUE 0.".toList, "   15 DIGIT PIC 9.".toList,
    " 05 DAYS PIC S9(3).".toList]

/-- Its lines without the comment and without the price by digits. -/
def priceLines : List (List Char) :=
  priceHead ++ [" 05 DAYS PIC S9(3).".toList]

theorem price_skips :
    Relation.ReflTransGen Skips (Text.lines priceText.toList) priceLines ∧
      (∃ text' : String, Text.lines text'.toList = priceLines) ∧
      ∀ text' : String, Text.lines text'.toList = priceLines → read text' = read priceText := by
  have hlines : Text.lines priceText.toList = priceHead ++ "* by digits".toList ::
      " 05 PARTS REDEFINES PRICE.".toList :: priceTail := by decide +kernel
  have hcomment : Skips (priceHead ++ "* by digits".toList ::
        " 05 PARTS REDEFINES PRICE.".toList :: priceTail)
      (priceHead ++ " 05 PARTS REDEFINES PRICE.".toList :: priceTail) :=
    .remark (.inr (by decide +kernel))
  have hparts : Skips (priceHead ++ " 05 PARTS REDEFINES PRICE.".toList :: priceTail)
      (priceHead ++ priceTail.dropWhile fun other => !endsBelow (normalizeLevel 5) other) :=
    .overlay (by decide +kernel : levelAndName? _ = some (5, "PARTS".toList)) (by decide)
      (by decide) (by decide +kernel)
  have hlines' : priceLines =
      priceHead ++ priceTail.dropWhile fun other => !endsBelow (normalizeLevel 5) other := by
    decide +kernel
  have hskips : Relation.ReflTransGen Skips (Text.lines priceText.toList) priceLines := by
    rw [hlines, hlines']
    exact (Relation.ReflTransGen.single hcomment).tail hparts
  exact ⟨hskips, read_eq_of_skips hskips⟩

/-- The fields that are left either way. -/
example : read priceText = [⟨"PRICE", "9(5)", none, 1⟩, ⟨"DAYS", "S9(3)", none, 1⟩] := by
  decide +kernel

end FixedWidth.Copybook
