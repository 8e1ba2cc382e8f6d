/-!
# White space

The characters that count as white space in text taken from a user or a file,
and cutting them off at the ends. A field of a record is another matter: there
only the ASCII space pads, and `dropWhileEnd` with that one character is used.

`trim_eq_nil_iff` is the statement the blank tests rest on: a text is blank
exactly when nothing is left of it once its ends are cut.
-/

namespace FixedWidth.Text

/-- White space: the ASCII controls from tab to carriage return, the four
information separators, the space, and the spaces and line ends of Unicode. -/
def isBlank (c : Char) : Bool :=
  let n := c.toNat
  (9 ≤ n && n ≤ 13) || (28 ≤ n && n ≤ 32) || n == 0x85 || n == 0xA0 || n == 0x1680 ||
    (0x2000 ≤ n && n ≤ 0x200A) || n == 0x2028 || n == 0x2029 || n == 0x202F || n == 0x205F ||
    n == 0x3000

/-- The text without the characters satisfying `p` at its end. -/
def dropWhileEnd (p : Char → Bool) (cs : List Char) : List Char :=
  (cs.reverse.dropWhile p).reverse

/-- The text without the characters satisfying `p` at either end. -/
def trimWhile (p : Char → Bool) (cs : List Char) : List Char :=
  dropWhileEnd p (cs.dropWhile p)

/-- The text without white space at either end. -/
def trim (cs : List Char) : List Char :=
  trimWhile isBlank cs

theorem dropWhile_eq_nil_iff_all {p : Char → Bool} {cs : List Char} :
    cs.dropWhile p = [] ↔ cs.all p = true := by
  induction cs with
  | nil => simp
  | cons c cs ih => by_cases hc : p c = true <;> simp_all

theorem all_of_all_dropWhile {p : Char → Bool} {cs : List Char}
    (h : (cs.dropWhile p).all p = true) : cs.all p = true := by
  rw [← List.takeWhile_append_dropWhile (p := p) (l := cs), List.all_append, List.all_takeWhile, h]
  rfl

/-- **A text is blank exactly when trimming leaves nothing of it.** -/
theorem trim_eq_nil_iff {cs : List Char} : trim cs = [] ↔ cs.all isBlank = true := by
  simp only [trim, trimWhile, dropWhileEnd, List.reverse_eq_nil_iff, dropWhile_eq_nil_iff_all,
    List.all_reverse]
  refine ⟨all_of_all_dropWhile, fun h => ?_⟩
  rw [dropWhile_eq_nil_iff_all.2 h]
  rfl

theorem head?_dropWhileEnd {p : Char → Bool} {c : Char} (h : p c = false) (cs : List Char) :
    (dropWhileEnd p (c :: cs)).head? = some c := by
  rw [dropWhileEnd, List.reverse_cons, List.dropWhile_append]
  split
  · simp [h]
  · simp

/-- Where the predicate holds of no character, nothing is cut. -/
theorem dropWhileEnd_eq_self {p : Char → Bool} {cs : List Char} (h : ∀ c ∈ cs, p c = false) :
    dropWhileEnd p cs = cs := by
  rw [dropWhileEnd]
  cases hcs : cs.reverse with
  | nil => rw [List.dropWhile_nil, ← hcs, List.reverse_reverse]
  | cons c rest =>
    have hc : p c = false := h c (List.mem_reverse.mp (hcs ▸ List.mem_cons_self))
    rw [List.dropWhile_cons_of_neg (by rw [hc]; decide), ← hcs, List.reverse_reverse]

/-- A text without white space is its own trimming. -/
theorem trim_eq_self {cs : List Char} (h : ∀ c ∈ cs, isBlank c = false) : trim cs = cs := by
  have hfront : cs.dropWhile isBlank = cs := by
    cases cs with
    | nil => rfl
    | cons c cs => exact List.dropWhile_cons_of_neg (by rw [h c List.mem_cons_self]; decide)
  rw [trim, trimWhile, hfront, dropWhileEnd_eq_self h]

/-- What a text begins with does not change when its end is cut. -/
theorem head?_trim (cs : List Char) : (trim cs).head? = (cs.dropWhile isBlank).head? := by
  rw [trim, trimWhile]
  cases hcs : cs.dropWhile isBlank with
  | nil => rfl
  | cons c rest =>
    have hc : isBlank c = false := by
      have := List.head?_dropWhile_not isBlank cs
      simpa [hcs] using this
    exact head?_dropWhileEnd hc rest

end FixedWidth.Text
