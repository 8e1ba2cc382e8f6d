/-!
# Lines

Cutting a text into lines. A line ends at a line feed, a carriage return, the
two together, a vertical tab, a form feed, one of three information separators,
or a line or paragraph end of Unicode. The end belongs to no line, and a text
that ends with one has no empty line after it.

A file that is read as text first loses its carriage returns: `unifyLineFeeds`
turns each of them, together with a line feed after it, into one line feed.

No line has a line end in it, and any such lines are those of some text
(`lines_joinLines`).
-/

namespace FixedWidth.Text

/-- The characters that end a line. -/
def isLineEnd (c : Char) : Bool :=
  let n := c.toNat
  (10 ≤ n && n ≤ 13) || (0x1C ≤ n && n ≤ 0x1E) || n == 0x85 || n == 0x2028 || n == 0x2029

/-- Puts a character in front of the first line. -/
def consLine (c : Char) : List (List Char) → List (List Char)
  | [] => [[c]]
  | line :: rest => (c :: line) :: rest

/-- The lines of a text. -/
def lines : List Char → List (List Char)
  | [] => []
  | '\r' :: '\n' :: cs => [] :: lines cs
  | c :: cs => if isLineEnd c then [] :: lines cs else consLine c (lines cs)

/-- Every line end of a file of whatever system as one line feed. -/
def unifyLineFeeds : List Char → List Char
  | [] => []
  | '\r' :: '\n' :: cs => '\n' :: unifyLineFeeds cs
  | '\r' :: cs => '\n' :: unifyLineFeeds cs
  | c :: cs => c :: unifyLineFeeds cs

/-- Lines in a row, each ended by a line feed. -/
def joinLines (rows : List (List Char)) : List Char :=
  rows.flatMap fun line => line ++ ['\n']

theorem lines_cons_of_not_isLineEnd {c : Char} {cs : List Char} (h : isLineEnd c = false) :
    lines (c :: cs) = consLine c (lines cs) := by
  rw [lines, if_neg (by rw [h]; decide)]
  rintro cs' rfl
  exact absurd h (by decide)

theorem not_isLineEnd_of_mem_lines (cs : List Char) :
    ∀ line ∈ lines cs, ∀ c ∈ line, isLineEnd c = false := by
  fun_induction lines cs with
  | case1 => simp
  | case2 cs ih => simpa using ih
  | case3 c cs _ hc ih => simpa using ih
  | case4 c cs _ hc ih =>
    have hc' : isLineEnd c = false := by simpa using hc
    cases hrows : lines cs with
    | nil => simpa [consLine] using hc'
    | cons line rest =>
      rw [hrows] at ih
      simp only [consLine, List.forall_mem_cons] at ih ⊢
      exact ⟨⟨hc', ih.1⟩, ih.2⟩

theorem lines_append_lineFeed {line cs : List Char} (h : ∀ c ∈ line, isLineEnd c = false) :
    lines (line ++ '\n' :: cs) = line :: lines cs := by
  induction line with
  | nil =>
    rw [List.nil_append, lines, if_pos (by decide)]
    exact fun _ hreturn => absurd hreturn (by decide)
  | cons c line ih =>
    obtain ⟨hc, hline⟩ := List.forall_mem_cons.mp h
    rw [List.cons_append, lines_cons_of_not_isLineEnd hc, ih hline]
    rfl

/-- A text without a line end is one line. -/
theorem lines_eq_singleton {line : List Char} (h : ∀ c ∈ line, isLineEnd c = false)
    (hne : line ≠ []) : lines line = [line] := by
  induction line with
  | nil => exact absurd rfl hne
  | cons c line ih =>
    obtain ⟨hc, hline⟩ := List.forall_mem_cons.mp h
    rw [lines_cons_of_not_isLineEnd hc]
    cases line with
    | nil => rfl
    | cons c' line => rw [ih hline (List.cons_ne_nil c' line), consLine]

/-- **Lines without a line end in them are the lines of a text.** -/
theorem lines_joinLines {rows : List (List Char)}
    (h : ∀ line ∈ rows, ∀ c ∈ line, isLineEnd c = false) : lines (joinLines rows) = rows := by
  induction rows with
  | nil => rfl
  | cons line rows ih =>
    obtain ⟨hline, hrows⟩ := List.forall_mem_cons.mp h
    rw [joinLines, List.flatMap_cons, List.append_assoc, List.singleton_append,
      lines_append_lineFeed hline]
    exact congrArg (line :: ·) (ih hrows)

end FixedWidth.Text
