import FixedWidth.Picture.Repeat
import FixedWidth.Proofs.Fault

/-!
# Pictures as they are written

A picture is written as a row of symbols, some of which have a repeat count behind them.
`FixedWidth.Picture.Repetition` is one of them with its count, and
`FixedWidth.Picture.written` the picture that a row of them is. Carrying out the counts
gives each symbol as often as it is counted (`FixedWidth.Picture.expand_written`), whatever
the script of the counts: the closing parenthesis ends a count, and no symbol is a
parenthesis, so that a count begins only where one was written.
-/

namespace FixedWidth.Picture

/-- **A symbol of a picture as it is written**: alone, or with a repeat count behind it. -/
structure Repetition where
  symbol : Char
  /-- The digits of the count, of whatever script. -/
  count : Option (List Char)
  symbol_ne_open : symbol ≠ '('
  symbol_ne_close : symbol ≠ ')'
  symbol_ne_lineFeed : count.isSome = true → symbol ≠ '\n'
  count_ne_nil : ∀ ds ∈ count, ds ≠ []
  isAnyDigit_count : ∀ ds ∈ count, ∀ c ∈ ds, Text.isAnyDigit c = true

namespace Repetition

/-- A symbol without a count. -/
def alone (symbol : Char) (h : symbol ≠ '(' ∧ symbol ≠ ')' := by decide) : Repetition where
  symbol := symbol
  count := none
  symbol_ne_open := h.1
  symbol_ne_close := h.2
  symbol_ne_lineFeed := Bool.noConfusion
  count_ne_nil := fun _ hds => nomatch hds
  isAnyDigit_count := fun _ hds => nomatch hds

/-- A symbol with a count in the usual digits. -/
def counted (symbol : Char) (ds : List Char)
    (h : symbol ≠ '(' ∧ symbol ≠ ')' ∧ symbol ≠ '\n' := by decide)
    (hds : ds ≠ [] ∧ ds.all Char.isDigit = true := by decide) : Repetition where
  symbol := symbol
  count := some ds
  symbol_ne_open := h.1
  symbol_ne_close := h.2.1
  symbol_ne_lineFeed := fun _ => h.2.2
  count_ne_nil := fun _ hcount => Option.some.inj hcount ▸ hds.1
  isAnyDigit_count := fun _ hcount c hc =>
    Text.isAnyDigit_of_isDigit (List.all_eq_true.mp hds.2 c (Option.some.inj hcount ▸ hc))

/-- How often the symbol stands. -/
def times (r : Repetition) : Nat :=
  r.count.elim 1 Text.digitsValue

/-- The count in its parentheses. -/
def countText (r : Repetition) : List Char :=
  match r.count with
  | none => []
  | some ds => '(' :: (ds ++ [')'])

/-- The symbol and its count. -/
def text (r : Repetition) : List Char :=
  r.symbol :: r.countText

/-- What the symbol stands for once its count is carried out. -/
def symbols (r : Repetition) : List Char :=
  List.replicate r.times r.symbol

end Repetition

/-- **The picture of a row of symbols.** -/
def written (rs : List Repetition) : String :=
  String.ofList (rs.flatMap Repetition.text)

/-- The symbols of a row, each as often as it is counted. -/
def symbolsOf (rs : List Repetition) : List Char :=
  rs.flatMap Repetition.symbols

variable {rs : List Repetition} {r : Repetition} {cs ds rest : List Char} {c : Char}

theorem mem_symbols_iff : c ∈ r.symbols ↔ c = r.symbol ∧ 0 < r.times := by
  rw [Repetition.symbols, List.mem_replicate, Nat.pos_iff_ne_zero, and_comm]

theorem mem_symbolsOf_iff : c ∈ symbolsOf rs ↔ ∃ r ∈ rs, c = r.symbol ∧ 0 < r.times := by
  simp only [symbolsOf, List.mem_flatMap, mem_symbols_iff]

/-! ### Carrying out the counts -/

/-- No count begins without its parenthesis. -/
theorem countAt?_eq_none (h : cs.head? ≠ some '(') : countAt? cs = none := by
  unfold countAt?
  split
  · exact absurd rfl h
  · rfl

/-- A count is read up to the parenthesis that closes it. -/
theorem countAt?_counted (hne : ds ≠ []) (hdigits : ∀ c ∈ ds, Text.isAnyDigit c = true) :
    countAt? ('(' :: (ds ++ ')' :: rest)) = some (Text.digitsValue ds, ds.length + 2) := by
  have hclose : ¬Text.isAnyDigit ')' = true := by decide
  have htake : (ds ++ ')' :: rest).takeWhile Text.isAnyDigit = ds := by
    rw [List.takeWhile_append_of_pos hdigits, List.takeWhile_cons_of_neg hclose, List.append_nil]
  simp [countAt?, htake, hne]

/-- Text that belongs to a count that has been carried out is left out. -/
theorem expandFrom_length_append (cs rest : List Char) :
    expandFrom cs.length (cs ++ rest) = expandFrom 0 rest := by
  rw [expandFrom_eq_drop, List.drop_left]

/-- A character without a count behind it stays as it is. -/
theorem expandFrom_alone (h : countAt? rest = none) :
    expandFrom 0 (c :: rest) = c :: expandFrom 0 rest := by
  have hnone : (if c = '\n' then none else countAt? rest) = none := by rw [h, ite_self]
  rw [expandFrom]
  simp only [hnone]

/-- **A character with a count behind it** stands as often as it is counted. -/
theorem expandFrom_counted (hc : c ≠ '\n') (hne : ds ≠ [])
    (hdigits : ∀ c ∈ ds, Text.isAnyDigit c = true) :
    expandFrom 0 (c :: '(' :: (ds ++ ')' :: rest)) =
      List.replicate (Text.digitsValue ds) c ++ expandFrom 0 rest := by
  have hdrop : expandFrom (ds.length + 2) ('(' :: (ds ++ ')' :: rest)) = expandFrom 0 rest := by
    have hcount : '(' :: (ds ++ ')' :: rest) = ('(' :: (ds ++ [')'])) ++ rest := by simp
    have hlength : ds.length + 2 = ('(' :: (ds ++ [')'])).length := by simp
    rw [hcount, hlength, expandFrom_length_append]
  rw [expandFrom, if_neg hc]
  simp only [countAt?_counted hne hdigits, hdrop]

/-- **One symbol with its count**, where nothing behind it could be taken for a count. -/
theorem expandFrom_text (h : countAt? rest = none) :
    expandFrom 0 (r.text ++ rest) = r.symbols ++ expandFrom 0 rest := by
  rw [Repetition.text, Repetition.countText, Repetition.symbols, Repetition.times]
  cases hcount : r.count with
  | none => exact expandFrom_alone h
  | some ds =>
    rw [List.cons_append, List.cons_append, List.append_assoc]
    exact expandFrom_counted (r.symbol_ne_lineFeed (hcount ▸ rfl)) (r.count_ne_nil ds hcount)
      (r.isAnyDigit_count ds hcount)

theorem head?_flatMap_text_ne : (rs.flatMap Repetition.text).head? ≠ some '(' := by
  cases rs with
  | nil => exact fun h => nomatch h
  | cons r rs => exact fun h => r.symbol_ne_open (Option.some.inj h)

theorem expandFrom_flatMap_text : expandFrom 0 (rs.flatMap Repetition.text) = symbolsOf rs := by
  induction rs with
  | nil => rfl
  | cons r rs ih =>
    rw [List.flatMap_cons, expandFrom_text (countAt?_eq_none head?_flatMap_text_ne), ih, symbolsOf,
      symbolsOf, List.flatMap_cons]

theorem hasParenthesis_symbolsOf : hasParenthesis (symbolsOf rs) = false := by
  rw [hasParenthesis, List.any_eq_false]
  intro c hc
  obtain ⟨r, -, rfl, -⟩ := mem_symbolsOf_iff.mp hc
  simp [r.symbol_ne_open, r.symbol_ne_close]

/-- **Carrying out the counts of a picture gives each symbol as often as it is counted.** -/
theorem expand_written (rs : List Repetition) : expand (written rs) = .ok (symbolsOf rs) := by
  rw [expand, written, String.toList_ofList]
  simp only [expandFrom_flatMap_text, hasParenthesis_symbolsOf, Bool.false_eq_true, if_false]

end FixedWidth.Picture
