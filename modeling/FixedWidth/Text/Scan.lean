import FixedWidth.Text.Blank
import FixedWidth.Text.Case

/-!
# Looking for clauses in a line

The few steps from which the clauses of a copybook line are recognised: a
keyword without regard to case, one or more blanks, and the first place of a
line at which a given clause begins. Each step returns what is left of the line,
so that steps chain.
-/

namespace FixedWidth.Text

/-- What follows a keyword, given in capitals, without regard to case. -/
def dropKeyword? : (keyword : List Char) → List Char → Option (List Char)
  | [], cs => some cs
  | _ :: _, [] => none
  | k :: keyword, c :: cs => if foldLetter c = k then dropKeyword? keyword cs else none

/-- What follows one or more blanks. -/
def dropBlanks? : List Char → Option (List Char)
  | [] => none
  | c :: cs => if isBlank c then some (cs.dropWhile isBlank) else none

/-- What follows a keyword and the blanks after it, or the text itself where
the two are not there. -/
def dropOptional (keyword : List Char) (cs : List Char) : List Char :=
  match (dropKeyword? keyword cs).bind dropBlanks? with
  | some rest => rest
  | none => cs

/-- The answer of `recognise` at the first place where it has one. It is given
the character before the place, if there is one, and the text from there on. -/
def firstPlace? {α : Type} (recognise : Option Char → List Char → Option α) :
    Option Char → List Char → Option α
  | before, [] => recognise before []
  | before, c :: cs =>
    match recognise before (c :: cs) with
    | some a => some a
    | none => firstPlace? recognise (some c) cs

theorem dropKeyword?_self_append (keyword rest : List Char)
    (h : ∀ c ∈ keyword, foldLetter c = c) :
    dropKeyword? keyword (keyword ++ rest) = some rest := by
  induction keyword with
  | nil => rfl
  | cons k keyword ih =>
    simp only [List.mem_cons, forall_eq_or_imp] at h
    simp [dropKeyword?, h.1, ih h.2]

end FixedWidth.Text
