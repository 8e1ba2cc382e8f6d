import FixedWidth.Fault
import FixedWidth.Text.Digit

/-!
# Repeat counts

A picture writes a repeated symbol once, with the count in parentheses after it.
Expanding replaces each by as many symbols, from left to right; a count of zero
leaves nothing. A parenthesis that is part of no count stays where it is, and a
picture in which one is left is refused.

Any character but a line feed can be repeated, a parenthesis too.
-/

namespace FixedWidth.Picture

/-- The count in parentheses at the beginning of a text, and how many characters
it takes. -/
def countAt? : List Char → Option (Nat × Nat)
  | '(' :: cs =>
    let ds := cs.takeWhile Text.isAnyDigit
    match cs.drop ds.length with
    | ')' :: _ => if ds.isEmpty then none else some (Text.digitsValue ds, ds.length + 2)
    | _ => none
  | _ => none

/-- The text with its counts carried out; the first `taken` characters belong to
a count that has been carried out already. -/
def expandFrom : (taken : Nat) → List Char → List Char
  | _, [] => []
  | taken + 1, _ :: cs => expandFrom taken cs
  | 0, c :: cs =>
    match if c = '\n' then none else countAt? cs with
    | some (count, length) => List.replicate count c ++ expandFrom length cs
    | none => c :: expandFrom 0 cs

/-- Whether the text has a parenthesis. -/
def hasParenthesis (cs : List Char) : Bool :=
  cs.any fun c => c == '(' || c == ')'

/-- **A picture with its repeat counts carried out.** -/
def expand (picture : String) : Except Fault (List Char) :=
  let cs := expandFrom 0 picture.toList
  if hasParenthesis cs then .error (.unbalancedRepeat picture) else .ok cs

@[simp] theorem expandFrom_nil (taken : Nat) : expandFrom taken [] = [] := by
  cases taken <;> rfl

@[simp] theorem expandFrom_add_one (taken : Nat) (c : Char) (cs : List Char) :
    expandFrom (taken + 1) (c :: cs) = expandFrom taken cs := rfl

theorem expandFrom_eq_drop (taken : Nat) (cs : List Char) :
    expandFrom taken cs = expandFrom 0 (cs.drop taken) := by
  induction taken generalizing cs with
  | zero => rfl
  | succ taken ih =>
    cases cs with
    | nil => simp
    | cons c cs => simpa using ih cs

end FixedWidth.Picture
