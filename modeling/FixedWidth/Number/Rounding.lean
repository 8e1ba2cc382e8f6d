import FixedWidth.Text.Blank
import FixedWidth.Text.Case

/-!
# Rounding

The three ways in which a number loses digits, and the one operation they are
ways of doing: a quotient of natural numbers rounded to a natural number. Signs
do not enter here; a number is rounded by its magnitude.

`quotient_exact` says that nothing is rounded where nothing need be, and
`quotient_le` that the result is not beyond the upper one of the two neighbours.
Digits are dropped by a quotient with a power of ten, but where there are fewer
of them than are dropped: then the power, which can be far too great to be
written down, is not formed (`dropDigits_eq`).
-/

namespace FixedWidth

/-- How a magnitude loses digits. -/
inductive Rounding where
  /-- To the nearer neighbour, a half away from zero. -/
  | halfUp
  /-- To the nearer neighbour, a half to the even one. -/
  | halfEven
  /-- Toward zero. -/
  | down
deriving DecidableEq, Repr

namespace Rounding

/-- The written name of a rounding. -/
def name : Rounding → String
  | halfUp => "HALF_UP"
  | halfEven => "HALF_EVEN"
  | down => "DOWN"

/-- The rounding that a name stands for, in any case, with hyphens or
underscores, and with white space around it. -/
def ofName? (text : String) : Option Rounding :=
  let key := (Text.upper (Text.trim text.toList)).map fun c => if c = '-' then '_' else c
  [halfUp, halfEven, down].find? fun mode => mode.name.toList = key

/-- **The quotient `n / d` rounded to a natural number.** -/
def quotient (mode : Rounding) (n d : Nat) : Nat :=
  let below := n / d
  let twice := 2 * (n % d)
  match mode with
  | down => below
  | halfUp => if d ≤ twice then below + 1 else below
  | halfEven =>
    if d < twice then below + 1
    else if twice = d then below + below % 2
    else below

theorem quotient_le (mode : Rounding) (n d : Nat) : mode.quotient n d ≤ n / d + 1 := by
  cases mode <;> simp only [quotient]
  · split <;> omega
  · split
    · omega
    · split <;> omega
  · omega

theorem quotient_exact (mode : Rounding) (q : Nat) {d : Nat} (h : 0 < d) :
    mode.quotient (q * d) d = q := by
  have h₁ : q * d / d = q := Nat.mul_div_cancel _ h
  have h₂ : q * d % d = 0 := Nat.mul_mod_left _ _
  cases mode <;> simp [quotient, h₁, h₂]
  · omega
  · omega

/-- **A magnitude without its last `places` digits.** -/
def dropDigits (mode : Rounding) (n places : Nat) : Nat :=
  if (Nat.toDigits 10 n).length < places then 0 else mode.quotient n (Nat.pow 10 places)

/-- Less than a half is rounded to zero. -/
theorem quotient_eq_zero (mode : Rounding) {n d : Nat} (h : 2 * n < d) : mode.quotient n d = 0 := by
  have hbelow : n / d = 0 := Nat.div_eq_of_lt (by omega)
  have hrest : n % d = n := Nat.mod_eq_of_lt (by omega)
  cases mode with
  | halfUp => rw [quotient, hbelow, hrest, if_neg (Nat.not_le.mpr h)]
  | halfEven =>
    have hless : ¬d < 2 * n := by omega
    rw [quotient, hbelow, hrest, if_neg hless, if_neg (Nat.ne_of_lt h)]
  | down => exact hbelow

/-- What has fewer digits than are dropped is less than a tenth of the power. -/
theorem dropDigits_eq (mode : Rounding) (n places : Nat) :
    mode.dropDigits n places = mode.quotient n (Nat.pow 10 places) := by
  rw [dropDigits]
  split
  next hfew =>
    obtain ⟨k, rfl⟩ : ∃ k, places = k + 1 := ⟨places - 1, by omega⟩
    have hpos : 0 < (Nat.toDigits 10 n).length := Nat.length_toDigits_pos
    have hlt : n < 10 ^ k :=
      (Nat.length_toDigits_le_iff (by decide) (by omega)).mp (Nat.lt_succ_iff.mp hfew)
    have hpow : Nat.pow 10 (k + 1) = 10 ^ k * 10 := rfl
    exact (mode.quotient_eq_zero (by omega)).symm
  next => rfl

end Rounding

end FixedWidth
