import FixedWidth.Number.Rounding
import Mathlib.Algebra.Order.Field.Basic
import Mathlib.Algebra.Order.Field.Rat
import Mathlib.Algebra.Ring.Parity
import Mathlib.Tactic.Linarith
import Mathlib.Tactic.Positivity

/-!
# What a magnitude is rounded to

Rounding is done on natural numbers, by a quotient and what is left over. What it comes
to is said here of the rational number that is rounded, and without computing it:
`FixedWidth.Rounding.Rounds` says of an integer that a magnitude is rounded to it, by how
far apart they are and by what becomes of a half.

Each magnitude is rounded to one integer only, since a greater magnitude is never rounded
to a smaller integer (`FixedWidth.Rounding.Rounds.mono`); for a quotient of natural
numbers it is the one that is computed (`FixedWidth.Rounding.rounds_div`). Rounding
in two steps is not rounding in one, since the first can make the half that the second
decides on. Toward zero there is nothing to decide, and two steps do come to one
(`FixedWidth.Rounding.Rounds.down_div_iff`).
-/

namespace FixedWidth.Rounding

/-- **A magnitude is rounded to an integer**: to the nearest one, where a half goes to the
integer above it, or to the even one; or to the last integer that is not above it. -/
def Rounds : Rounding → ℚ → ℕ → Prop
  | halfUp, x, n => |x - n| ≤ 1 / 2 ∧ (|x - n| = 1 / 2 → x < n)
  | halfEven, x, n => |x - n| ≤ 1 / 2 ∧ (|x - n| = 1 / 2 → Even n)
  | down, x, n => n ≤ x ∧ x < n + 1

variable {mode : Rounding} {x y part : ℚ} {m n q : ℕ}

/-! ### The two neighbours of a magnitude -/

theorem abs_sub_lower (h : 0 ≤ part) : |(q : ℚ) + part - q| = part := by
  rw [add_sub_cancel_left, abs_of_nonneg h]

theorem abs_sub_upper (h : part < 1) : |(q : ℚ) + part - (q + 1 : ℕ)| = 1 - part := by
  rw [Nat.cast_add, Nat.cast_one, add_sub_add_left_eq_sub, abs_sub_comm,
    abs_of_pos (sub_pos.mpr h)]

/-- Nearer than a half there is nothing to decide. -/
theorem rounds_of_abs_lt_half (hmode : mode ≠ down) (h : |x - n| < 1 / 2) : mode.Rounds x n := by
  cases mode with
  | halfUp => exact ⟨h.le, fun hhalf => absurd hhalf h.ne⟩
  | halfEven => exact ⟨h.le, fun hhalf => absurd hhalf h.ne⟩
  | down => exact absurd rfl hmode

theorem rounds_halfUp_half (q : ℕ) : halfUp.Rounds (q + 1 / 2) (q + 1) := by
  have hupper := @abs_sub_upper (1 / 2) q one_half_lt_one
  refine ⟨by rw [hupper]; norm_num, fun _ => ?_⟩
  rw [Nat.cast_add, Nat.cast_one]
  exact add_lt_add_right one_half_lt_one _

theorem rounds_halfEven_half (q : ℕ) : halfEven.Rounds (q + 1 / 2) (q + q % 2) := by
  rcases Nat.mod_two_eq_zero_or_one q with heven | hodd
  · rw [heven, Nat.add_zero]
    exact ⟨(abs_sub_lower one_half_pos.le).le, fun _ => Nat.even_iff.mpr heven⟩
  · have hupper := @abs_sub_upper (1 / 2) q one_half_lt_one
    rw [hodd]
    exact ⟨by rw [hupper]; norm_num, fun _ => Nat.even_iff.mpr (by omega)⟩

/-! ### One integer for each magnitude -/

/-- Nearest integers are in the order of their magnitudes, unless the magnitudes are one
and the same half. -/
theorem eq_half_of_nearest (hx : |x - m| ≤ 1 / 2) (hy : |y - n| ≤ 1 / 2) (hxy : x ≤ y)
    (h : n < m) : m = n + 1 ∧ x = n + 1 / 2 ∧ y = n + 1 / 2 := by
  have hm := (abs_le.mp hx).1
  have hn := (abs_le.mp hy).2
  have hstep : (n : ℚ) + 1 ≤ m := by exact_mod_cast h
  have hsucc : (m : ℚ) = n + 1 := by linarith
  exact ⟨by exact_mod_cast hsucc, by linarith, by linarith⟩

/-- **A greater magnitude is not rounded to a smaller integer.** -/
theorem Rounds.mono (hx : mode.Rounds x m) (hy : mode.Rounds y n) (hxy : x ≤ y) : m ≤ n := by
  by_contra hlt
  rw [not_le] at hlt
  cases mode with
  | halfUp =>
    obtain ⟨-, -, rfl⟩ := eq_half_of_nearest hx.1 hy.1 hxy hlt
    -- the half would have been rounded to the integer below it
    linarith [hy.2 (abs_sub_lower one_half_pos.le)]
  | halfEven =>
    obtain ⟨rfl, rfl, rfl⟩ := eq_half_of_nearest hx.1 hy.1 hxy hlt
    -- the half would have two even neighbours
    have hupper := @abs_sub_upper (1 / 2) n one_half_lt_one
    have hodd := hx.2 (by rw [hupper]; norm_num)
    exact Nat.even_add_one.mp hodd (hy.2 (abs_sub_lower one_half_pos.le))
  | down =>
    have hstep : (n : ℚ) + 1 ≤ m := by exact_mod_cast hlt
    linarith [hx.1, hy.2]

theorem Rounds.unique (hm : mode.Rounds x m) (hn : mode.Rounds x n) : m = n :=
  Nat.le_antisymm (hm.mono hn le_rfl) (hn.mono hm le_rfl)

/-! ### The integer that is computed -/

/-- An integer is not changed. -/
theorem rounds_natCast (mode : Rounding) (n : ℕ) : mode.Rounds n n := by
  by_cases hmode : mode = down
  · subst hmode
    exact ⟨le_rfl, lt_add_one _⟩
  · refine rounds_of_abs_lt_half hmode ?_
    rw [sub_self, abs_zero]
    exact one_half_pos

/-- A quotient is an integer and a part of a unit, which is compared with a half by the
double of what is left over. -/
theorem exists_part (n : ℕ) {d : ℕ} (hd : 0 < d) :
    ∃ part : ℚ, (n : ℚ) / d = (n / d : ℕ) + part ∧ 0 ≤ part ∧ part < 1 ∧
      (part < 1 / 2 ↔ 2 * (n % d) < d) ∧ (1 / 2 < part ↔ d < 2 * (n % d)) := by
  have hpos : (0 : ℚ) < d := by exact_mod_cast hd
  have hn : (n : ℚ) = d * (n / d : ℕ) + (n % d : ℕ) := by
    exact_mod_cast (Nat.div_add_mod n d).symm
  have hlt : ((n % d : ℕ) : ℚ) < d := by exact_mod_cast Nat.mod_lt n hd
  refine ⟨(n % d : ℕ) / d, ?_, by positivity, (div_lt_one hpos).mpr hlt, ?_, ?_⟩
  · rw [div_eq_iff hpos.ne', add_mul, div_mul_cancel₀ _ hpos.ne', mul_comm, ← hn]
  · rw [div_lt_div_iff₀ hpos two_pos, one_mul, mul_comm]
    exact_mod_cast Iff.rfl
  · rw [div_lt_div_iff₀ two_pos hpos, one_mul, mul_comm]
    exact_mod_cast Iff.rfl

theorem quotient_of_lt_half {d : ℕ} (h : 2 * (n % d) < d) : mode.quotient n d = n / d := by
  cases mode with
  | halfUp => exact if_neg (by omega)
  | halfEven => exact (if_neg (by omega)).trans (if_neg (by omega))
  | down => rfl

theorem quotient_of_half_lt {d : ℕ} (hmode : mode ≠ down) (h : d < 2 * (n % d)) :
    mode.quotient n d = n / d + 1 := by
  cases mode with
  | halfUp => exact if_pos h.le
  | halfEven => exact if_pos h
  | down => exact absurd rfl hmode

/-- **A quotient is rounded to the integer that is computed.** -/
theorem rounds_div (mode : Rounding) (n : ℕ) {d : ℕ} (hd : 0 < d) :
    mode.Rounds (n / d) (mode.quotient n d) := by
  obtain ⟨part, hsplit, hzero, hone, hlow_iff, hhigh_iff⟩ := exists_part n hd
  rw [hsplit]
  by_cases hmode : mode = down
  · subst hmode
    exact ⟨le_add_of_nonneg_right hzero, add_lt_add_right hone _⟩
  rcases lt_trichotomy (2 * (n % d)) d with hlow | htie | hhigh
  · rw [quotient_of_lt_half hlow]
    refine rounds_of_abs_lt_half hmode ?_
    rw [abs_sub_lower hzero]
    exact hlow_iff.mpr hlow
  · have hhalf : part = 1 / 2 := by
      have hle := mt hlow_iff.mp htie.not_lt
      have hge := mt hhigh_iff.mp htie.not_gt
      exact le_antisymm (not_lt.mp hge) (not_lt.mp hle)
    rw [hhalf]
    cases mode with
    | halfUp =>
      have hquotient : halfUp.quotient n d = n / d + 1 := if_pos htie.ge
      rw [hquotient]
      exact rounds_halfUp_half (n / d)
    | halfEven =>
      have hquotient : halfEven.quotient n d = n / d + n / d % 2 :=
        (if_neg (by omega)).trans (if_pos htie)
      rw [hquotient]
      exact rounds_halfEven_half (n / d)
    | down => exact absurd rfl hmode
  · rw [quotient_of_half_lt hmode hhigh]
    refine rounds_of_abs_lt_half hmode ?_
    have hhalf := hhigh_iff.mpr hhigh
    rw [abs_sub_upper hone]
    linarith

/-! ### In two steps -/

/-- **Toward zero, two steps come to one.** -/
theorem Rounds.down_div_iff (h : down.Rounds x m) {k : ℕ} (hk : 0 < k) :
    down.Rounds (x / k) n ↔ down.Rounds (m / k) n := by
  have hpos : (0 : ℚ) < k := by exact_mod_cast hk
  -- an integer is not above the magnitude exactly when it is not above its last integer
  have hle (j : ℕ) : (j : ℚ) ≤ x ↔ (j : ℚ) ≤ m := by
    refine ⟨fun hj => ?_, fun hj => hj.trans h.1⟩
    have hlt : (j : ℚ) < m + 1 := hj.trans_lt h.2
    exact_mod_cast Nat.lt_succ_iff.mp (by exact_mod_cast hlt)
  have hfirst := hle (n * k)
  have hnext := hle ((n + 1) * k)
  push_cast at hfirst hnext
  simp only [Rounds, le_div_iff₀ hpos, div_lt_iff₀ hpos, ← not_le, hfirst, hnext]

end FixedWidth.Rounding
