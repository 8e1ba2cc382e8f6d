import FixedWidth.Calculation
import FixedWidth.Proofs.Number.Value
import FixedWidth.Proofs.Storage.Packed
import FixedWidth.Proofs.Storage.Zoned

/-!
# What a calculation comes to

The steps of a calculation fall into three kinds. Arithmetic never fails and is
exact. A passage through a stored form can fail, and where it does not it gives back
what went in, so that either way nothing is changed. A change of scale and a passage
through a displayed form round, and are all that does.

So over steps of the first two kinds a calculation comes to the value of its
expression, at the scale that the expression has
(`FixedWidth.Step.toRat_runSteps`, `FixedWidth.Step.scale_runSteps`): what one step
does to value and scale is said by `FixedWidth.Step.valueAfter` and
`FixedWidth.Step.scaleAfter`, and a run follows them step by step.
`FixedWidth.runSteps_exact` puts this beside what holds after steps of any kind.
-/

namespace FixedWidth

namespace Step

/-- Whether a step is without rounding: arithmetic, or a passage through a stored
form. -/
def IsExact : Step → Prop
  | rescale _ _ => False
  | displayed _ _ _ => False
  | _ => True

/-- The value after a step without rounding. -/
def valueAfter (x : ℚ) : Step → ℚ
  | add operand => x + operand.toRat
  | sub operand => x - operand.toRat
  | mul operand => x * operand.toRat
  | neg => -x
  | abs => |x|
  | _ => x

/-- The scale after a step without rounding. -/
def scaleAfter (scale : ℕ) : Step → ℕ
  | add operand => max scale operand.scale
  | sub operand => max scale operand.scale
  | mul operand => scale + operand.scale
  | _ => scale

variable {d r : Decimal}

/-! ### One step -/

/-- **What comes out of a packed field is what went in.** -/
theorem eq_of_apply_packed {totalDigits : ℤ} {unsigned : Bool}
    (h : (packed totalDigits unsigned).apply d = .ok r) : r = d := by
  obtain ⟨bytes, hbytes, hread⟩ := bind_eq_ok_iff.mp h
  obtain ⟨hfits, rfl⟩ := Packed.encode_eq_ok_iff.mp hbytes
  rw [Packed.decode_bytesOf hfits (Int.natCast_nonneg _), Int.toNat_natCast,
    Decimal.make_self] at hread
  exact (Except.ok.inj hread).symm

/-- **What comes out of a zoned field is what went in.** -/
theorem eq_of_apply_zoned {totalDigits : ℤ} {signed : Bool}
    (h : (zoned totalDigits signed).apply d = .ok r) : r = d := by
  obtain ⟨cs, hcs, hread⟩ := bind_eq_ok_iff.mp h
  obtain ⟨hfits, rfl⟩ := Zoned.encode_eq_ok_iff.mp hcs
  rw [Zoned.decode_textOf hfits (Int.natCast_nonneg _), Int.toNat_natCast,
    Decimal.make_self] at hread
  exact (Except.ok.inj hread).symm

/-- A step that can only give back what went in changes nothing, failed or not. -/
theorem advance_eq_self {step : Step} (h : ∀ r, step.apply d = .ok r → r = d) :
    step.advance d = d := by
  rw [advance]
  split
  next r hr => exact h r hr
  · rfl

/-- **A step without rounding does to the number what it does to the value and to the
scale.** -/
theorem advance_exact {step : Step} (h : step.IsExact) (d : Decimal) :
    (step.advance d).toRat = step.valueAfter d.toRat ∧
      (step.advance d).scale = step.scaleAfter d.scale := by
  cases step with
  | add operand => exact ⟨d.toRat_add operand, rfl⟩
  | sub operand => exact ⟨d.toRat_sub operand, rfl⟩
  | mul operand => exact ⟨d.toRat_mul operand, rfl⟩
  | neg => exact ⟨d.toRat_neg, rfl⟩
  | abs => exact ⟨d.toRat_abs, rfl⟩
  | packed totalDigits unsigned =>
    rw [advance_eq_self fun r hr => eq_of_apply_packed hr]
    exact ⟨rfl, rfl⟩
  | zoned totalDigits signed =>
    rw [advance_eq_self fun r hr => eq_of_apply_zoned hr]
    exact ⟨rfl, rfl⟩
  | rescale scale context => exact h.elim
  | displayed integerDigits fractionDigits mode => exact h.elim

/-! ### A run -/

/-- **A run follows its steps**: where each step does to the number what is said of
it in terms of some view of the number, so does the run. -/
theorem runSteps_follows {α : Type} {kind : Step → Prop} {view : Decimal → α}
    {next : α → Step → α}
    (hnext : ∀ step, kind step → ∀ d, view (step.advance d) = next (view d) step)
    {steps : List Step} (h : ∀ step ∈ steps, kind step) (start : Decimal) :
    view (runSteps start steps) = steps.foldl next (view start) := by
  induction steps generalizing start with
  | nil => rfl
  | cons step steps ih =>
    obtain ⟨hstep, hsteps⟩ := List.forall_mem_cons.mp h
    rw [List.foldl_cons, ← hnext step hstep, ← ih hsteps]
    rfl

section Run

variable {steps : List Step} (h : ∀ step ∈ steps, step.IsExact) (start : Decimal)

include h

/-- **A run without rounding comes to the value of its expression.** -/
theorem toRat_runSteps : (runSteps start steps).toRat = steps.foldl valueAfter start.toRat :=
  runSteps_follows (fun _ hstep d => (advance_exact hstep d).1) h start

/-- **And to the scale that the expression has.** -/
theorem scale_runSteps : (runSteps start steps).scale = steps.foldl scaleAfter start.scale :=
  runSteps_follows (fun _ hstep d => (advance_exact hstep d).2) h start

end Run

end Step

/-- **What holds of a number that a calculation has come to.** Its parts are those of
a number, zero without a sign among them. From it, arithmetic always goes on, to the
exact value at a scale that is known beforehand; and a passage through a stored form
that goes through changes nothing. -/
structure ExactFrom (d : Decimal) : Prop where
  parts : Decimal.ofParts d.unscaled d.negative d.scale = .ok d
  zero : d.unscaled = 0 → d.negative = false
  add : ∀ operand : Decimal, ∃ r, (Step.add operand).apply d = .ok r ∧
    r.toRat = d.toRat + operand.toRat ∧ r.scale = max d.scale operand.scale
  sub : ∀ operand : Decimal, ∃ r, (Step.sub operand).apply d = .ok r ∧
    r.toRat = d.toRat - operand.toRat ∧ r.scale = max d.scale operand.scale
  mul : ∀ operand : Decimal, ∃ r, (Step.mul operand).apply d = .ok r ∧
    r.toRat = d.toRat * operand.toRat ∧ r.scale = d.scale + operand.scale
  neg : ∃ r, Step.neg.apply d = .ok r ∧ r.toRat = -d.toRat ∧ r.scale = d.scale
  abs : ∃ r, Step.abs.apply d = .ok r ∧ r.toRat = |d.toRat| ∧ r.scale = d.scale
  packed : ∀ totalDigits unsigned r, (Step.packed totalDigits unsigned).apply d = .ok r → r = d
  zoned : ∀ totalDigits signed r, (Step.zoned totalDigits signed).apply d = .ok r → r = d

theorem exactFrom_of_decimal (d : Decimal) : ExactFrom d where
  parts := d.ofParts_self
  zero := d.zero_unsigned
  add operand := ⟨_, rfl, d.toRat_add operand, d.scale_add operand⟩
  sub operand := ⟨_, rfl, d.toRat_sub operand, d.scale_sub operand⟩
  mul operand := ⟨_, rfl, d.toRat_mul operand, d.scale_mul operand⟩
  neg := ⟨_, rfl, d.toRat_neg, d.scale_neg⟩
  abs := ⟨_, rfl, d.toRat_abs, d.scale_abs⟩
  packed _ _ _ h := Step.eq_of_apply_packed h
  zoned _ _ _ h := Step.eq_of_apply_zoned h

/-- **A calculation is exact.** Whatever the steps that led to a number, arithmetic on
it is exact and a stored form gives it back; and where none of the steps rounds, the
number is the value of the expression at the scale of the expression. -/
theorem runSteps_exact (start : Decimal) (steps : List Step) :
    ExactFrom (runSteps start steps) ∧
      ((∀ step ∈ steps, step.IsExact) →
        (runSteps start steps).toRat = steps.foldl Step.valueAfter start.toRat ∧
        (runSteps start steps).scale = steps.foldl Step.scaleAfter start.scale) :=
  ⟨exactFrom_of_decimal _, fun h => ⟨Step.toRat_runSteps h start, Step.scale_runSteps h start⟩⟩

/-- Twice 1.5, through a field that holds it and one that does not, less 0.25. -/
example : runSteps (.make 15 false 1) [.mul (.make 2 false 0), .packed 3 false, .zoned 1 true,
    .sub (.make 25 false 2)] = .make 275 false 2 := by decide +kernel

end FixedWidth
