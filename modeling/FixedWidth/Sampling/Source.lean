/-!
# Sources of chance

What random fields and records are drawn from: a state that answers two
questions, which number below a bound, and which side of a coin. The bound is
part of the answer's type, so nothing that is drawn can lie outside its range,
whatever the source is.
-/

namespace FixedWidth.Sampling

/-- A source of chance with states in `σ`. -/
structure Source (σ : Type) where
  /-- A number below a positive bound. -/
  below : (bound : Nat) → 0 < bound → σ → Fin bound × σ
  coin : σ → Bool × σ

variable {σ : Type}

/-- A number up to a greatest one. -/
def Source.upTo (source : Source σ) (greatest : Nat) (s : σ) : Fin (greatest + 1) × σ :=
  source.below (greatest + 1) (Nat.succ_pos _) s

/-- A capital letter. -/
def Source.capital (source : Source σ) (s : σ) : Char × σ :=
  let (k, s) := source.below 26 (by decide) s
  (Char.ofNat ('A'.toNat + k), s)

/-- So many capital letters. -/
def Source.capitals (source : Source σ) : (count : Nat) → σ → List Char × σ
  | 0, s => ([], s)
  | count + 1, s =>
    let (c, s) := source.capital s
    let (cs, s) := source.capitals count s
    (c :: cs, s)

end FixedWidth.Sampling
