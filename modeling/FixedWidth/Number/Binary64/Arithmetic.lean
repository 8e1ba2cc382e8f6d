import FixedWidth.Number.Binary64

/-!
# Sums and products of doubles

The two operations that reading a number to the base sixty needs. Each is exact
on the integers and powers of two that doubles are, and its result is the double
nearest to that.
-/

namespace FixedWidth.Binary64

/-- The other of two doubles that differ in their sign. -/
def negate : Binary64 → Binary64
  | finite negative m e => finite (!negative) m e
  | infinite negative => infinite (!negative)
  | notNumber => notNumber

/-- The double nearest to an integer. -/
def ofNat (n : Nat) : Binary64 :=
  ofQuotient false n 1

/-- The double nearest to an integer times a power of two. -/
def ofScaled (negative : Bool) (n : Nat) (e : Int) : Binary64 :=
  ofQuotient negative (n * Nat.pow 2 e.toNat) (Nat.pow 2 (-e).toNat)

/-- The product of two doubles. -/
def mul : Binary64 → Binary64 → Binary64
  | finite a m e, finite b n f => ofScaled (a != b) (m * n) (e + f)
  | infinite a, finite b n _ => if n = 0 then notNumber else infinite (a != b)
  | finite a m _, infinite b => if m = 0 then notNumber else infinite (a != b)
  | infinite a, infinite b => infinite (a != b)
  | _, _ => notNumber

/-- An integer with a sign. -/
def signedNat (negative : Bool) (n : Nat) : Int :=
  if negative then -(n : Int) else n

/-- The sum of two doubles. A sum that is zero is above zero unless both of them
are below. -/
def add : Binary64 → Binary64 → Binary64
  | finite a m e, finite b n f =>
    let least := min e f
    let sum := signedNat a (m * Nat.pow 2 (e - least).toNat) +
      signedNat b (n * Nat.pow 2 (f - least).toNat)
    ofScaled (if sum = 0 then a && b else sum < 0) sum.natAbs least
  | infinite a, infinite b => if a = b then infinite a else notNumber
  | infinite a, finite _ _ _ => infinite a
  | finite _ _ _, infinite b => infinite b
  | _, _ => notNumber

/-- **The sum of digits to the base sixty**, the last of them first; `base` is
what the first counts for. -/
def sexagesimal (sum : Binary64) (base : Nat) : List Binary64 → Binary64
  | [] => sum
  | d :: ds => sexagesimal (sum.add (d.mul (ofNat base))) (base * 60) ds

end FixedWidth.Binary64
