import FixedWidth.Fault

/-!
# Binary integers

An integer in a fixed count of bytes, the most significant first, a negative one
as its distance from the next power of 256. With a sign, the negative integers
take half of what the bytes can spell; an integer that is not among those that
they stand for is refused.
-/

namespace FixedWidth.Binary

/-- The number that bytes spell. -/
def natOfBytes (bytes : List UInt8) : Nat :=
  bytes.foldl (fun n b => 256 * n + b.toNat) 0

/-- The last `count` bytes of a number. -/
def bytesOfNat : (count n : Nat) → List UInt8
  | 0, _ => []
  | count + 1, n => bytesOfNat count (n / 256) ++ [UInt8.ofNat (n % 256)]

/-- The integer that bytes hold. -/
def decode (bytes : List UInt8) (signed : Bool) : Int :=
  let n := natOfBytes bytes
  if signed && Nat.pow 256 bytes.length ≤ 2 * n then n - Nat.pow 256 bytes.length else n

/-- The bytes of an integer that fits into them. -/
def encode (count : Nat) (z : Int) : List UInt8 :=
  bytesOfNat count (z % Nat.pow 256 count).toNat

/-- **The bytes of an integer**, if it fits into them. -/
def write (count : Nat) (signed : Bool) (z : Int) : Except Fault (List UInt8) :=
  let room : Int := Nat.pow 256 count
  let taken := if signed then 2 * z else z
  if !signed && z < 0 then .error .negativeForBytes
  else if taken < -room || room ≤ taken then .error .tooWideForBytes
  else .ok (encode count z)

@[simp] theorem length_bytesOfNat (count n : Nat) : (bytesOfNat count n).length = count := by
  induction count generalizing n with
  | zero => rfl
  | succ count ih => simp [bytesOfNat, ih]

@[simp] theorem length_encode (count : Nat) (z : Int) : (encode count z).length = count :=
  length_bytesOfNat _ _

theorem natOfBytes_append_singleton (bytes : List UInt8) (b : UInt8) :
    natOfBytes (bytes ++ [b]) = 256 * natOfBytes bytes + b.toNat := by
  simp [natOfBytes]

/-- A number that fits is read back from its bytes. -/
theorem natOfBytes_bytesOfNat {count n : Nat} (h : n < Nat.pow 256 count) :
    natOfBytes (bytesOfNat count n) = n := by
  induction count generalizing n with
  | zero =>
    have : n = 0 := Nat.lt_one_iff.mp h
    subst this
    rfl
  | succ count ih =>
    have bound : n / 256 < Nat.pow 256 count :=
      Nat.div_lt_of_lt_mul (Nat.mul_comm (Nat.pow 256 count) 256 ▸ h)
    have low : n % 256 < 256 := Nat.mod_lt n (by decide)
    rw [bytesOfNat, natOfBytes_append_singleton, ih bound, UInt8.toNat_ofNat_of_lt' low]
    omega

end FixedWidth.Binary
