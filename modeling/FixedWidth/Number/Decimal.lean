/-!
# Decimal numbers of fixed scale

A `Decimal` is what a numeric field holds: a magnitude in units of the last
place, a sign, and the count of places, its *scale*. Zero has no sign, and that
is part of the type. Two decimals of different scale can have the same value;
they are then different decimals, since they are written differently, and
`sameValue` is the comparison that does not tell them apart.

Sums and products are exact. What loses digits is `roundTo`, which gives the
decimal of a chosen scale nearest to a given one; the limits a caller may put on
it are in `FixedWidth.Number.Rescale`.
-/

namespace FixedWidth

/-- A decimal number with a fixed count of places. -/
@[ext] structure Decimal where
  /-- The magnitude, in units of the last place. -/
  unscaled : Nat
  /-- Whether the number is below zero. -/
  negative : Bool
  /-- The count of places after the point. -/
  scale : Nat
  /-- Zero is not negative. -/
  zero_unsigned : unscaled = 0 → negative = false
deriving DecidableEq, Repr

namespace Decimal

/-- A magnitude with a sign, which zero loses. -/
def make (unscaled : Nat) (negative : Bool) (scale : Nat) : Decimal :=
  ⟨unscaled, negative && unscaled != 0, scale, by simp +contextual⟩

/-- An integer in units of the last place. -/
def ofInt (z : Int) (scale : Nat) : Decimal :=
  make z.natAbs (z < 0) scale

/-- The number in units of the last place. -/
def signed (d : Decimal) : Int :=
  if d.negative then -(d.unscaled : Int) else d.unscaled

/-- Whether the number is zero. -/
def isZero (d : Decimal) : Bool :=
  d.unscaled == 0

@[simp] theorem unscaled_make (n : Nat) (neg : Bool) (s : Nat) : (make n neg s).unscaled = n := rfl

@[simp] theorem scale_make (n : Nat) (neg : Bool) (s : Nat) : (make n neg s).scale = s := rfl

@[simp] theorem negative_make (n : Nat) (neg : Bool) (s : Nat) :
    (make n neg s).negative = (neg && n != 0) := rfl

@[simp] theorem make_self (d : Decimal) : make d.unscaled d.negative d.scale = d := by
  ext1
  · rfl
  · by_cases h : d.unscaled = 0
    · simp [d.zero_unsigned h]
    · simp [h]
  · rfl

@[simp] theorem scale_ofInt (z : Int) (s : Nat) : (ofInt z s).scale = s := rfl

@[simp] theorem unscaled_ofInt (z : Int) (s : Nat) : (ofInt z s).unscaled = z.natAbs := rfl

@[simp] theorem negative_ofInt (z : Int) (s : Nat) : (ofInt z s).negative = decide (z < 0) := by
  by_cases h : z < 0
  · have nonzero : z.natAbs ≠ 0 := by omega
    simp [ofInt, h, nonzero]
  · simp [ofInt, h]

@[simp] theorem signed_ofInt (z : Int) (s : Nat) : (ofInt z s).signed = z := by
  simp only [signed, negative_ofInt, unscaled_ofInt, decide_eq_true_eq]
  split <;> omega

@[simp] theorem ofInt_signed (d : Decimal) : ofInt d.signed d.scale = d := by
  obtain ⟨n, neg, s, h⟩ := d
  cases neg
  · have hn : ¬ (n : Int) < 0 := by omega
    ext1 <;> simp [ofInt, signed, hn]
  · have hn : n ≠ 0 := fun e => by simpa using h e
    ext1 <;> simp [ofInt, signed, hn]
    omega

/-! ### Digits -/

/-- How many digits the magnitude has; zero has one. -/
def digitCount (d : Decimal) : Nat :=
  (Nat.toDigits 10 d.unscaled).length

/-- The digits of the magnitude, with zeros before them up to a width. -/
def digits (d : Decimal) (width : Nat) : List Char :=
  (Nat.toDigits 10 d.unscaled).leftpad width '0'

/-- The magnitude before the point. -/
def wholePart (d : Decimal) : Nat :=
  d.unscaled / Nat.pow 10 d.scale

/-- How many digits stand before the point; none where that part is zero. -/
def integerDigits (d : Decimal) : Nat :=
  if d.wholePart = 0 then 0 else (Nat.toDigits 10 d.wholePart).length

/-- The magnitude written with its point, at least one digit before it. -/
def magnitudeText (d : Decimal) : List Char :=
  let ds := d.digits (d.scale + 1)
  if d.scale = 0 then ds
  else ds.take (ds.length - d.scale) ++ '.' :: ds.drop (ds.length - d.scale)

/-- The number written: a minus sign below zero, the digits before the point,
and exactly as many places as the scale says. -/
def text (d : Decimal) : List Char :=
  if d.negative then '-' :: d.magnitudeText else d.magnitudeText

/-- The number written, as a string. -/
def toText (d : Decimal) : String :=
  String.ofList d.text

theorem digitCount_pos (d : Decimal) : 0 < d.digitCount :=
  Nat.length_toDigits_pos

/-- A count of digits is the least power of ten that bounds the magnitude. -/
theorem digitCount_le_iff (d : Decimal) {k : Nat} (h : 0 < k) :
    d.digitCount ≤ k ↔ d.unscaled < Nat.pow 10 k :=
  Nat.length_toDigits_le_iff (by decide) h

theorem length_digits (d : Decimal) (width : Nat) :
    (d.digits width).length = max width d.digitCount :=
  List.length_leftpad

/-! ### Order -/

/-- Both numbers in units of the finer of their last places. -/
def align (a b : Decimal) : Int × Int :=
  let s := max a.scale b.scale
  (a.signed * Nat.pow 10 (s - a.scale), b.signed * Nat.pow 10 (s - b.scale))

/-- Whether two decimals have the same value, whatever their scales. -/
def sameValue (a b : Decimal) : Bool :=
  (a.align b).1 == (a.align b).2

/-- Whether the first number is below the second. -/
def less (a b : Decimal) : Bool :=
  (a.align b).1 < (a.align b).2

/-- Whether the first number is at most the second. -/
def atMost (a b : Decimal) : Bool :=
  a.less b || a.sameValue b

/-- Whether two decimals have two values. -/
def differs (a b : Decimal) : Bool :=
  !a.sameValue b

/-- Whether the first number is above the second. -/
def above (a b : Decimal) : Bool :=
  !a.less b && a.differs b

/-- Whether the first number is at least the second. -/
def atLeast (a b : Decimal) : Bool :=
  !a.less b

/-! ### Exact arithmetic -/

/-- The sum, at the finer scale. -/
def add (a b : Decimal) : Decimal :=
  ofInt ((a.align b).1 + (a.align b).2) (max a.scale b.scale)

/-- The difference, at the finer scale. -/
def sub (a b : Decimal) : Decimal :=
  ofInt ((a.align b).1 - (a.align b).2) (max a.scale b.scale)

/-- The product, with the places of both. -/
def mul (a b : Decimal) : Decimal :=
  ofInt (a.signed * b.signed) (a.scale + b.scale)

/-- The number with the other sign. -/
def neg (d : Decimal) : Decimal :=
  make d.unscaled (!d.negative) d.scale

/-- The number without its sign. -/
def abs (d : Decimal) : Decimal :=
  make d.unscaled false d.scale

instance : Add Decimal := ⟨add⟩
instance : Sub Decimal := ⟨sub⟩
instance : Mul Decimal := ⟨mul⟩
instance : Neg Decimal := ⟨neg⟩

end Decimal

end FixedWidth
