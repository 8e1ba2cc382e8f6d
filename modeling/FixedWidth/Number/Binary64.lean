import FixedWidth.Number.Rounding
import FixedWidth.Number.Scientific

/-!
# Binary floating point of double precision

A double as what it is, an integer times a power of two, so that the two rules
that matter here can be stated and computed on natural numbers: a decimal
literal means the double nearest to it, a half going to the even one
(`nearest`), and a double is written with the fewest digits that are nearest to
it and to no other double (`shortest`).

Doubles mostly pass through: they are read, written, truncated to an integer,
and turned into decimals by way of their written form. The little arithmetic
there is has a module of its own.
-/

namespace FixedWidth

/-- A double. -/
inductive Binary64 where
  /-- `significand` times two to the power `exponent`, below zero or not. -/
  | finite (negative : Bool) (significand : Nat) (exponent : Int)
  | infinite (negative : Bool)
  | notNumber
deriving DecidableEq, Repr

namespace Binary64

/-! ### The double nearest to a quotient -/

/-- The exponent of the leading bit of `n / d`, for positive `n` and `d`. -/
def leadingBit (n d : Nat) : Int :=
  let guess := (Nat.log2 n : Int) - Nat.log2 d
  let reached :=
    if 0 ≤ guess then d * Nat.pow 2 guess.toNat ≤ n else d ≤ n * Nat.pow 2 (-guess).toNat
  if reached then guess else guess - 1

/-- The double nearest to `n / d`, for positive `d`. -/
def ofQuotient (negative : Bool) (n d : Nat) : Binary64 :=
  if n = 0 then finite negative 0 0
  else
    let e := max (leadingBit n d - 52) (-1074)
    let m :=
      if 0 ≤ e then Rounding.halfEven.quotient n (d * Nat.pow 2 e.toNat)
      else Rounding.halfEven.quotient (n * Nat.pow 2 (-e).toNat) d
    let (m, e) := if m = Nat.pow 2 53 then (Nat.pow 2 52, e + 1) else (m, e)
    if 971 < e then infinite negative else finite negative m e

/-- **The double nearest to a decimal.** Exponents far outside the range are
answered without forming the power of ten. -/
def nearest (negative : Bool) (coefficient : Nat) (exponent : Int) : Binary64 :=
  let size := exponent + (Nat.toDigits 10 coefficient).length
  if coefficient = 0 then finite negative 0 0
  else if 310 < size then infinite negative
  else if size < -330 then finite negative 0 0
  else if 0 ≤ exponent then ofQuotient negative (coefficient * Nat.pow 10 exponent.toNat) 1
  else ofQuotient negative coefficient (Nat.pow 10 (-exponent).toNat)

/-- The double that a text spells, if it spells one. -/
def ofText? (cs : List Char) : Option Binary64 :=
  match Scientific.ofText? cs with
  | some (.finite negative coefficient exponent) => some (nearest negative coefficient exponent)
  | some (.infinite negative) => some (infinite negative)
  | some (.notNumber _ _ _) => some notNumber
  | none => none

/-! ### The fewest digits that mean a double -/

/-- The decimals that mean the double `m * 2 ^ e`, all over one denominator. -/
structure Interval where
  low : Nat
  value : Nat
  high : Nat
  denominator : Nat
  /-- Whether the ends belong to the interval. -/
  closed : Bool

/-- The interval of a positive double: half the way to either neighbour, of
which the lower is nearer at a power of two. -/
def interval (m : Nat) (e : Int) : Interval :=
  let up := Nat.pow 2 e.toNat
  let down := Nat.pow 2 (-e).toNat
  let gap := if m = Nat.pow 2 52 && -1074 < e then 1 else 2
  ⟨(4 * m - gap) * up, 4 * m * up, (4 * m + 2) * up, 4 * down, m % 2 == 0⟩

/-- How many digits `n / d` has before the point; where it has none, the count
of zeros after the point with a minus sign. -/
def pointPlace (n d : Nat) : Int :=
  if d ≤ n then (Nat.toDigits 10 (n / d)).length
  else
    let zeros := (Nat.toDigits 10 (d / n)).length
    if d = n * Nat.pow 10 (zeros - 1) then 2 - (zeros : Int) else 1 - (zeros : Int)

/-- The decimal with `count` digits nearest to the value among those in the
interval, as an integer and a power of ten. -/
def candidate? (range : Interval) (count : Nat) : Option (Nat × Int) :=
  let unit := pointPlace range.value range.denominator - count
  let up := Nat.pow 10 (-unit).toNat
  let d := range.denominator * Nat.pow 10 unit.toNat
  let low := range.low * up
  let value := range.value * up
  let high := range.high * up
  let inside (c : Nat) : Bool :=
    if range.closed then low ≤ c * d && c * d ≤ high else low < c * d && c * d < high
  let below := value / d
  let nearer := Rounding.halfEven.quotient value d
  if inside nearer then some (nearer, unit)
  else if inside below then some (below, unit)
  else if inside (below + 1) then some (below + 1, unit)
  else none

/-- The digits of a positive double, without zeros at the end, and the place of
the point in them. -/
def shortest (m : Nat) (e : Int) : List Char × Int :=
  match (List.range 17).findSome? fun k => candidate? (interval m e) (k + 1) with
  | none => (['0'], 1)
  | some (c, unit) =>
    let ds := Nat.toDigits 10 c
    (Text.dropWhileEnd (· == '0') ds, unit + ds.length)

/-- In which way a finite double is written. -/
structure Style where
  /-- The least place of the point in the digits, and the greatest, at which no
  exponent is written. -/
  leastPoint : Int
  greatestPoint : Int
  /-- The fewest digits of an exponent. -/
  exponentWidth : Nat

/-- The style of fields and messages: positional from one ten-thousandth up to
sixteen digits before the point, and otherwise with an exponent of at least two
digits. -/
def Style.usual : Style := ⟨-3, 16, 2⟩

/-- A finite double written: its shortest digits, with a point wherever there is
no exponent. -/
def finiteText (style : Style) (negative : Bool) (m : Nat) (e : Int) : List Char :=
  Scientific.withSign negative <|
    if m = 0 then "0.0".toList
    else
      let (ds, point) := shortest m e
      if style.leastPoint ≤ point && point ≤ style.greatestPoint then
        let cs := Scientific.placePoint ds point
        if cs.contains '.' then cs else cs ++ ".0".toList
      else
        Scientific.placePoint ds 1 ++ 'e' :: (if point - 1 < 0 then '-' else '+') ::
          (Nat.toDigits 10 (point - 1).natAbs).leftpad style.exponentWidth '0'

/-- A double as a field or a message shows it. -/
def text : Binary64 → List Char
  | finite negative m e => finiteText .usual negative m e
  | infinite negative => Scientific.withSign negative "inf".toList
  | notNumber => "nan".toList

/-- Whether the double is zero. -/
def isZero : Binary64 → Bool
  | finite _ m _ => m == 0
  | infinite _ => false
  | notNumber => false

/-- A finite double without its fraction. -/
def truncate? : Binary64 → Option Int
  | finite negative m e =>
    let n := if 0 ≤ e then m * Nat.pow 2 e.toNat else m / Nat.pow 2 (-e).toNat
    some (if negative then -(n : Int) else n)
  | infinite _ => none
  | notNumber => none

/-- The integer that a double is, if it is one. -/
def toInt? (x : Binary64) : Option Int :=
  match x with
  | finite _ m e => if e < 0 && m % Nat.pow 2 (-e).toNat != 0 then none else x.truncate?
  | infinite _ => none
  | notNumber => none

/-- A finite double as the decimal it is written as. -/
def toScientific? (x : Binary64) : Option Scientific :=
  match x with
  | finite _ _ _ => Scientific.ofText? ((text x).map fun c => if c = 'e' then 'E' else c)
  | infinite _ => none
  | notNumber => none

end Binary64

end FixedWidth
