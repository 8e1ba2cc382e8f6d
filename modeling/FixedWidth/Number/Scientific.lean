import FixedWidth.Number.Decimal

/-!
# Decimal numbers of any exponent

A decimal as a general decimal arithmetic knows it: a coefficient and a power of
ten of either sign, an infinity, or a value that is no number. Such numbers come
from outside; inside the library a number is a `FixedWidth.Decimal`.

The written form is the canonical one: positional while the exponent is not
above zero and the first digit is at most six places behind the point, and
otherwise with one digit before the point and an exponent after `E`.
-/

namespace FixedWidth

/-- A decimal number of any exponent, or a value that is no finite number. -/
inductive Scientific where
  /-- `coefficient` times ten to the power `exponent`, below zero or not. -/
  | finite (negative : Bool) (coefficient : Nat) (exponent : Int)
  | infinite (negative : Bool)
  /-- No number, quiet or signalling, with a diagnostic that is shown unless it
  is zero. -/
  | notNumber (negative signalling : Bool) (diagnostic : Nat)
deriving DecidableEq, Repr

namespace Scientific

/-- Whether the value is zero; infinities and non-numbers are not. -/
def isZero : Scientific → Bool
  | finite _ coefficient _ => coefficient == 0
  | infinite _ => false
  | notNumber _ _ _ => false

/-- A number after its sign. -/
def withSign (negative : Bool) (cs : List Char) : List Char :=
  if negative then '-' :: cs else cs

/-- An exponent with its sign. -/
def exponentText (e : Int) : List Char :=
  (if e < 0 then '-' else '+') :: Nat.toDigits 10 e.natAbs

/-- Digits with the point after the first `point` of them, zeros filling the
room between. -/
def placePoint (ds : List Char) (point : Int) : List Char :=
  if point ≤ 0 then '0' :: '.' :: (List.replicate (-point).toNat '0' ++ ds)
  else if (ds.length : Int) ≤ point then ds ++ List.replicate (point.toNat - ds.length) '0'
  else ds.take point.toNat ++ '.' :: ds.drop point.toNat

/-- The canonical written form. -/
def text : Scientific → List Char
  | finite negative coefficient exponent =>
    let ds := Nat.toDigits 10 coefficient
    let left := exponent + ds.length
    withSign negative <|
      if exponent ≤ 0 && -6 < left then placePoint ds left
      else placePoint ds 1 ++ if left = 1 then [] else 'E' :: exponentText (left - 1)
  | infinite negative => withSign negative "Infinity".toList
  | notNumber negative signalling diagnostic =>
    withSign negative <|
      (if signalling then "sNaN".toList else "NaN".toList) ++
        if diagnostic = 0 then [] else Nat.toDigits 10 diagnostic

/-! ### Reading -/

/-- The number that decimal digits spell. -/
def natOfDigits (ds : List Char) : Nat :=
  Nat.ofDigitChars 10 ds 0

/-- The exponent after a mantissa: nothing, or `E` with an optional sign and one
or more digits. -/
def readExponent? : List Char → Option Int
  | [] => some 0
  | e :: cs =>
    if e == 'e' || e == 'E' then
      let (negative, ds) :=
        match cs with
        | '-' :: ds => (true, ds)
        | '+' :: ds => (false, ds)
        | ds => (false, ds)
      if ds.isEmpty || !ds.all Char.isDigit then none
      else some (if negative then -(natOfDigits ds : Int) else natOfDigits ds)
    else none

/-- A mantissa and its exponent: digits with at most one point, at least one
digit in all. -/
def readFinite? (negative : Bool) (cs : List Char) : Option Scientific :=
  let whole := cs.takeWhile Char.isDigit
  let afterWhole := cs.dropWhile Char.isDigit
  let (fraction, tail) :=
    match afterWhole with
    | '.' :: rest => (rest.takeWhile Char.isDigit, rest.dropWhile Char.isDigit)
    | rest => ([], rest)
  if whole.isEmpty && fraction.isEmpty then none
  else (readExponent? tail).map fun e =>
    finite negative (natOfDigits (whole ++ fraction)) (e - fraction.length)

/-- A value that is no finite number, by its name in any case. -/
def readSpecial? (negative : Bool) (cs : List Char) : Option Scientific :=
  let lower := cs.map Char.toLower
  if lower = "inf".toList || lower = "infinity".toList then some (infinite negative)
  else
    let (signalling, rest) :=
      match lower with
      | 's' :: rest => (true, rest)
      | rest => (false, rest)
    match rest with
    | 'n' :: 'a' :: 'n' :: ds =>
      if ds.all Char.isDigit then some (notNumber negative signalling (natOfDigits ds)) else none
    | _ => none

/-- The decimal that a text spells, if it spells one. -/
def ofText? (cs : List Char) : Option Scientific :=
  let (negative, body) :=
    match cs with
    | '-' :: body => (true, body)
    | '+' :: body => (false, body)
    | body => (false, body)
  match readFinite? negative body with
  | some x => some x
  | none => readSpecial? negative body

/-! ### Fixed scale -/

/-- A finite decimal at the least scale that holds it exactly; a positive
exponent becomes zeros. -/
def toDecimal? : Scientific → Option Decimal
  | finite negative coefficient exponent =>
    if 0 ≤ exponent then some (.make (coefficient * Nat.pow 10 exponent.toNat) negative 0)
    else some (.make coefficient negative (-exponent).toNat)
  | infinite _ => none
  | notNumber _ _ _ => none

/-- A decimal of fixed scale written as one of any exponent. A decimal arithmetic
does not hold all of them. -/
def ofDecimal (d : Decimal) : Scientific :=
  finite d.negative d.unscaled (-(d.scale : Int))

/-- **A decimal of fixed scale comes back unchanged.** -/
@[simp] theorem toDecimal?_ofDecimal (d : Decimal) : (ofDecimal d).toDecimal? = some d := by
  simp only [ofDecimal, toDecimal?]
  split
  · rename_i h
    have hs : d.scale = 0 := by omega
    have := d.make_self
    simp only [hs] at this
    simp [hs, this]
  · simp

end Scientific

end FixedWidth
