import FixedWidth.Number.Rescale
import FixedWidth.Text.Digit

/-!
# Packed decimal

A number in half-bytes: two digits to a byte, the most significant first, and
the sign in the last half-byte, `C` or `F` for a number that is not negative and
`D` for one that is. A field of an even count of digits begins with a half-byte
of zero, so that it fills whole bytes.

The places of the number are not stored. A reader is told how many of the digits
stand after the point.
-/

namespace FixedWidth.Packed

/-- The half-bytes of bytes, the higher one of each first. -/
def nibbles (bytes : List UInt8) : List Nat :=
  bytes.flatMap fun b => [b.toNat / 16, b.toNat % 16]

/-- The bytes of half-bytes, two to a byte. -/
def ofNibbles : List Nat → List UInt8
  | hi :: lo :: rest => UInt8.ofNat (16 * hi + lo) :: ofNibbles rest
  | _ => []

/-- How many bytes a field of so many digits takes. -/
def length (totalDigits : Int) : Int :=
  totalDigits / 2 + 1

/-- Whether a half-byte is the sign of a negative number; `none` where it is no
sign. -/
def signOf? (nibble : Nat) : Option Bool :=
  if nibble = 0xD then some true
  else if nibble = 0xC ∨ nibble = 0xF then some false
  else none

/-- The sign that is written. -/
def signFor (unsigned negative : Bool) : Nat :=
  if unsigned then 0xF else if negative then 0xD else 0xC

/-- The first half-byte that is no digit, with its position, where the
half-bytes begin at the given position. -/
def firstNonDigit? (position : Nat) : List Nat → Option (Nat × Nat)
  | [] => none
  | n :: ns => if n ≤ 9 then firstNonDigit? (position + 1) ns else some (n, position)

/-- **The number that a packed field holds**, `scale` of its digits after the
point. The sign is looked at first, then the digits from the left. -/
def decode (bytes : List UInt8) (scale : Int) : Except Fault Decimal :=
  if scale < 0 then .error .negativeScale
  else
    match (nibbles bytes).getLast? with
    | none => .error .emptyPacked
    | some sign =>
      match signOf? sign with
      | none => .error (.signNibble sign)
      | some negative =>
        let digits := (nibbles bytes).dropLast
        match firstNonDigit? 0 digits with
        | some (n, position) => .error (.digitNibble n (position / 2))
        | none =>
          .ok (.make (Nat.ofDigitChars 10 (digits.map Nat.digitChar) 0) negative scale.toNat)

/-- Half-bytes with a zero before them where their count is odd. -/
def padToBytes (ns : List Nat) : List Nat :=
  if ns.length % 2 = 0 then ns else 0 :: ns

/-- The bytes of a number that fits. -/
def bytesOf (d : Decimal) (totalDigits : Nat) (unsigned : Bool) : List UInt8 :=
  ofNibbles <| padToBytes <|
    (d.digits totalDigits).map Text.digitOf ++ [signFor unsigned d.negative]

/-- **The packed field of a number**, with so many digits. An unsigned field
takes no negative number. -/
def encode (d : Decimal) (totalDigits : Int) (unsigned : Bool) : Except Fault (List UInt8) :=
  if totalDigits < 1 then .error .totalDigits
  else if totalDigits < d.digitCount then .error (.overflow d.digitCount totalDigits)
  else if unsigned && d.negative then .error .negativeForPacked
  else .ok (bytesOf d totalDigits.toNat unsigned)

@[simp] theorem nibbles_nil : nibbles [] = [] := rfl

@[simp] theorem nibbles_cons (b : UInt8) (bytes : List UInt8) :
    nibbles (b :: bytes) = b.toNat / 16 :: b.toNat % 16 :: nibbles bytes := rfl

@[simp] theorem nibbles_append (bytes bytes' : List UInt8) :
    nibbles (bytes ++ bytes') = nibbles bytes ++ nibbles bytes' :=
  List.flatMap_append

theorem length_nibbles (bytes : List UInt8) : (nibbles bytes).length = 2 * bytes.length := by
  induction bytes with
  | nil => rfl
  | cons b bytes ih => simp [ih]; omega

/-- Half-bytes stand two to a byte, the higher one first. -/
theorem getElem?_nibbles (bytes : List UInt8) (k : Nat) :
    (nibbles bytes)[k]? =
      bytes[k / 2]?.map fun b => if k % 2 = 0 then b.toNat / 16 else b.toNat % 16 := by
  induction bytes generalizing k with
  | nil => rfl
  | cons b bytes ih =>
    match k with
    | 0 => rfl
    | 1 => rfl
    | k + 2 =>
      have hhalf : (k + 2) / 2 = k / 2 + 1 := by omega
      rw [nibbles_cons, List.getElem?_cons_succ, List.getElem?_cons_succ, ih, hhalf,
        List.getElem?_cons_succ, Nat.add_mod_right]

theorem firstNonDigit?_eq_none_iff {position : Nat} {ns : List Nat} :
    firstNonDigit? position ns = none ↔ ∀ n ∈ ns, n ≤ 9 := by
  induction ns generalizing position with
  | nil => simp [firstNonDigit?]
  | cons n ns ih => by_cases h : n ≤ 9 <;> simp [firstNonDigit?, h, ih]

/-- The half-byte that is found is no digit, and there are only digits before it. -/
theorem exists_append_of_firstNonDigit? {position n k : Nat} {ns : List Nat}
    (h : firstNonDigit? position ns = some (n, k)) :
    ∃ before after, ns = before ++ n :: after ∧ (∀ m ∈ before, m ≤ 9) ∧ ¬n ≤ 9 ∧
      k = position + before.length := by
  induction ns generalizing position with
  | nil => cases h
  | cons m ns ih =>
    rw [firstNonDigit?] at h
    split at h
    next hm =>
      obtain ⟨before, after, rfl, hbefore, hn, rfl⟩ := ih h
      refine ⟨m :: before, after, rfl, List.forall_mem_cons.mpr ⟨hm, hbefore⟩, hn, ?_⟩
      rw [List.length_cons]
      omega
    next hm =>
      obtain ⟨rfl, rfl⟩ := Prod.mk.inj (Option.some.inj h)
      exact ⟨[], ns, rfl, fun m hm => absurd hm List.not_mem_nil, hm, rfl⟩

end FixedWidth.Packed
