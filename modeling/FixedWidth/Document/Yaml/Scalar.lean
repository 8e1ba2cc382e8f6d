import FixedWidth.Document.Yaml.Tag
import FixedWidth.Fault
import FixedWidth.Number.Binary64.Arithmetic
import FixedWidth.Text.Integer

/-!
# The values of scalars

A scalar of a kind is read as what it is written as. Since a tag can give a kind
to any scalar, reading can fail for each of them, in its own way.
-/

namespace FixedWidth.Yaml

/-! ### Truth values -/

/-- The truth value of a word in lower case. -/
def truthOf? (word : String) : Option Bool :=
  [("yes", true), ("no", false), ("true", true), ("false", false), ("on", true),
    ("off", false)].lookup word

/-- A truth value. -/
def readTruth (cs : List Char) : Except Fault Value :=
  let word := String.ofList (cs.map Char.toLower)
  match truthOf? word with
  | some b => .ok (.truth b)
  | none => .error (.missingName word)

/-! ### Numbers -/

/-- A number's sign and the rest of its text, in which there has to be
something. -/
def splitSign (cs : List Char) : Except Fault (Bool × List Char) :=
  match cs with
  | [] => .error .outsideText
  | '-' :: rest => .ok (true, rest)
  | '+' :: rest => .ok (false, rest)
  | cs => .ok (false, cs)

/-- An integer to a base. -/
def readIntegerIn (base : Nat) (cs : List Char) : Except Fault Int :=
  match Text.readIntegerIn? base cs with
  | some z => .ok z
  | none => .error (.notInteger base (String.ofList cs))

/-- The number that digits to the base sixty make up. -/
def ofSixtieths (digits : List Int) : Int :=
  digits.foldl (fun n d => 60 * n + d) 0

/-- An integer without its sign: to the base that its beginning says. -/
def readMagnitude (cs : List Char) : Except Fault Int :=
  match cs with
  | [] => .error .outsideText
  | ['0'] => .ok 0
  | '0' :: 'b' :: ds => readIntegerIn 2 ds
  | '0' :: 'x' :: ds => readIntegerIn 16 ds
  | '0' :: _ => readIntegerIn 8 cs
  | cs =>
    if cs.contains ':' then ((cs.splitOn ':').mapM (readIntegerIn 10)).map ofSixtieths
    else readIntegerIn 10 cs

/-- An integer. -/
def readInteger (cs : List Char) : Except Fault Value := do
  let (negative, cs) ← splitSign (cs.filter (· != '_'))
  let z ← readMagnitude cs
  return .integer (if negative then -z else z)

/-- A double in decimal, or by its name. -/
def readDecimal (cs : List Char) : Except Fault Binary64 :=
  match Binary64.ofText? (Text.trim cs) with
  | some x => .ok x
  | none => .error (.notDouble (String.ofList cs))

/-- A double without its sign. -/
def readUnsignedDouble (cs : List Char) : Except Fault Binary64 :=
  if cs = ".inf".toList then .ok (.infinite false)
  else if cs = ".nan".toList then .ok .notNumber
  else if cs.contains ':' then do
    let digits ← (cs.splitOn ':').mapM readDecimal
    return .sexagesimal (.ofNat 0) 1 digits.reverse
  else readDecimal cs

/-- A double. -/
def readDouble (cs : List Char) : Except Fault Value := do
  let (negative, cs) ← splitSign ((cs.filter (· != '_')).map Char.toLower)
  let x ← readUnsignedDouble cs
  return .double (if negative then x.negate else x)

/-! ### Dates and times -/

/-- The number that digits spell. -/
def number (ds : List Char) : Nat :=
  Nat.ofDigitChars 10 ds 0

/-- How many digits of a fraction of a second count. -/
def fractionDigits : Nat := 6

/-- The microseconds of a fraction of a second. -/
def microsecondsOf (ds : List Char) : Nat :=
  let ds := ds.take fractionDigits
  number (ds ++ List.replicate (fractionDigits - ds.length) '0')

/-- The offset of a zone in minutes. -/
def offsetOf : Option Char × List Char × List Char → Int
  | (none, _, _) => 0
  | (some sign, hours, minutes) =>
    let n : Int := (60 * number hours + number minutes : Nat)
    if sign == '-' then -n else n

/-- The moment that parts give, if the calendar has it. -/
def MomentParts.toMoment (parts : MomentParts) : Except Fault Moment :=
  let time := parts.time.map fun (hour, minute, second, fraction) =>
    (⟨number hour, number minute, number second, microsecondsOf fraction⟩ : TimeOfDay)
  (Moment.checked ⟨number parts.year, number parts.month, number parts.day, time,
    parts.zone.map offsetOf⟩).mapError .moment

/-- A date, perhaps with a time. -/
def readMoment (cs : List Char) : Except Fault Value :=
  match momentParts? cs with
  | some parts => parts.toMoment.map .moment
  | none => .error .notText

/-! ### Scalars -/

/-- The fault of a part that has no value. -/
def noValue : Fault := .malformedYaml .content

/-- **The value of a scalar of a kind.** Kinds that scalars do not have give it
none. -/
def readScalar (tag : Tag) (cs : List Char) : Except Fault Value :=
  match tag with
  | .null => .ok .null
  | .truth => readTruth cs
  | .integer => readInteger cs
  | .double => readDouble cs
  | .moment => readMoment cs
  | .text => .ok (.text (String.ofList cs))
  | _ => .error noValue

end FixedWidth.Yaml
