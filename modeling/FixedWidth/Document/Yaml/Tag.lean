import FixedWidth.Text.Hex

/-!
# What a scalar is

A part of a document is of some kind, by its tag or by how it is written. A scalar
without quotes and without a tag is taken for a truth value, a number, a date or
nothing where it is written as such, and otherwise for a text. Here each of these
is a test on characters: what has no value although it is written like one (a
month thirteen, no digits behind `0x`) is a fault of its own and not a text.

Underscores may stand between digits. Numbers to the base sixty have their digits
between colons.
-/

namespace FixedWidth.Yaml

/-- The kind of a part of a document. -/
inductive Tag where
  | null
  | truth
  | integer
  | double
  | moment
  | text
  | sequence
  | mapping
  /-- The key whose value's entries belong to the mapping itself. -/
  | merge
  /-- The sign for a default value, which is none. -/
  | default
  | unknown
deriving DecidableEq, Repr

/-- What the longer names of the tags of the language begin with. -/
def tagStart : List Char := "tag:yaml.org,2002:".toList

/-- The tags of the language by the rest of their names. -/
def tagNames : List (String × Tag) := [
  ("null", .null), ("bool", .truth), ("int", .integer), ("float", .double),
  ("timestamp", .moment), ("str", .text), ("seq", .sequence), ("map", .mapping),
  ("merge", .merge), ("value", .default)]

/-- The tag of a name. -/
def Tag.ofName (name : List Char) : Tag :=
  if tagStart.isPrefixOf name then
    (tagNames.lookup (String.ofList (name.drop tagStart.length))).getD .unknown
  else .unknown

/-! ### Words -/

/-- The ways in which a truth value is written. -/
def truthWords : List String := [
  "yes", "Yes", "YES", "no", "No", "NO", "true", "True", "TRUE", "false", "False", "FALSE",
  "on", "On", "ON", "off", "Off", "OFF"]

/-- The ways in which nothing is written. -/
def nullWords : List String := ["", "~", "null", "Null", "NULL"]

/-- The text without the sign that it may begin with. -/
def afterSign : List Char → List Char
  | '-' :: cs => cs
  | '+' :: cs => cs
  | cs => cs

/-- Whether characters are digits and underscores. -/
def areSpacedDigits (cs : List Char) : Bool :=
  cs.all fun c => c.isDigit || c == '_'

/-- Whether a text begins with a digit and goes on with digits and underscores. -/
def isSpacedNumber : List Char → Bool
  | [] => false
  | c :: cs => c.isDigit && areSpacedDigits cs

/-! ### Integers -/

/-- Whether a text is a digit to the base sixty after the first. -/
def isSixtieth : List Char → Bool
  | [c] => c.isDigit
  | [c, d] => '0' ≤ c && c ≤ '5' && d.isDigit
  | _ => false

/-- Whether characters are underscores and others that satisfy `p`, and there is
one of them. -/
def areSpaced (p : Char → Bool) (cs : List Char) : Bool :=
  !cs.isEmpty && cs.all fun c => p c || c == '_'

/-- Whether a text without a sign is written as an integer: binary, octal,
decimal, hexadecimal, or to the base sixty. -/
def isUnsignedInteger (cs : List Char) : Bool :=
  match cs with
  | ['0'] => true
  | '0' :: 'b' :: ds => areSpaced (fun c => c == '0' || c == '1') ds
  | '0' :: 'x' :: ds => areSpaced (fun c => (Text.hexValue? c).isSome) ds
  | '0' :: ds => areSpaced (fun c => '0' ≤ c && c ≤ '7') ds
  | cs =>
    match cs.splitOn ':' with
    | [] => false
    | first :: others => isSpacedNumber first && others.all isSixtieth

/-- Whether a text is written as an integer. -/
def isInteger (cs : List Char) : Bool :=
  isUnsignedInteger (afterSign cs)

/-! ### Doubles -/

/-- Whether a text is nothing or an exponent, which has a sign. -/
def isExponent : List Char → Bool
  | [] => true
  | e :: sign :: ds =>
    (e == 'e' || e == 'E') && (sign == '-' || sign == '+') && !ds.isEmpty && ds.all Char.isDigit
  | _ => false

/-- Whether a text is what can stand behind a point: digits and underscores, and
an exponent. -/
def isFraction (cs : List Char) : Bool :=
  isExponent (cs.dropWhile fun c => c.isDigit || c == '_')

/-- Whether a text is the last digit of a double to the base sixty, with a point
and what stands behind it. -/
def isLastSixtieth (cs : List Char) : Bool :=
  match cs.splitOn '.' with
  | [whole, fraction] => isSixtieth whole && areSpacedDigits fraction
  | _ => false

/-- Whether digits between colons are a double to the base sixty. -/
def areSixtieths : List (List Char) → Bool
  | [] => false
  | [cs] => isLastSixtieth cs
  | cs :: rest => isSixtieth cs && areSixtieths rest

/-- Whether a text without a sign is written as a double that can have one. -/
def isSignedDouble (cs : List Char) : Bool :=
  let whole := cs.takeWhile (· != '.')
  let isDecimal :=
    match cs.drop whole.length with
    | [] => false
    | _ :: fraction => isSpacedNumber whole && isFraction fraction
  let isSexagesimal :=
    match cs.splitOn ':' with
    | first :: others => isSpacedNumber first && areSixtieths others
    | [] => false
  isDecimal || isSexagesimal || [".inf", ".Inf", ".INF"].contains (String.ofList cs)

/-- Whether a text is written as a double. It has a point, and before it a digit
unless there is no sign. -/
def isDouble (cs : List Char) : Bool :=
  isSignedDouble (afterSign cs) || [".nan", ".NaN", ".NAN"].contains (String.ofList cs) ||
    match cs with
    | '.' :: c :: fraction => c.isDigit && isFraction fraction
    | _ => false

/-! ### Dates and times -/

/-- A date, with a time where one is given, in its written parts. -/
structure MomentParts where
  year : List Char
  month : List Char
  day : List Char
  /-- Hour, minute, second, and the digits of its fraction. -/
  time : Option (List Char × List Char × List Char × List Char)
  /-- The sign of the offset, its hours, and its minutes; no sign for the common
  clock. -/
  zone : Option (Option Char × List Char × List Char)
deriving DecidableEq, Repr

/-- At least `least` and at most `most` digits at the beginning of a text, and
what follows. -/
def takeDigits? (least most : Nat) (cs : List Char) : Option (List Char × List Char) :=
  let ds := (cs.takeWhile Char.isDigit).take most
  if least ≤ ds.length then some (ds, cs.drop ds.length) else none

/-- What follows a character. -/
def takeChar? (c : Char) : List Char → Option (List Char)
  | [] => none
  | d :: cs => if c == d then some cs else none

/-- What follows the mark between a date and a time: a letter, or spaces. -/
def takeTimeMark? (cs : List Char) : Option (List Char) :=
  match cs with
  | [] => none
  | c :: rest =>
    if c == 'T' || c == 't' then some rest
    else if c == ' ' || c == '\t' then some (cs.dropWhile fun c => c == ' ' || c == '\t')
    else none

/-- The zone that a text is: nothing, or a letter or an offset after spaces. -/
def zoneOf? (cs : List Char) : Option (Option (Option Char × List Char × List Char)) :=
  if cs.isEmpty then some none
  else
    match cs.dropWhile fun c => c == ' ' || c == '\t' with
    | ['Z'] => some (some (none, [], []))
    | sign :: rest =>
      if sign == '-' || sign == '+' then do
        let (hours, rest) ← takeDigits? 1 2 rest
        if rest.isEmpty then return some (some sign, hours, [])
        let (minutes, rest) ← takeDigits? 2 2 (← takeChar? ':' rest)
        if rest.isEmpty then return some (some sign, hours, minutes) else none
      else none
    | [] => none

/-- The parts of a text that is written as a date, perhaps with a time. -/
def momentParts? (cs : List Char) : Option MomentParts := do
  let (year, rest) ← takeDigits? 4 4 cs
  let (month, rest) ← takeDigits? 1 2 (← takeChar? '-' rest)
  let (day, rest) ← takeDigits? 1 2 (← takeChar? '-' rest)
  if rest.isEmpty then return ⟨year, month, day, none, none⟩
  let (hour, rest) ← takeDigits? 1 2 (← takeTimeMark? rest)
  let (minute, rest) ← takeDigits? 2 2 (← takeChar? ':' rest)
  let (second, rest) ← takeDigits? 2 2 (← takeChar? ':' rest)
  let (fraction, rest) :=
    match rest with
    | '.' :: rest => (rest.takeWhile Char.isDigit, rest.dropWhile Char.isDigit)
    | rest => ([], rest)
  return ⟨year, month, day, some (hour, minute, second, fraction), ← zoneOf? rest⟩

/-- Whether a text without a tag is taken for a date: without a time, month and
day have two digits each. -/
def isMoment (cs : List Char) : Bool :=
  match momentParts? cs with
  | none => false
  | some parts => parts.time.isSome || (parts.month.length == 2 && parts.day.length == 2)

/-! ### Scalars -/

/-- **The kind of a scalar without quotes and without a tag.** -/
def Tag.ofPlain (cs : List Char) : Tag :=
  let s := String.ofList cs
  if truthWords.contains s then .truth
  else if isDouble cs then .double
  else if isInteger cs then .integer
  else if s = "<<" then .merge
  else if nullWords.contains s then .null
  else if isMoment cs then .moment
  else if s = "=" then .default
  else .text

end FixedWidth.Yaml
