/-!
# Dates and times

A day of the calendar, alone or with a time of that day, and then perhaps with
the distance of its clock from the common one. A day has to be one that its
month has; the day after the 28th of February is in the calendar every fourth
year, but not in the years that end a century, every fourth one excepted.

Values of this kind only pass through: they are read from a document, compared,
and shown.
-/

namespace FixedWidth

/-- A time of a day. -/
structure TimeOfDay where
  hour : Nat
  minute : Nat
  second : Nat
  microsecond : Nat
deriving DecidableEq, Repr

/-- A day, with a time of it where one is given. -/
structure Moment where
  year : Nat
  month : Nat
  day : Nat
  time : Option TimeOfDay := none
  /-- By how many minutes the clock is before the common one. -/
  offset : Option Int := none
deriving DecidableEq, Repr

/-- Why numbers make no day or time. -/
inductive MomentFlaw where
  | year (n : Nat)
  | month
  | day
  | hour
  | minute
  | second
  | offset (minutes : Int)
deriving DecidableEq, Repr

namespace Moment

/-! ### The calendar -/

/-- Whether a year has a day more. -/
def isLeapYear (year : Nat) : Bool :=
  year % 4 == 0 && (year % 100 != 0 || year % 400 == 0)

/-- How many days a month has. -/
def daysInMonth (year month : Nat) : Nat :=
  if month = 2 then (if isLeapYear year then 29 else 28)
  else if month = 4 || month = 6 || month = 9 || month = 11 then 30
  else 31

/-- The minutes of a day. -/
def minutesOfDay : Nat := 1440

/-- The first flaw of a distance from the common clock, which is less than a
day. -/
def offsetFlaw? : Option Int → Option MomentFlaw
  | none => none
  | some minutes => if minutes.natAbs < minutesOfDay then none else some (.offset minutes)

/-- The first flaw of a day. -/
def dayFlaw? (m : Moment) : Option MomentFlaw :=
  if m.year < 1 || 9999 < m.year then some (.year m.year)
  else if m.month < 1 || 12 < m.month then some .month
  else if m.day < 1 || daysInMonth m.year m.month < m.day then some .day
  else none

/-- The first flaw of a time. -/
def timeFlaw? (t : TimeOfDay) : Option MomentFlaw :=
  if 23 < t.hour then some .hour
  else if 59 < t.minute then some .minute
  else if 59 < t.second then some .second
  else none

/-- The moment, or the first of its flaws: of the offset, of the day, of the
time. -/
def checked (m : Moment) : Except MomentFlaw Moment :=
  match offsetFlaw? m.offset, m.dayFlaw?, m.time.bind timeFlaw? with
  | some flaw, _, _ => .error flaw
  | none, some flaw, _ => .error flaw
  | none, none, some flaw => .error flaw
  | none, none, none => .ok m

/-! ### Comparison -/

/-- The days before a year, from the year one on. -/
def daysBeforeYear (year : Nat) : Nat :=
  (year - 1) * 365 + (year - 1) / 4 - (year - 1) / 100 + (year - 1) / 400

/-- The days before a month of its year. -/
def daysBeforeMonth (year : Nat) : (month : Nat) → Nat
  | 0 => 0
  | 1 => 0
  | m + 2 => daysBeforeMonth year (m + 1) + daysInMonth year (m + 1)

/-- The microseconds from the beginning of the calendar, by the common clock
where the moment's is set against it. -/
def instant (m : Moment) : Int :=
  let days := daysBeforeYear m.year + daysBeforeMonth m.year m.month + m.day
  let t := m.time.getD ⟨0, 0, 0, 0⟩
  let minutes : Int := ((days * 24 + t.hour) * 60 + t.minute : Nat) - m.offset.getD 0
  (minutes * 60 + t.second) * 1000000 + t.microsecond

/-- Whether two moments are the same: days among days, times by no common clock
among such, and others by the instant. -/
def same (a b : Moment) : Bool :=
  a.time.isSome == b.time.isSome && a.offset.isSome == b.offset.isSome && a.instant == b.instant

/-! ### Text -/

/-- A number with so many digits at least. -/
def padded (width n : Nat) : String :=
  String.ofList ((Nat.toDigits 10 n).leftpad width '0')

/-- The distance of a clock from the common one: a sign, hours and minutes. -/
def offsetText (minutes : Int) : String :=
  (if minutes < 0 then "-" else "+") ++ padded 2 (minutes.natAbs / 60) ++ ":" ++
    padded 2 (minutes.natAbs % 60)

/-- A time of a day; fractions of a second are given where there are any. -/
def timeText (t : TimeOfDay) : String :=
  padded 2 t.hour ++ ":" ++ padded 2 t.minute ++ ":" ++ padded 2 t.second ++
    if t.microsecond = 0 then "" else "." ++ padded 6 t.microsecond

/-- A moment, with a mark between the day and the time. -/
def textWith (mark : String) (m : Moment) : String :=
  padded 4 m.year ++ "-" ++ padded 2 m.month ++ "-" ++ padded 2 m.day ++
    match m.time with
    | none => ""
    | some t => mark ++ timeText t ++ (m.offset.map offsetText).getD ""

/-- A moment as a field shows it. -/
def text (m : Moment) : String :=
  m.textWith " "

/-- A span of minutes as a message shows it: whole days, and the seconds beyond
them. -/
def spanText (minutes : Int) : String :=
  let days := minutes.fdiv minutesOfDay
  let seconds := minutes.fmod minutesOfDay * 60
  let parts := (if days = 0 then [] else [s!"days={days}"]) ++
    if seconds = 0 then [] else [s!"seconds={seconds}"]
  "datetime.timedelta(" ++ (if parts.isEmpty then "0" else String.intercalate ", " parts) ++ ")"

/-- A clock's distance from the common one as a message shows it. -/
def clockText (minutes : Int) : String :=
  if minutes = 0 then "datetime.timezone.utc" else "datetime.timezone(" ++ spanText minutes ++ ")"

/-- The numbers of a time as a message shows them: zeros at the end are left
out, from the seconds on. -/
def timeNumbers (t : TimeOfDay) : List Nat :=
  [t.hour, t.minute] ++
    if t.microsecond = 0 then (if t.second = 0 then [] else [t.second])
    else [t.second, t.microsecond]

/-- A moment as a message shows it. -/
def quoted (m : Moment) : String :=
  let day := [m.year, m.month, m.day]
  match m.time with
  | none => "datetime.date(" ++ String.intercalate ", " (day.map toString) ++ ")"
  | some t =>
    let clock := (m.offset.map fun minutes => "tzinfo=" ++ clockText minutes).toList
    "datetime.datetime(" ++
      String.intercalate ", " ((day ++ timeNumbers t).map toString ++ clock) ++ ")"

end Moment

/-- The wording of a moment's flaw. -/
def MomentFlaw.text : MomentFlaw → String
  | year n => s!"year {n} is out of range"
  | month => "month must be in 1..12"
  | day => "day is out of range for month"
  | hour => "hour must be in 0..23"
  | minute => "minute must be in 0..59"
  | second => "second must be in 0..59"
  | offset minutes =>
    "offset must be a timedelta strictly between -timedelta(hours=24) and timedelta(hours=24)" ++
      s!", not {Moment.spanText minutes}."

end FixedWidth
