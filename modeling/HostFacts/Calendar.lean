import HostFacts.Number.Decimal

/-!
# Dates and times of day

A `Date` is a day of the years 1 to 9999, a `Moment` a day with a time to the microsecond and,
where it is known, the distance from universal time in minutes. `Date.check` and `Moment.check` say
which numbers make one, and `Calendar.Fault` which number is out of its range.
-/

namespace HostFacts.Calendar

open HostFacts.Number

/-- A day. -/
structure Date where
  year : Nat
  month : Nat
  day : Nat
  deriving DecidableEq, Repr

/-- A day with a time, and its distance from universal time in minutes if that is known. -/
structure Moment where
  date : Date
  hour : Nat
  minute : Nat
  second : Nat
  microsecond : Nat
  offset : Option Int
  deriving DecidableEq, Repr

/-- The number that is out of its range. -/
inductive Fault where
  | year (year : Nat)
  | month
  | day
  | hour
  | minute
  | second
  /-- A distance of a day or more from universal time, in minutes. -/
  | offset (minutes : Int)
  deriving DecidableEq, Repr

/-- The length of a distance in minutes as days and seconds, the seconds not negative. -/
def spanText (minutes : Int) : String :=
  let days := minutes.fdiv 1440
  let seconds := minutes.fmod 1440 * 60
  let dayPart := s!"days={intText days}"
  if seconds = 0 then dayPart else s!"{dayPart}, seconds={intText seconds}"

/-- The wording of a fault. -/
def Fault.message : Fault → String
  | .year y => s!"year {natText y} is out of range"
  | .month => "month must be in 1..12"
  | .day => "day is out of range for month"
  | .hour => "hour must be in 0..23"
  | .minute => "minute must be in 0..59"
  | .second => "second must be in 0..59"
  | .offset m =>
    "offset must be a timedelta strictly between -timedelta(hours=24) and timedelta(hours=24), " ++
      s!"not datetime.timedelta({spanText m})."

/-- Whether the year has a 29th of February. -/
def isLeap (year : Nat) : Bool := year % 4 == 0 && (year % 100 != 0 || year % 400 == 0)

/-- The number of days of a month. -/
def monthLength (year month : Nat) : Nat :=
  if month = 2 then (if isLeap year then 29 else 28)
  else if month ∈ [4, 6, 9, 11] then 30
  else 31

/-- Accepts a day that exists. -/
def Date.check (d : Date) : Except Fault Date :=
  if d.year < 1 || 9999 < d.year then .error (.year d.year)
  else if d.month < 1 || 12 < d.month then .error .month
  else if d.day < 1 || monthLength d.year d.month < d.day then .error .day
  else .ok d

/-- Accepts a moment whose offset, day and time exist, asked in this order. -/
def Moment.check (m : Moment) : Except Fault Moment := do
  if let some o := m.offset then
    if 1440 ≤ o.natAbs then throw (.offset o)
  let _ ← m.date.check
  if 24 ≤ m.hour then throw .hour
  if 60 ≤ m.minute then throw .minute
  if 60 ≤ m.second then throw .second
  return m

/-- The number of days before the first of January of the year 1, and up to the given day. -/
def Date.ordinal (d : Date) : Nat :=
  let y := d.year - 1
  let before := y * 365 + y / 4 - y / 100 + y / 400
  let months := (List.range (d.month - 1)).foldl (fun n i => n + monthLength d.year (i + 1)) 0
  before + months + d.day

/-- The microseconds of universal time that a moment stands for, offsets taken off. -/
def Moment.instant (m : Moment) : Int :=
  let minutes : Int := (m.date.ordinal * 24 + m.hour) * 60 + m.minute
  let utc := minutes - m.offset.getD 0
  (utc * 60 + m.second) * 1000000 + m.microsecond

/-- Two moments are the same when both know their offset and are one instant, or when neither
knows it and they agree. -/
def Moment.same (a b : Moment) : Bool :=
  a.offset.isSome == b.offset.isSome && a.instant == b.instant

/-- The day as `YYYY-MM-DD`. -/
def Date.text (d : Date) : String :=
  String.ofList <|
    decimalPadded 4 d.year ++ ['-'] ++ decimalPadded 2 d.month ++ ['-'] ++ decimalPadded 2 d.day

/-- An offset as a sign, hours and minutes. -/
def offsetText (minutes : Int) : List Char :=
  (if minutes < 0 then '-' else '+') ::
    (decimalPadded 2 (minutes.natAbs / 60) ++ [':'] ++ decimalPadded 2 (minutes.natAbs % 60))

/-- The moment as `YYYY-MM-DD HH:MM:SS`, with six decimals if they are not zero, and the offset if
it is known. -/
def Moment.text (m : Moment) : String :=
  let clock := decimalPadded 2 m.hour ++ [':'] ++ decimalPadded 2 m.minute ++ [':'] ++
    decimalPadded 2 m.second
  let places := if m.microsecond = 0 then [] else '.' :: decimalPadded 6 m.microsecond
  let zone := (m.offset.map offsetText).getD []
  m.date.text ++ " " ++ String.ofList (clock ++ places ++ zone)

end HostFacts.Calendar
