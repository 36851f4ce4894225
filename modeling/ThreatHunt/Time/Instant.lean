import ThreatHunt.Text.Words

/-!
The proleptic Gregorian calendar, instants of universal time to the nanosecond, and their RFC 3339
text. A leap second is the last second of a minute with a fraction of one second or more.
-/

namespace ThreatHunt.Calendar

structure Date where
  year : Int
  month : Nat
  day : Nat
  deriving DecidableEq, Repr, Inhabited

def isLeap (year : Int) : Bool :=
  year % 4 = 0 && (year % 100 != 0 || year % 400 = 0)

def daysInMonth (year : Int) (month : Nat) : Nat :=
  match month with
  | 2 => if isLeap year then 29 else 28
  | 4 | 6 | 9 | 11 => 30
  | _ => 31

/-- The years of which every day can be told. -/
def firstYear : Int := -262143
def lastYear : Int := 262142

def Date.isValid (d : Date) : Bool :=
  firstYear ≤ d.year && d.year ≤ lastYear && 1 ≤ d.month && d.month ≤ 12 && 1 ≤ d.day &&
    d.day ≤ daysInMonth d.year d.month

/-- Days since 1970-01-01. A year counts from March, so that a leap day ends it. -/
def dayNumber (d : Date) : Int :=
  let year := if d.month ≤ 2 then d.year - 1 else d.year
  let era := year.fdiv 400
  let yearOfEra := year - era * 400
  let monthFromMarch : Int := if d.month ≤ 2 then d.month + 9 else d.month - 3
  let dayOfYear := (153 * monthFromMarch + 2) / 5 + d.day - 1
  let dayOfEra := yearOfEra * 365 + yearOfEra / 4 - yearOfEra / 100 + dayOfYear
  era * 146097 + dayOfEra - 719468

/-- The date of a day number. -/
def ofDayNumber (n : Int) : Date :=
  let shifted := n + 719468
  let era := shifted.fdiv 146097
  let dayOfEra := shifted - era * 146097
  let yearOfEra := (dayOfEra - dayOfEra / 1460 + dayOfEra / 36524 - dayOfEra / 146096) / 365
  let dayOfYear := dayOfEra - (365 * yearOfEra + yearOfEra / 4 - yearOfEra / 100)
  let monthFromMarch := (5 * dayOfYear + 2) / 153
  let day := dayOfYear - (153 * monthFromMarch + 2) / 5 + 1
  let month := if monthFromMarch < 10 then monthFromMarch + 3 else monthFromMarch - 9
  let year := yearOfEra + era * 400 + if month ≤ 2 then 1 else 0
  ⟨year, month.toNat, day.toNat⟩

end ThreatHunt.Calendar

namespace ThreatHunt

structure Instant where
  /-- Seconds since 1970-01-01T00:00:00Z. -/
  second : Int
  /-- Nanoseconds within the second; a leap second has a billion or more. -/
  nano : Nat
  deriving DecidableEq, Repr, Inhabited

namespace Instant

def billion : Nat := 1000000000

/-- Chronological order. -/
def compare (a b : Instant) : Ordering :=
  (Ord.compare a.second b.second).then (Ord.compare a.nano b.nano)

def le (a b : Instant) : Bool := a.compare b != .gt

/-- The first and the last second of the calendar. -/
def firstSecond : Int := Calendar.dayNumber ⟨Calendar.firstYear, 1, 1⟩ * 86400
def lastSecond : Int := Calendar.dayNumber ⟨Calendar.lastYear, 12, 31⟩ * 86400 + 86399

def isRepresentable (second : Int) : Bool := firstSecond ≤ second && second ≤ lastSecond

/-- Moves by whole seconds inside the calendar. A leap second that is left counts as the second
before it when moving on and as the second after it when moving back. -/
def shift? (t : Instant) (seconds : Int) : Option Instant :=
  let start : Instant :=
    if t.nano < billion ∨ seconds = 0 then t
    else if 0 < seconds then ⟨t.second, t.nano - billion⟩
    else ⟨t.second + 1, t.nano - billion⟩
  let second := start.second + seconds
  if isRepresentable second then some ⟨second, start.nano⟩ else none

/-- How many digits of the fraction are written. -/
inductive Precision where
  | seconds
  | millis
  /-- As many groups of three digits as the fraction needs. -/
  | shortest
  deriving DecidableEq, Repr

/-- A year has four digits, and a sign where it has more or is negative. -/
def yearText (year : Int) : String :=
  if 0 ≤ year ∧ year ≤ 9999 then Text.padZeros 4 (Text.ofInt year)
  else (if year < 0 then "-" else "+") ++ Text.padZeros 4 (Nat.repr year.natAbs)

def twoDigits (n : Nat) : String := Text.padZeros 2 (Nat.repr n)

def fractionText (precision : Precision) (nano : Nat) : String :=
  match precision with
  | .seconds => ""
  | .millis => "." ++ Text.padZeros 3 (Nat.repr (nano / 1000000))
  | .shortest =>
    if nano = 0 then ""
    else if nano % 1000000 = 0 then "." ++ Text.padZeros 3 (Nat.repr (nano / 1000000))
    else if nano % 1000 = 0 then "." ++ Text.padZeros 6 (Nat.repr (nano / 1000))
    else "." ++ Text.padZeros 9 (Nat.repr nano)

/-- The RFC 3339 text without a zone. -/
def localText (precision : Precision) (t : Instant) : String :=
  let day := t.second.fdiv 86400
  let secondOfDay := (t.second - day * 86400).toNat
  let date := Calendar.ofDayNumber day
  let leaps := t.nano / billion
  let clock := twoDigits (secondOfDay / 3600) ++ ":" ++ twoDigits (secondOfDay / 60 % 60) ++ ":" ++
    twoDigits (secondOfDay % 60 + leaps)
  yearText date.year ++ "-" ++ twoDigits date.month ++ "-" ++ twoDigits date.day ++ "T" ++ clock ++
    fractionText precision (t.nano - leaps * billion)

/-- The RFC 3339 text in universal time. -/
def text (precision : Precision) (t : Instant) : String := localText precision t ++ "Z"

/-- The RFC 3339 text with a numeric zone. -/
def offsetText (t : Instant) : String := localText .shortest t ++ "+00:00"

end Instant
end ThreatHunt
