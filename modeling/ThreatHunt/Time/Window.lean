import ThreatHunt.Time.Instant

/-!
Windows of time, with both ends inside, and the spans that statements write for them.
-/

namespace ThreatHunt

structure Window where
  start : Instant
  stop : Instant
  deriving DecidableEq, Repr, Inhabited

namespace Window

def contains (w : Window) (t : Instant) : Bool := w.start.le t && t.le w.stop

/-- The clause that writes the window, to the second. -/
def text (w : Window) : String :=
  "START t'" ++ w.start.text .seconds ++ "' STOP t'" ++ w.stop.text .seconds ++ "'"

end Window

inductive TimeUnit where
  | days
  | hours
  | minutes
  | seconds
  deriving DecidableEq, Repr, Inhabited

namespace TimeUnit

def name : TimeUnit → String
  | .days => "Days"
  | .hours => "Hours"
  | .minutes => "Minutes"
  | .seconds => "Seconds"

def length : TimeUnit → Int
  | .days => 86400
  | .hours => 3600
  | .minutes => 60
  | .seconds => 1

/-- The unit that a word names, in the singular or the plural and in any case of letters. -/
def ofWord? (word : String) : Option TimeUnit :=
  let upper := Text.upper word
  if upper == "DAY" || upper == "DAYS" then some .days
  else if upper == "HOUR" || upper == "HOURS" then some .hours
  else if upper == "MINUTE" || upper == "MINUTES" then some .minutes
  else if upper == "SECOND" || upper == "SECONDS" then some .seconds
  else none

end TimeUnit

/-- A window as a statement writes it. -/
inductive TimeSpan where
  | absolute (window : Window)
  /-- The time up to now. -/
  | last (amount : Int) (unit : TimeUnit)
  deriving DecidableEq, Repr, Inhabited

namespace TimeSpan

/-- The longest span in seconds: its milliseconds fit into 64 bits. -/
def longest : Int := 9223372036854775

/-- The least multiple of `granule` seconds after the current second, or the current time if it is
one. -/
def roundUp (now : Instant) (granule : Int) : Int :=
  if now.second.tmod granule = 0 ∧ now.nano = 0 then now.second
  else (now.second.tdiv granule + 1) * granule

/-- The end of a window up to now: the time rounded up, or the time itself where the rounded one is
outside the calendar. -/
def stopAt (now : Instant) (granularity : Nat) : Instant :=
  let granule : Int := min (max granularity 1 : Nat) Text.maxInt64
  let rounded := roundUp now granule
  if Instant.isRepresentable rounded then ⟨rounded, 0⟩ else now

/-- The window that a span stands for; none if it begins outside the calendar. -/
def resolve? (now : Instant) (granularity : Nat) : TimeSpan → Option Window
  | .absolute window => some window
  | .last amount unit =>
    let stop := stopAt now granularity
    let length := amount * unit.length
    if -longest ≤ length ∧ length ≤ longest then
      (stop.shift? (-length)).map (fun start => ⟨start, stop⟩)
    else none

end TimeSpan
end ThreatHunt
