import ThreatHunt.Time.Instant
import ThreatHunt.Text.Words
import ThreatHunt.Text.Located

/-!
Reading instants. Three forms are read: the strict RFC 3339 form, a relaxed one that documents may
use for edge times and windows, and the forms that hunters type, where a zone and a clock may be
left out.
-/

namespace ThreatHunt.Instant

/-- Why a text names no instant. -/
inductive ReadFault where
  | tooShort
  | tooLong
  | invalid
  | outOfRange
  | impossible
  deriving DecidableEq, Repr

def ReadFault.message : ReadFault → String
  | .tooShort => "premature end of input"
  | .tooLong => "trailing input"
  | .invalid => "input contains invalid characters"
  | .outOfRange => "input is out of range"
  | .impossible => "no possible date and time matching input"

/-- A reader takes a part off the front of a text. -/
abbrev Reader (α : Type) := List Char → Except ReadFault (α × List Char)

/-- At least `least` and at most `most` digits. -/
def number (least : Nat) (most : Option Nat) : Reader Nat := fun cs =>
  let span := match most with
    | some n => cs.take n
    | none => cs
  let digits := span.takeWhile Char.isDigit
  if Text.byteLength cs < least then .error .tooShort
  else if digits.length < least then .error .invalid
  else if Text.maxInt64 < Text.digitsValue digits then .error .outOfRange
  else .ok (Text.digitsValue digits, cs.drop digits.length)

/-- A number inside bounds. -/
def bounded (reader : Reader Nat) (low high : Nat) : Reader Nat := fun cs => do
  let (n, rest) ← reader cs
  if low ≤ n ∧ n ≤ high then .ok (n, rest) else .error .outOfRange

/-- One given character. -/
def mark (c : Char) : Reader Unit
  | [] => .error .tooShort
  | d :: rest => if d == c then .ok ((), rest) else .error .invalid

/-- The digits after a point; those beyond nanoseconds are dropped. -/
def fractionDigits : Reader Nat := fun cs => do
  let (n, rest) ← number 1 (some 9) cs
  .ok (n * Nat.pow 10 (9 - (cs.length - rest.length)), rest.dropWhile Char.isDigit)

/-- A fraction of a second, if a point follows. -/
def fraction : Reader Nat
  | '.' :: rest => fractionDigits rest
  | cs => .ok (0, cs)

/-- A zone as seconds east: `Z`, or a sign, two digits of hours and two of minutes. -/
def zone (separator : Reader Unit) : Reader Int := fun cs => do
  match cs with
  | [] => .error .tooShort
  | 'Z' :: rest => .ok (0, rest)
  | 'z' :: rest => .ok (0, rest)
  | sign :: rest =>
    let negative := sign == '-' || sign == '\u2212'
    if !negative && sign != '+' then .error .invalid
    else
      let (hours, rest) ← number 2 (some 2) rest
      let ((), rest) ← separator rest
      let (minutes, rest) ← bounded (number 2 (some 2)) 0 59 rest
      let seconds : Int := (hours * 3600 + minutes * 60 : Nat)
      .ok (if negative then -seconds else seconds, rest)

/-- The fields of a date and a clock. -/
structure Fields where
  date : Calendar.Date
  hour : Nat
  minute : Nat
  second : Nat
  nano : Nat

/-- The instant that fields name in a zone; second 60 is a leap second. -/
def ofFields (f : Fields) (zone : Int) : Except ReadFault Instant :=
  if !f.date.isValid then .error .outOfRange
  else if zone ≤ -86400 ∨ 86400 ≤ zone then .error .outOfRange
  else
    let second := if f.second = 60 then 59 else f.second
    let leap := if f.second = 60 then billion else 0
    let total := Calendar.dayNumber f.date * 86400 +
      (f.hour * 3600 + f.minute * 60 + second : Nat) - zone
    if isRepresentable total then .ok ⟨total, f.nano + leap⟩ else .error .impossible

/-- A field of two digits at most, with blanks before it. -/
def looseField (low high : Nat) : Reader Nat := fun cs =>
  bounded (number 1 (some 2)) low high (cs.dropWhile Text.isBlank)

/-- A year: up to four digits, or a sign and any number of digits. -/
def looseYear : Reader Int := fun cs => do
  let (year, rest) ← match cs.dropWhile Text.isBlank with
    | '-' :: rest => (fun (n, r) => (-(n : Int), r)) <$> number 1 none rest
    | '+' :: rest => (fun (n, r) => ((n : Int), r)) <$> number 1 none rest
    | rest => (fun (n, r) => ((n : Int), r)) <$> number 1 (some 4) rest
  if year < -2147483648 ∨ 2147483647 < year then .error .outOfRange else .ok (year, rest)

/-- Drops blanks where `relaxed` allows them. -/
def gap (relaxed : Bool) (cs : List Char) : List Char :=
  if relaxed then cs.dropWhile Text.isBlank else cs

/-- Year, month and day with loose fields. -/
def looseDate (relaxed : Bool) : Reader Calendar.Date := fun cs => do
  let (year, rest) ← looseYear cs
  let ((), rest) ← mark '-' (gap relaxed rest)
  let (month, rest) ← looseField 1 12 rest
  let ((), rest) ← mark '-' (gap relaxed rest)
  let (day, rest) ← looseField 1 31 rest
  .ok (⟨year, month, day⟩, rest)

/-- Hour, minute and second with loose fields, on a date that was read before. -/
def looseClock (relaxed : Bool) (date : Calendar.Date) : Reader Fields := fun cs => do
  let (hour, rest) ← looseField 0 23 cs
  let ((), rest) ← mark ':' (gap relaxed rest)
  let (minute, rest) ← looseField 0 59 rest
  let ((), rest) ← mark ':' (gap relaxed rest)
  let (second, rest) ← looseField 0 60 rest
  let (nano, rest) ← fraction rest
  .ok (⟨date, hour, minute, second, nano⟩, rest)

/-- The character between date and clock. -/
def clockMark : Reader Unit
  | [] => .error .tooShort
  | c :: rest => if c == 't' || c == 'T' || c == ' ' then .ok ((), rest) else .error .invalid

/-- A reader that must use the whole text. -/
def whole {α : Type} (reader : Reader α) (cs : List Char) : Except ReadFault α := do
  let (a, rest) ← reader cs
  if rest = [] then .ok a else .error .tooLong

/-- The strict RFC 3339 fields. -/
def strictFields : Reader (Fields × Int) := fun cs => do
  let (year, rest) ← number 4 (some 4) cs
  let ((), rest) ← mark '-' rest
  let (month, rest) ← bounded (number 2 (some 2)) 1 12 rest
  let ((), rest) ← mark '-' rest
  let (day, rest) ← bounded (number 2 (some 2)) 1 31 rest
  let ((), rest) ← clockMark rest
  let (hour, rest) ← bounded (number 2 (some 2)) 0 23 rest
  let ((), rest) ← mark ':' rest
  let (minute, rest) ← bounded (number 2 (some 2)) 0 59 rest
  let ((), rest) ← mark ':' rest
  let (second, rest) ← bounded (number 2 (some 2)) 0 60 rest
  let (nano, rest) ← fraction rest
  let (offset, rest) ← zone (mark ':') rest
  .ok ((⟨⟨year, month, day⟩, hour, minute, second, nano⟩, offset), rest)

/-- Reads the strict RFC 3339 form. -/
def readStrict (s : String) : Except ReadFault Instant := do
  let (fields, offset) ← whole strictFields s.toList
  ofFields fields offset

/-- Colons and blanks, any number of them. -/
def looseSeparator : Reader Unit := fun cs =>
  .ok ((), cs.dropWhile (fun c => c == ':' || Text.isBlank c))

/-- A zone of the relaxed form, which may also be the word `UTC`. -/
def relaxedZone : Reader Int := fun cs =>
  if Text.sameWord (String.ofList (cs.take 3)) "UTC" then .ok (0, cs.drop 3)
  else zone looseSeparator cs

/-- Reads the relaxed form: short fields, blanks around the marks, any sign of the year. -/
def readRelaxed (s : String) : Except ReadFault Instant := do
  let (date, rest) ← looseDate true s.toList
  let ((), rest) ← clockMark rest
  let (fields, rest) ← looseClock true date rest
  let (offset, rest) ← relaxedZone (rest.dropWhile Text.isBlank)
  if rest.dropWhile Text.isBlank ≠ [] then .error .tooLong
  else ofFields fields offset

/-- A date and a clock without a zone. -/
def readLocal (cs : List Char) : Except ReadFault Instant := do
  let fields ← whole (fun cs => do
    let (date, rest) ← looseDate false cs
    let ((), rest) ← mark 'T' rest
    looseClock false date rest) cs
  ofFields fields 0

/-- A date alone, which stands for its midnight. -/
def readDate (cs : List Char) : Except ReadFault Instant := do
  let date ← whole (looseDate false) cs
  ofFields ⟨date, 0, 0, 0, 0⟩ 0

/-- Reads what hunters type: the strict form, a date and a clock, or a date, with blanks around. -/
def read? (s : String) : Option Instant :=
  let cs := Text.trimChars s.toList
  match readStrict (String.ofList cs) with
  | .ok t => some t
  | .error _ =>
    match readLocal cs with
    | .ok t => some t
    | .error _ => (readDate cs).toOption

end ThreatHunt.Instant
