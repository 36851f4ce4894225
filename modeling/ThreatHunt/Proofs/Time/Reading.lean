import Mathlib.Data.List.TakeWhile
import Mathlib.Data.Nat.Digits.Defs
import Mathlib.Tactic.IntervalCases
import ThreatHunt.Proofs.Number.Digits
import ThreatHunt.Proofs.Text.Located
import ThreatHunt.Time.Instant
import ThreatHunt.Time.Reading

/-!
The calendar by day numbers. Each day number has one date, which is a day of its month, and the
number of that date is the day number again. Years count from March here, so that a leap day is the
last day of its year, and 400 of them are a period.
-/

namespace ThreatHunt.Calendar

/-- Whether a year from March, counted in its period, ends with a leap day. -/
def EndsLeap (y : Int) : Prop := (y + 1) % 4 = 0 ∧ ((y + 1) % 100 ≠ 0 ∨ (y + 1) % 400 = 0)

/-- A day of a period lies in one of its 400 years, and only a leap day makes a year longer than 365
days. -/
theorem yearOfEra_bounds {d y : Int} (low : 0 ≤ d) (high : d < 146097)
    (year : (d - d / 1460 + d / 36524 - d / 146096) / 365 = y) :
    (0 ≤ y ∧ y < 400) ∧ 0 ≤ d - (365 * y + y / 4 - y / 100) ∧
      (d - (365 * y + y / 4 - y / 100) < 365 ∨
        d - (365 * y + y / 4 - y / 100) = 365 ∧ EndsLeap y) := by
  unfold EndsLeap
  -- The century of the day settles that of its year, and what is left is linear by fours of years.
  generalize century : d / 36524 = g at year
  have centuries : g = 0 ∨ g = 1 ∨ g = 2 ∨ g = 3 ∨ g = 4 := by omega
  generalize four : y % 4 = r
  have fours : r = 0 ∨ r = 1 ∨ r = 2 ∨ r = 3 := by omega
  have inside : 0 ≤ y ∧ y < 400 := by
    rcases centuries with rfl | rfl | rfl | rfl | rfl <;> omega
  have century' : y / 100 = g - d / 146096 := by
    rcases centuries with rfl | rfl | rfl | rfl | rfl <;> omega
  refine ⟨inside, ?_⟩
  rcases centuries with rfl | rfl | rfl | rfl | rfl <;>
    rcases fours with rfl | rfl | rfl | rfl <;> omega

/-- A day of a year from March lies in one of its twelve months. -/
theorem monthFromMarch_bounds {n m : Int} (low : 0 ≤ n) (high : n ≤ 365)
    (month : (5 * n + 2) / 153 = m) :
    (0 ≤ m ∧ m < 12) ∧ 0 ≤ n - (153 * m + 2) / 5 ∧ n - (153 * m + 2) / 5 ≤ 30 := by
  have months : 0 ≤ m ∧ m < 12 := by omega
  obtain ⟨first, last⟩ := months
  interval_cases m <;> omega

/-- A day number in its parts: the period, the year from March in it, the month of the year and the
day of the month, each counted from zero. -/
structure Parts where
  period : Int
  year : Int
  month : Int
  day : Int

def Parts.dayOfYear (p : Parts) : Int := (153 * p.month + 2) / 5 + p.day

def Parts.number (p : Parts) : Int :=
  p.period * 146097 + (365 * p.year + p.year / 4 - p.year / 100 + p.dayOfYear) - 719468

/-- The date of a day with its parts. -/
def Parts.date (p : Parts) : Date :=
  let month := if p.month < 10 then p.month + 3 else p.month - 9
  ⟨p.year + p.period * 400 + if month ≤ 2 then 1 else 0, month.toNat, (p.day + 1).toNat⟩

structure Parts.Proper (p : Parts) : Prop where
  year : 0 ≤ p.year ∧ p.year < 400
  month : 0 ≤ p.month ∧ p.month < 12
  day : 0 ≤ p.day ∧ p.day ≤ 30
  short : p.dayOfYear < 365 ∨ p.dayOfYear = 365 ∧ EndsLeap p.year
  monthOf : (5 * p.dayOfYear + 2) / 153 = p.month

/-- Each day number has proper parts, and these give its date. -/
theorem exists_parts (n : Int) :
    ∃ p : Parts, p.Proper ∧ p.number = n ∧ ofDayNumber n = p.date := by
  generalize whole : n + 719468 = shifted
  generalize dayOfEra : shifted - shifted.fdiv 146097 * 146097 = d
  have bounds : 0 ≤ d ∧ d < 146097 := by
    rw [Int.fdiv_eq_ediv_of_nonneg _ (by decide)] at dayOfEra
    omega
  generalize year : (d - d / 1460 + d / 36524 - d / 146096) / 365 = y
  obtain ⟨years, first, last⟩ := yearOfEra_bounds bounds.1 bounds.2 year
  generalize dayOfYear : d - (365 * y + y / 4 - y / 100) = k at first last
  have low : k ≤ 365 := by omega
  generalize month : (5 * k + 2) / 153 = m
  obtain ⟨months, days⟩ := monthFromMarch_bounds first low month
  let p : Parts := ⟨shifted.fdiv 146097, y, m, k - (153 * m + 2) / 5⟩
  have own : p.dayOfYear = k := by
    simp only [p, Parts.dayOfYear]
    omega
  refine ⟨p, ⟨years, months, days, own ▸ last, own ▸ month⟩, ?_, ?_⟩
  · rw [Parts.number, own]
    simp only [p]
    omega
  · rw [ofDayNumber]
    simp only [whole, dayOfEra, year, dayOfYear, month, Parts.date, p]

namespace Parts

variable {p : Parts}

theorem Proper.year_date (proper : p.Proper) :
    (if p.date.month ≤ 2 then p.date.year - 1 else p.date.year) = p.year + p.period * 400 := by
  have months := proper.month
  simp only [date]
  split <;> split <;> omega

theorem Proper.month_date (proper : p.Proper) :
    (if p.date.month ≤ 2 then (p.date.month : Int) + 9 else p.date.month - 3) = p.month := by
  have months := proper.month
  simp only [date]
  split <;> split <;> omega

theorem Proper.day_date (proper : p.Proper) : (p.date.day : Int) = p.day + 1 := by
  have days := proper.day
  simp only [date]
  omega

/-- The number of the date of a day is that of the day. -/
theorem Proper.dayNumber_date (proper : p.Proper) : dayNumber p.date = p.number := by
  have years := proper.year
  have period : (p.year + p.period * 400).fdiv 400 = p.period := by
    rw [Int.fdiv_eq_ediv_of_nonneg _ (by decide)]
    omega
  have year : p.year + p.period * 400 - p.period * 400 = p.year := by omega
  simp only [dayNumber, proper.year_date, proper.month_date, proper.day_date, period, year, number,
    dayOfYear]
  omega

theorem EndsLeap.isLeap {y : Int} (ends : EndsLeap y) (period : Int) :
    isLeap (y + period * 400 + 1) = true := by
  unfold EndsLeap at ends
  simp only [Calendar.isLeap, Bool.and_eq_true, Bool.or_eq_true, decide_eq_true_eq, bne_iff_ne]
  omega

/-- The date of a day is a day of its month. -/
theorem Proper.day_le (proper : p.Proper) :
    p.date.day ≤ daysInMonth p.date.year p.date.month := by
  obtain ⟨-, ⟨first, last⟩, days, short, month⟩ := proper
  obtain ⟨period, y, m, day⟩ := p
  simp only [dayOfYear] at *
  interval_cases m
  case «11» =>
    have year : (Parts.mk period y 11 day).date.year = y + period * 400 + 1 := rfl
    have february : daysInMonth (y + period * 400 + 1) 2 =
        if isLeap (y + period * 400 + 1) then 29 else 28 := rfl
    rw [year]
    rcases short with short | ⟨long, leap⟩
    · simp [date, february]
      split <;> omega
    · simp [date, february, EndsLeap.isLeap leap]
      omega
  all_goals
    simp [date, daysInMonth]
    omega

end Parts

/-- The number of the date of a day number is the day number. -/
theorem dayNumber_ofDayNumber (n : Int) : dayNumber (ofDayNumber n) = n := by
  obtain ⟨p, proper, number, date⟩ := exists_parts n
  rw [date, proper.dayNumber_date, number]

/-- The date of a day number in the years of the calendar is a date. -/
theorem isValid_ofDayNumber {n : Int} (first : firstYear ≤ (ofDayNumber n).year)
    (last : (ofDayNumber n).year ≤ lastYear) : (ofDayNumber n).isValid = true := by
  obtain ⟨p, proper, -, date⟩ := exists_parts n
  rw [date] at first last ⊢
  have day := proper.day_le
  have day' := proper.day_date
  have days := proper.day
  have month : 1 ≤ p.date.month ∧ p.date.month ≤ 12 := by
    have months := proper.month
    simp only [Parts.date]
    split <;> omega
  simp only [Date.isValid, Bool.and_eq_true, decide_eq_true_eq]
  omega

/-- Years of four digits are far from the ends of the calendar. -/
theorem isRepresentable_of_year {n : Int} (low : 0 ≤ (ofDayNumber n).year)
    (high : (ofDayNumber n).year ≤ 9999) {s : Nat} (inside : s < 86400) :
    Instant.isRepresentable (n * 86400 + s) = true := by
  obtain ⟨p, proper, number, date⟩ := exists_parts n
  have years := proper.year
  have days := proper.day
  have month := proper.month
  have first : Instant.firstSecond = -8334601228800 := by decide
  have last : Instant.lastSecond = 8210266876799 := by decide
  rw [date, Parts.date] at low high
  rw [Parts.number, Parts.dayOfYear] at number
  simp only [Instant.isRepresentable, first, last, Bool.and_eq_true, decide_eq_true_eq]
  dsimp only at low high
  omega

end ThreatHunt.Calendar

/-!
Instants that are read back. The text to the millisecond of an instant in the years from 0 to 9999
names the instant, if this is a whole number of milliseconds.
-/

namespace ThreatHunt.Instant

open Calendar (ofDayNumber)

/-- Digits of a number with zeros in front. -/
structure Padded (width n : Nat) (ds : List Char) : Prop where
  length : ds.length = width
  digits : ∀ d ∈ ds, d.isDigit = true
  value : Text.digitsValue ds = n

variable {width n : Nat} {ds rest : List Char}

theorem digitsValue_zeros (k : Nat) (ds : List Char) :
    Text.digitsValue (List.replicate k '0' ++ ds) = Text.digitsValue ds := by
  induction k with
  | zero => rfl
  | succ k ih =>
    rw [← ih, List.replicate_succ, List.cons_append]
    rfl

theorem padded_padZeros (some : 0 < width) (small : n < 10 ^ width) :
    Padded width n (Text.padZeros width (Nat.repr n)).toList := by
  have short : (Nat.repr n).toList.length ≤ width := Nat.repr_length n width some small
  have written : (Text.padZeros width (Nat.repr n)).toList =
      List.replicate (width - (Nat.repr n).toList.length) '0' ++ (Nat.repr n).toList := by
    rw [Text.padZeros, String.toList_append, String.toList_ofList, String.length_toList]
  rw [written]
  constructor
  case length =>
    rw [List.length_append, List.length_replicate]
    omega
  case digits =>
    intro d member
    rcases List.mem_append.1 member with zero | digit
    · rw [List.eq_of_mem_replicate zero]
      rfl
    · exact Digits.isDigit_of_mem_repr digit
  case value =>
    rw [digitsValue_zeros]
    exact Digits.value_repr n

/-- As many digits as are asked for are read, whatever follows them. -/
theorem number_padded (padded : Padded width n ds) (small : (n : Int) ≤ Text.maxInt64)
    (rest : List Char) : number width (some width) (ds ++ rest) = .ok (n, rest) := by
  have all : ds.takeWhile Char.isDigit = ds := List.takeWhile_eq_self_iff.2 padded.digits
  have taken : ((ds ++ rest).take width).takeWhile Char.isDigit = ds := by
    rw [← padded.length, List.take_left, all]
  have long : width ≤ Text.byteLength (ds ++ rest) := by
    refine Nat.le_trans ?_ (Text.length_le_byteLength _)
    rw [List.length_append, padded.length]
    exact Nat.le_add_right _ _
  unfold number
  dsimp only
  rw [taken, padded.length, padded.value, if_neg (Nat.not_lt.2 long), if_neg (Nat.lt_irrefl _),
    if_neg (Int.not_lt.2 small), ← padded.length, List.drop_left]

theorem bounded_padded {low high : Nat} (padded : Padded width n ds) (inside : low ≤ n ∧ n ≤ high)
    (small : (n : Int) ≤ Text.maxInt64) (rest : List Char) :
    bounded (number width (some width)) low high (ds ++ rest) = .ok (n, rest) := by
  unfold bounded
  rw [number_padded padded small]
  exact if_pos inside

theorem mark_cons (c : Char) (rest : List Char) : mark c (c :: rest) = .ok ((), rest) := by
  rw [mark, if_pos (beq_self_eq_true c)]

/-- Three digits behind a point are milliseconds. -/
theorem fraction_padded (padded : Padded 3 n ds) (small : (n : Int) ≤ Text.maxInt64) :
    fraction ('.' :: (ds ++ ['Z'])) = .ok (n * 1000000, ['Z']) := by
  have taken : ((ds ++ ['Z']).take 9).takeWhile Char.isDigit = ds := by
    have whole : (ds ++ ['Z']).take 9 = ds ++ ['Z'] := by
      rw [List.take_of_length_le]
      simp [padded.length]
    rw [whole, List.takeWhile_append_of_pos padded.digits,
      List.takeWhile_cons_of_neg (by decide), List.append_nil]
  have long : 1 ≤ Text.byteLength (ds ++ ['Z']) :=
    Nat.le_trans (by simp) (Text.length_le_byteLength _)
  have read : number 1 (some 9) (ds ++ ['Z']) = .ok (n, ['Z']) := by
    unfold number
    dsimp only
    rw [taken, padded.length, padded.value, if_neg (Nat.not_lt.2 long), if_neg (by decide),
      if_neg (Int.not_lt.2 small), ← padded.length, List.drop_left]
  rw [fraction, fractionDigits, read]
  simp [bind, Except.bind, padded.length]

/-- The fields of a text with each of them in its place. -/
theorem strictFields_written {year month day hour minute second millis : Nat}
    {ys ms ds hs ns ss fs : List Char} (years : Padded 4 year ys) (months : Padded 2 month ms)
    (days : Padded 2 day ds) (hours : Padded 2 hour hs) (minutes : Padded 2 minute ns)
    (seconds : Padded 2 second ss) (fraction' : Padded 3 millis fs) (small : year ≤ 9999)
    (month' : 1 ≤ month ∧ month ≤ 12) (day' : 1 ≤ day ∧ day ≤ 31) (hour' : hour ≤ 23)
    (minute' : minute ≤ 59) (second' : second ≤ 60) (millis' : millis ≤ 999) :
    strictFields (ys ++ '-' :: (ms ++ '-' :: (ds ++ 'T' :: (hs ++ ':' :: (ns ++ ':' :: (ss ++
      '.' :: (fs ++ ['Z']))))))) =
      .ok ((⟨⟨year, month, day⟩, hour, minute, second, millis * 1000000⟩, 0), []) := by
  have limit : Text.maxInt64 = 9223372036854775807 := rfl
  have clock : ∀ rest, clockMark ('T' :: rest) = .ok ((), rest) := fun _ => rfl
  have universal : zone (mark ':') ['Z'] = .ok (0, []) := rfl
  simp only [strictFields, bind, Except.bind, mark_cons, clock, universal,
    number_padded years (by omega), bounded_padded months month' (by omega),
    bounded_padded days day' (by omega), bounded_padded hours ⟨Nat.zero_le _, hour'⟩ (by omega),
    bounded_padded minutes ⟨Nat.zero_le _, minute'⟩ (by omega),
    bounded_padded seconds ⟨Nat.zero_le _, second'⟩ (by omega),
    fraction_padded fraction' (by omega)]

/-- The date of an instant in universal time. -/
def date (t : Instant) : Calendar.Date := ofDayNumber (t.second.fdiv 86400)

/-- The second of its day. -/
def secondOfDay (t : Instant) : Nat := (t.second - t.second.fdiv 86400 * 86400).toNat

theorem localText_millis (t : Instant) :
    localText .millis t = yearText t.date.year ++ "-" ++ twoDigits t.date.month ++ "-" ++
      twoDigits t.date.day ++ "T" ++ (twoDigits (t.secondOfDay / 3600) ++ ":" ++
        twoDigits (t.secondOfDay / 60 % 60) ++ ":" ++
        twoDigits (t.secondOfDay % 60 + t.nano / billion)) ++
      ("." ++ Text.padZeros 3 (Nat.repr ((t.nano - t.nano / billion * billion) / 1000000))) := by
  unfold localText date secondOfDay
  dsimp only [fractionText]

theorem toList_parts (year month day hour minute second millis : String) :
    (year ++ "-" ++ month ++ "-" ++ day ++ "T" ++ (hour ++ ":" ++ minute ++ ":" ++ second) ++
      ("." ++ millis) ++ "Z").toList =
      year.toList ++ '-' :: (month.toList ++ '-' :: (day.toList ++ 'T' :: (hour.toList ++
        ':' :: (minute.toList ++ ':' :: (second.toList ++ '.' :: (millis.toList ++ ['Z'])))))) := by
  simp

/-- Whether a text to the millisecond says all of an instant: its year has four digits, and it is a
whole number of milliseconds. A leap second is the last of its minute. -/
structure Millisecond (t : Instant) : Prop where
  year : 0 ≤ t.date.year ∧ t.date.year ≤ 9999
  whole : t.nano % 1000000 = 0
  leap : t.nano < billion ∨ t.nano < 2 * billion ∧ t.second % 60 = 59

namespace Millisecond

variable {t : Instant}

theorem secondOfDay_lt (t : Instant) : t.secondOfDay < 86400 := by
  rw [secondOfDay, Int.fdiv_eq_ediv_of_nonneg _ (by decide)]
  omega

theorem second_eq (t : Instant) :
    t.second = Calendar.dayNumber t.date * 86400 + t.secondOfDay := by
  rw [date, Calendar.dayNumber_ofDayNumber, secondOfDay, Int.fdiv_eq_ediv_of_nonneg _ (by decide)]
  omega

theorem isValid_date (fits : t.Millisecond) : t.date.isValid = true := by
  have low : Calendar.firstYear ≤ 0 := by decide
  have high : 9999 ≤ Calendar.lastYear := by decide
  exact Calendar.isValid_ofDayNumber (Int.le_trans low fits.year.1) (Int.le_trans fits.year.2 high)

theorem date_bounds (fits : t.Millisecond) :
    (1 ≤ t.date.month ∧ t.date.month ≤ 12) ∧ 1 ≤ t.date.day ∧ t.date.day ≤ 31 := by
  have calendar := fits.isValid_date
  have days : Calendar.daysInMonth t.date.year t.date.month ≤ 31 := by
    unfold Calendar.daysInMonth
    repeat' split
    all_goals decide
  simp only [Calendar.Date.isValid, Bool.and_eq_true, decide_eq_true_eq] at calendar
  omega

/-- The parts of the text stand in their places, each with as many digits as it needs. -/
theorem exists_written (fits : t.Millisecond) :
    ∃ ys ms ds hs ns ss fs : List Char,
      (t.text .millis).toList = ys ++ '-' :: (ms ++ '-' :: (ds ++ 'T' :: (hs ++ ':' :: (ns ++
        ':' :: (ss ++ '.' :: (fs ++ ['Z'])))))) ∧
      Padded 4 t.date.year.toNat ys ∧ Padded 2 t.date.month ms ∧ Padded 2 t.date.day ds ∧
      Padded 2 (t.secondOfDay / 3600) hs ∧ Padded 2 (t.secondOfDay / 60 % 60) ns ∧
      Padded 2 (t.secondOfDay % 60 + t.nano / billion) ss ∧
      Padded 3 ((t.nano - t.nano / billion * billion) / 1000000) fs := by
  have clock := secondOfDay_lt t
  obtain ⟨month, day⟩ := fits.date_bounds
  have leaps := fits.leap
  have year := fits.year
  have written : yearText t.date.year = Text.padZeros 4 (Nat.repr t.date.year.toNat) := by
    have positive : ¬t.date.year < 0 := Int.not_lt.2 year.1
    have same : t.date.year.natAbs = t.date.year.toNat := by omega
    rw [yearText, if_pos year, Text.ofInt, if_neg positive, same]
  refine ⟨(yearText t.date.year).toList, (twoDigits t.date.month).toList,
    (twoDigits t.date.day).toList, (twoDigits (t.secondOfDay / 3600)).toList,
    (twoDigits (t.secondOfDay / 60 % 60)).toList,
    (twoDigits (t.secondOfDay % 60 + t.nano / billion)).toList,
    (Text.padZeros 3 (Nat.repr ((t.nano - t.nano / billion * billion) / 1000000))).toList,
    ?_, ?_, ?_, ?_, ?_, ?_, ?_, ?_⟩
  · rw [text, localText_millis, toList_parts]
  · rw [written]
    exact padded_padZeros (by decide) (by omega)
  · exact padded_padZeros (by decide) (by omega)
  · exact padded_padZeros (by decide) (by omega)
  · exact padded_padZeros (by decide) (by omega)
  · exact padded_padZeros (by decide) (by omega)
  · apply padded_padZeros (by decide)
    unfold billion at *
    omega
  · apply padded_padZeros (by decide)
    unfold billion at *
    omega

/-- The fields of the date and the clock of an instant name it. -/
theorem ofFields_parts (fits : t.Millisecond) :
    ofFields ⟨⟨t.date.year.toNat, t.date.month, t.date.day⟩, t.secondOfDay / 3600,
      t.secondOfDay / 60 % 60, t.secondOfDay % 60 + t.nano / billion,
      (t.nano - t.nano / billion * billion) / 1000000 * 1000000⟩ 0 = .ok t := by
  have clock := secondOfDay_lt t
  have second := second_eq t
  have date : (⟨t.date.year.toNat, t.date.month, t.date.day⟩ : Calendar.Date) = t.date := by
    rw [Int.toNat_of_nonneg fits.year.1]
  have representable : isRepresentable t.second = true := by
    rw [second]
    have day : Calendar.dayNumber t.date = t.second.fdiv 86400 :=
      Calendar.dayNumber_ofDayNumber _
    rw [day]
    exact Calendar.isRepresentable_of_year fits.year.1 fits.year.2 clock
  have valid := fits.isValid_date
  obtain ⟨-, whole, leaps⟩ := fits
  have fields : t.secondOfDay / 3600 * 3600 + t.secondOfDay / 60 % 60 * 60 +
      t.secondOfDay % 60 = t.secondOfDay := by omega
  have day : Calendar.dayNumber t.date * 86400 + (t.secondOfDay : Int) - 0 = t.second := by omega
  have last : t.second % 60 = 59 → t.secondOfDay % 60 = 59 := by omega
  have unit : 1000000 ∣ billion := by decide
  have millis : (t.nano - t.nano / billion * billion) / 1000000 * 1000000 =
      t.nano - t.nano / billion * billion :=
    Nat.div_mul_cancel (Nat.dvd_sub (Nat.dvd_of_mod_eq_zero whole) (unit.mul_left _))
  unfold ofFields
  dsimp only
  rw [date, valid, millis]
  by_cases short : t.nano < billion
  case pos =>
    have none : t.nano / billion = 0 := Nat.div_eq_of_lt short
    have second : t.secondOfDay % 60 ≠ 60 := (Nat.mod_lt _ (by decide)).ne
    rw [none, Nat.add_zero, if_neg second, if_neg second, fields, day, representable]
    simp
  case neg =>
    -- A leap second is read as the second before it, with a billion nanoseconds more.
    obtain ⟨bounded, leap⟩ := leaps.resolve_left short
    have long : billion ≤ t.nano := Nat.le_of_not_lt short
    have one : t.nano / billion = 1 :=
      Nat.div_eq_of_lt_le (by rwa [Nat.one_mul]) (by rwa [Nat.one_add])
    have sixty : 59 + 1 = 60 := rfl
    rw [last leap] at fields
    rw [one, last leap, if_pos sixty, if_pos sixty, fields, day, representable, Nat.one_mul,
      Nat.sub_add_cancel long]
    simp

/-- The text to the millisecond names the instant. -/
theorem readStrict_text (fits : t.Millisecond) : readStrict (t.text .millis) = .ok t := by
  obtain ⟨ys, ms, ds, hs, ns, ss, fs, written, years, months, days, hours, minutes, seconds,
    fraction⟩ := fits.exists_written
  have clock := secondOfDay_lt t
  have year := fits.year
  have leaps := fits.leap
  obtain ⟨month, day⟩ := fits.date_bounds
  have fields := strictFields_written years months days hours minutes seconds fraction (by omega)
    month day (by omega) (by omega) (by unfold billion at *; omega)
    (by unfold billion at *; omega)
  rw [readStrict, written, Instant.whole, fields]
  exact fits.ofFields_parts

end Millisecond

end ThreatHunt.Instant
