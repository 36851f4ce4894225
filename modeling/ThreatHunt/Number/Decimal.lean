import ThreatHunt.Number.Binary64
import ThreatHunt.Text.Words

/-!
Decimal texts of floating point numbers. Reading rounds the exact decimal once; writing gives the
fewest digits that read back, and of those the nearest. Where the point stands, how an exponent
looks and which way a tie goes are the fields of a `DecimalStyle`.
-/

namespace ThreatHunt.Decimal

/-- The number nearest to `digits · 10^power`. Beyond the range of the format the digits do not
matter, so a huge power is never expanded. -/
def toBinary64 (negative : Bool) (digits : Nat) (power : Int) : Binary64 :=
  let size : Int := (Nat.repr digits).length
  if digits = 0 then Binary64.ofMagnitude negative 0
  else if 310 < size + power then Binary64.infinity negative
  else if size + power < -330 then Binary64.ofMagnitude negative 0
  else if 0 ≤ power then Binary64.ofRatio negative (digits * Nat.pow 10 power.toNat) 1
  else Binary64.ofRatio negative digits (Nat.pow 10 (-power).toNat)

/-- An optional sign: whether it is a minus, and the rest. -/
def splitSign : List Char → Bool × List Char
  | '-' :: cs => (true, cs)
  | '+' :: cs => (false, cs)
  | cs => (false, cs)

/-- Reads the part after an exponent mark: a sign and at least one digit. -/
def readPower? (cs : List Char) : Option Int :=
  let (negative, digits) := splitSign cs
  (Text.readDigits? digits).map (fun n => if negative then -(n : Int) else n)

/-- Reads the unsigned part of a number: digits with an optional point, then an exponent. -/
def readUnsigned? (negative : Bool) (cs : List Char) : Option Binary64 :=
  let whole := cs.takeWhile Char.isDigit
  let rest := cs.dropWhile Char.isDigit
  let (fraction, rest) := match rest with
    | '.' :: more => (more.takeWhile Char.isDigit, more.dropWhile Char.isDigit)
    | _ => ([], rest)
  let power? := match rest with
    | [] => some 0
    | mark :: more => if mark == 'e' || mark == 'E' then readPower? more else none
  if whole ++ fraction = [] then none
  else power?.map (fun power =>
    toBinary64 negative (Text.digitsValue (whole ++ fraction)) (power - fraction.length))

/-- Reads a number: a decimal with an optional sign and exponent, or the word for infinity or for
no number in any case. -/
def read? (s : String) : Option Binary64 :=
  let (negative, cs) := splitSign s.toList
  let word := Text.lower (String.ofList cs)
  if word = "inf" ∨ word = "infinity" then some (Binary64.infinity negative)
  else if word = "nan" then some (Binary64.nan negative)
  else readUnsigned? negative cs

/-- Which neighbour a decimal halfway between two takes. -/
inductive Tie where
  | up
  | even
  deriving DecidableEq, Repr

/-- A number `m · 2^e` on the grid of multiples of `10^k`, in quarters of its last bit. -/
structure Grid where
  value : Nat
  low : Nat
  high : Nat
  step : Nat
  inclusive : Bool

/-- Places the number with significand `m` and exponent `e`, and the interval of all reals that
round to it, on the grid of multiples of `10^k`. -/
def Grid.place (m : Nat) (e k : Int) : Grid :=
  let grow := Nat.pow 2 (e - 2).toNat * Nat.pow 10 (-k).toNat
  let below := if m = Binary64.hiddenBit ∧ -1074 < e then 1 else 2
  { value := 4 * m * grow
    low := (4 * m - below) * grow
    high := (4 * m + 2) * grow
    step := Nat.pow 2 (2 - e).toNat * Nat.pow 10 k.toNat
    inclusive := m % 2 == 0 }

/-- Whether the multiple `c` of the grid reads back as the number. -/
def Grid.holds (g : Grid) (c : Nat) : Bool :=
  if g.inclusive then g.low ≤ c * g.step && c * g.step ≤ g.high
  else g.low < c * g.step && c * g.step < g.high

/-- The multiple nearest to the number among those that read back, if there is one. -/
def Grid.nearest? (tie : Tie) (g : Grid) : Option Nat :=
  let lower := g.value / g.step
  let twice := 2 * (g.value % g.step)
  let preferUpper : Bool := match tie with
    | .up => decide (g.step ≤ twice)
    | .even => g.step < twice || (g.step == twice && lower % 2 == 1)
  match g.holds lower, g.holds (lower + 1) with
  | true, true => some (if preferUpper then lower + 1 else lower)
  | true, false => some lower
  | false, true => some (lower + 1)
  | false, false => none

/-- The place of the first digit: `10^(p-1) ≤ m · 2^e < 10^p` for positive `m`. -/
def firstPlace (m : Nat) (e : Int) : Int :=
  let low := (((m.log2 : Int) + e) * 30103).fdiv 100000
  let (n, d) := Binary64.scaled m e
  let reached :=
    if 0 ≤ low + 1 then Nat.pow 10 (low + 1).toNat * d ≤ n
    else d ≤ n * Nat.pow 10 (-(low + 1)).toNat
  if reached then low + 2 else low + 1

/-- Drops trailing zeros of a digit text. -/
def dropTrailingZeros (ds : List Char) : List Char :=
  (ds.reverse.dropWhile (· == '0')).reverse

/-- The digits of the shortest decimal that reads back and the place of its first digit: the
decimal is `0.d₁d₂… · 10^place`. -/
def shortest (tie : Tie) (m : Nat) (e : Int) : List Char × Int :=
  let place := firstPlace m e
  let found := (List.range 17).findSome? (fun n =>
    let k := place - (n + 1 : Nat)
    ((Grid.place m e k).nearest? tie).map (fun c => (c, k)))
  let (c, k) := found.getD (0, 0)
  let ds := (Nat.repr c).toList
  (dropTrailingZeros ds, k + ds.length)

/-- How a finite number is laid out. -/
structure DecimalStyle where
  /-- The neighbour that a tie takes. -/
  tie : Tie
  /-- The exponents, least and greatest, that are written with a point instead; none means all. -/
  positional : Option (Int × Int)
  /-- What follows a whole number written without an exponent. -/
  wholeSuffix : String
  /-- What stands before an exponent that is not negative. -/
  exponentSign : String

/-- Lays out digits `ds` (not empty) whose first has the given place. -/
def DecimalStyle.layout (style : DecimalStyle) (ds : List Char) (place : Int) : String :=
  let first := place - 1
  let positional := match style.positional with
    | none => true
    | some (least, most) => least ≤ first && first ≤ most
  let size : Int := ds.length
  if positional then
    if place ≤ 0 then "0." ++ String.ofList (List.replicate (-place).toNat '0' ++ ds)
    else if size ≤ place then
      String.ofList (ds ++ List.replicate (place - size).toNat '0') ++ style.wholeSuffix
    else String.ofList (ds.take place.toNat ++ '.' :: ds.drop place.toNat)
  else
    let head := match ds with
      | d :: [] => [d]
      | d :: more => d :: '.' :: more
      | [] => []
    let sign := if first < 0 then "-" else style.exponentSign
    String.ofList head ++ "e" ++ sign ++ Nat.repr first.natAbs

/-- The text of a number in a style. -/
def write (style : DecimalStyle) (x : Binary64) : String :=
  if x.isNaN then "NaN"
  else
    let sign := if x.isNegative then "-" else ""
    let body :=
      if x.isInfinite then "inf"
      else if x.magnitude = 0 then "0" ++ style.wholeSuffix
      else
        let (ds, place) := shortest style.tie x.significand x.exponent
        style.layout ds place
    sign ++ body

/-- Never an exponent, and no point after a whole number. -/
def plain : DecimalStyle :=
  { tie := .up, positional := none, wholeSuffix := "", exponentSign := "" }

/-- Exponents from -5 to 15 are written with a point, a whole number ends in `.0`, and a positive
exponent has its sign. -/
def signedScientific : DecimalStyle :=
  { tie := .even, positional := some (-5, 15), wholeSuffix := ".0", exponentSign := "+" }

/-- As `signedScientific`, without the sign of a positive exponent. -/
def scientific : DecimalStyle :=
  { tie := .even, positional := some (-5, 15), wholeSuffix := ".0", exponentSign := "" }

/-- The text without an exponent. -/
def text (x : Binary64) : String := write plain x

end ThreatHunt.Decimal
