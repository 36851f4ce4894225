/-!
Floating point numbers of 64 bits, kept as their bit pattern. Order is integer order on the pattern,
and every operation computes the exact quotient of two naturals and rounds once, to nearest with
ties to even.
-/

namespace ThreatHunt

/-- A binary floating point number: a sign bit, eleven exponent bits, 52 fraction bits. -/
structure Binary64 where
  bits : UInt64
  deriving DecidableEq, Repr, Inhabited

namespace Binary64

/-- The weight of the sign bit. -/
def signWeight : Nat := 9223372036854775808

/-- The weight of the lowest exponent bit, which is also the hidden bit of a significand. -/
def hiddenBit : Nat := 4503599627370496

/-- The magnitude of infinity; a greater magnitude is not a number. -/
def infinityMagnitude : Nat := 9218868437227405312

def isNegative (x : Binary64) : Bool := signWeight ≤ x.bits.toNat

/-- The pattern without the sign; it grows with the absolute value. -/
def magnitude (x : Binary64) : Nat := x.bits.toNat % signWeight

def ofMagnitude (negative : Bool) (magnitude : Nat) : Binary64 :=
  ⟨UInt64.ofNat (magnitude + if negative then signWeight else 0)⟩

def zero : Binary64 := ofMagnitude false 0
def negativeZero : Binary64 := ofMagnitude true 0
def infinity (negative : Bool) : Binary64 := ofMagnitude negative infinityMagnitude

/-- The quiet number that is not a number. -/
def nan (negative : Bool) : Binary64 := ofMagnitude negative (infinityMagnitude + hiddenBit / 2)

def isNaN (x : Binary64) : Bool := infinityMagnitude < x.magnitude
def isInfinite (x : Binary64) : Bool := x.magnitude == infinityMagnitude
def isFinite (x : Binary64) : Bool := x.magnitude < infinityMagnitude

/-- Order of the numbers: both zeros are 0 and a sign negates the magnitude. -/
def orderKey (x : Binary64) : Int :=
  if x.isNegative then -(x.magnitude : Int) else x.magnitude

/-- Order of all patterns: negative patterns come first, so -0 is just below 0 and each pattern
that is not a number stands beyond the infinity of its sign. -/
def totalKey (x : Binary64) : Int :=
  if x.isNegative then -(x.magnitude : Int) - 1 else x.magnitude

/-- Comparison of numbers; nothing compares with what is not a number. -/
def compare? (x y : Binary64) : Option Ordering :=
  if x.isNaN || y.isNaN then none else some (compare x.orderKey y.orderKey)

def totalCompare (x y : Binary64) : Ordering := compare x.totalKey y.totalKey

/-- Equality of numbers: the zeros are equal, and what is not a number equals nothing. -/
def sameNumber (x y : Binary64) : Bool := x.compare? y == some .eq

/-- The significand of a finite number, as a natural number below 2^53. -/
def significand (x : Binary64) : Nat :=
  if x.magnitude < hiddenBit then x.magnitude else hiddenBit + x.magnitude % hiddenBit

/-- The power of two that scales the significand of a finite number. -/
def exponent (x : Binary64) : Int :=
  if x.magnitude < hiddenBit then -1074 else (x.magnitude / hiddenBit : Nat) - 1075

/-- A natural number times a power of two, as numerator and denominator. -/
def scaled (n : Nat) (power : Int) : Nat × Nat :=
  if 0 ≤ power then (n * Nat.pow 2 power.toNat, 1) else (n, Nat.pow 2 (-power).toNat)

/-- `num / den` to the nearest natural number, a half to the even neighbour. -/
def roundDiv (num den : Nat) : Nat :=
  let whole := num / den
  let twice := 2 * (num % den)
  if den < twice ∨ (den = twice ∧ whole % 2 = 1) then whole + 1 else whole

/-- The magnitude of the number nearest to `num / den`, for a positive denominator. -/
def nearestMagnitude (num den : Nat) : Nat :=
  if num = 0 then 0
  else
    let guess : Int := (num.log2 : Int) - den.log2 - 53
    let quotient := fun power : Int => (scaled num (-power)).1 / (den * (scaled num (-power)).2)
    let power := if 2 * hiddenBit ≤ quotient guess then guess + 1 else guess
    let power := max power (-1074)
    let (n, d) := scaled num (-power)
    let rounded := roundDiv n (den * d)
    let magnitude :=
      if rounded < hiddenBit then rounded
      else (power + 1075).toNat * hiddenBit + (rounded - hiddenBit)
    min magnitude infinityMagnitude

/-- The number nearest to `num / den`, for a positive denominator. -/
def ofRatio (negative : Bool) (num den : Nat) : Binary64 :=
  ofMagnitude negative (nearestMagnitude num den)

def ofInt (i : Int) : Binary64 := ofRatio (i < 0) i.natAbs 1

def ofNat (n : Nat) : Binary64 := ofRatio false n 1

/-- Whether a number is finite and has no fractional part. -/
def isWhole (x : Binary64) : Bool :=
  x.isFinite && (let (n, d) := scaled x.significand x.exponent; n % d == 0)

/-- A finite number in units of 2^-1074, with its sign. -/
def units (x : Binary64) : Int :=
  let n : Int := (x.significand * Nat.pow 2 (x.exponent + 1074).toNat : Nat)
  if x.isNegative then -n else n

/-- The sum; what is not a number passes through, and opposite infinities have no sum. -/
def add (x y : Binary64) : Binary64 :=
  if x.isNaN then x
  else if y.isNaN then y
  else if x.isInfinite then (if y.isInfinite && x.isNegative != y.isNegative then nan true else x)
  else if y.isInfinite then y
  else
    let sum := x.units + y.units
    if sum = 0 then (if x.isNegative && y.isNegative then negativeZero else zero)
    else ofRatio (sum < 0) sum.natAbs (Nat.pow 2 1074)

/-- The product of a finite number with a finite number that is not zero. -/
def mulFinite (x y : Binary64) : Binary64 :=
  let (n, d) := scaled (x.significand * y.significand) (x.exponent + y.exponent)
  ofRatio (x.isNegative != y.isNegative) n d

/-- The quotient of a number by a finite number that is not zero. -/
def divFinite (x y : Binary64) : Binary64 :=
  if !x.isFinite then (if x.isNaN then x else infinity (x.isNegative != y.isNegative))
  else
    let (n, d) := scaled x.significand (x.exponent - y.exponent)
    ofRatio (x.isNegative != y.isNegative) n (d * y.significand)

def neg (x : Binary64) : Binary64 := ofMagnitude (!x.isNegative) x.magnitude

end Binary64
end ThreatHunt
