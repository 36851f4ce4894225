import ThreatHunt.Value.Basic
import ThreatHunt.Time.Reading
import ThreatHunt.Text.Words

/-!
Two orders on values. `compare?` is the one that patterns use: it relates numbers with numbers and
with texts that name numbers, instants with texts that name instants, and leaves the rest
unrelated. `compareTotal` is the one that sorting uses and relates all values.
-/

namespace ThreatHunt.Value

/-- The number that a text names, blanks around it ignored. -/
def readNumber? (s : String) : Option Binary64 := Decimal.read? (Text.trim s)

/-- The order of two comparable values. -/
def compare? : Value → Value → Option Ordering
  | .bool a, .bool b => some (compare a.toNat b.toNat)
  | .int a, .int b => some (compare a b)
  | .int a, .float b => (Binary64.ofInt a).compare? b
  | .float a, .int b => a.compare? (Binary64.ofInt b)
  | .float a, .float b => a.compare? b
  | .str a, .str b => some (compare a b)
  | .time a, .time b => some (a.compare b)
  | .time a, .str s => (Instant.read? s).map (a.compare ·)
  | .str s, .time b => (Instant.read? s).map (·.compare b)
  | .int a, .str s => (readNumber? s).bind (Binary64.ofInt a).compare?
  | .float a, .str s => (readNumber? s).bind a.compare?
  | .str s, .int b => (readNumber? s).bind (·.compare? (Binary64.ofInt b))
  | .str s, .float b => (readNumber? s).bind (·.compare? b)
  | .list as, .list bs => if sameItems as bs then some .eq else none
  | _, _ => none

/-- The place of a value's kind in the total order: nulls come last. -/
def rank : Value → Nat
  | .bool _ => 0
  | .int _ => 1
  | .float _ => 1
  | .time _ => 2
  | .str _ => 3
  | .list _ => 4
  | .null => 5

/-- The order of two numbers of which at least one is a floating point number; an integer comes
before a floating point number of its value. -/
def compareNumbers (x y : Binary64) (xFloats yFloats : Bool) : Ordering :=
  (x.totalCompare y).then (compare xFloats.toNat yFloats.toNat)

/-- Texts that name instants follow all others, in the order of their instants. -/
def compareInstants : Option Instant → Option Instant → Ordering
  | none, none => .eq
  | none, some _ => .lt
  | some _, none => .gt
  | some a, some b => a.compare b

def compareTexts (a b : String) : Ordering :=
  (compareInstants (Instant.read? a) (Instant.read? b)).then (compare a b)

mutual

def compareTotal : Value → Value → Ordering
  | .bool a, .bool b => compare a.toNat b.toNat
  | .int a, .int b => compare a b
  | .int a, .float b => compareNumbers (Binary64.ofInt a) b false true
  | .float a, .int b => compareNumbers a (Binary64.ofInt b) true false
  | .float a, .float b => compareNumbers a b true true
  | .time a, .time b => a.compare b
  | .str a, .str b => compareTexts a b
  | .list as, .list bs => compareItems as bs
  | a, b => compare a.rank b.rank

/-- Lists are compared item by item; a list comes after its beginnings. -/
def compareItems : List Value → List Value → Ordering
  | [], [] => .eq
  | [], _ :: _ => .lt
  | _ :: _, [] => .gt
  | a :: as, b :: bs => (compareTotal a b).then (compareItems as bs)

end

/-- The stable order of a list of values. -/
def sort (vs : List Value) : List Value :=
  vs.mergeSort (fun a b => compareTotal a b != .gt)

end ThreatHunt.Value
