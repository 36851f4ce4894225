/-!
Sets of characters. A set is a list of ranges of character numbers, in ascending order and with a
gap between any two; numbers that no character has may stand in a set. Tables write sets as texts.
-/

namespace ThreatHunt

/-- The characters whose numbers stand in some ranges. -/
structure CharSet where
  ranges : List (Nat × Nat)
  deriving DecidableEq, Repr, Inhabited

namespace CharSet

/-- The greatest number of a character. -/
def lastNumber : Nat := 0x10FFFF

/-- Whether a number stands in one of some ranges in ascending order. -/
def inRanges (n : Nat) : List (Nat × Nat) → Bool
  | [] => false
  | r :: rest => if n ≤ r.2 then r.1 ≤ n else inRanges n rest

def holds (s : CharSet) (n : Nat) : Bool := inRanges n s.ranges

def has (s : CharSet) (c : Char) : Bool := s.holds c.toNat

def empty : CharSet := ⟨[]⟩

def any : CharSet := ⟨[(0, lastNumber)]⟩

def ascii : CharSet := ⟨[(0, 127)]⟩

def range (first last : Char) : CharSet := ⟨[(first.toNat, last.toNat)]⟩

def single (c : Char) : CharSet := range c c

/-- Joins ranges that touch; `r` comes first, and the others stand in the order of their starts. -/
def joinFrom (r : Nat × Nat) : List (Nat × Nat) → List (Nat × Nat)
  | [] => [r]
  | s :: rest =>
    if s.1 ≤ r.2 + 1 then joinFrom (r.1, max r.2 s.2) rest else r :: joinFrom s rest

def join : List (Nat × Nat) → List (Nat × Nat)
  | [] => []
  | r :: rest => joinFrom r rest

/-- The set of some ranges in any order. -/
def ofRanges (ranges : List (Nat × Nat)) : CharSet :=
  ⟨join (ranges.mergeSort (fun a b => a.1 ≤ b.1))⟩

def union (a b : CharSet) : CharSet :=
  ⟨join (List.merge a.ranges b.ranges (fun a b => a.1 ≤ b.1))⟩

def unions (sets : List CharSet) : CharSet := ofRanges (sets.flatMap ranges)

/-- The numbers from `next` on that stand in no range. -/
def gaps (next : Nat) : List (Nat × Nat) → List (Nat × Nat)
  | [] => if next ≤ lastNumber then [(next, lastNumber)] else []
  | r :: rest =>
    if next < r.1 then (next, r.1 - 1) :: gaps (r.2 + 1) rest else gaps (max next (r.2 + 1)) rest

def complement (s : CharSet) : CharSet := ⟨gaps 0 s.ranges⟩

def inter (a b : CharSet) : CharSet := (a.complement.union b.complement).complement

def diff (a b : CharSet) : CharSet := (a.complement.union b).complement

def symmDiff (a b : CharSet) : CharSet := (a.diff b).union (b.diff a)

/-- Whether all characters of a set are ASCII. -/
def isAscii (s : CharSet) : Bool := s.ranges.all (fun r => r.2 < 128)

/-- The character of a set that has only one. -/
def only? (s : CharSet) : Option Char :=
  match s.ranges with
  | [(a, b)] => if a = b then some (Char.ofNat a) else none
  | _ => none

/-! Tables. Items stand between blanks, in hexadecimal: `a` is a character, `a-b` a range, and
`a-b/s` each `s`-th character of a range. -/

def hexDigit? (c : Char) : Option Nat :=
  if c.isDigit then some (c.toNat - '0'.toNat)
  else if 'A' ≤ c ∧ c ≤ 'F' then some (c.toNat - 'A'.toNat + 10)
  else none

/-- The hexadecimal numbers of a text with one sign between any two; `n` is what was read of the
first. -/
def numbers (n : Nat) : List Char → List Nat
  | [] => [n]
  | c :: rest =>
    match hexDigit? c with
    | some d => numbers (16 * n + d) rest
    | none => n :: numbers 0 rest

/-- The ranges of one item. -/
def readItem (item : String) : List (Nat × Nat) :=
  match numbers 0 item.toList with
  | [a] => [(a, a)]
  | [a, b] => [(a, b)]
  | [a, b, step] => (List.range ((b - a) / step + 1)).map (fun i => (a + step * i, a + step * i))
  | _ => []

def readTable (lines : List String) : List (Nat × Nat) :=
  lines.flatMap (fun line => (line.splitOn " ").flatMap readItem)

/-- The set that a table writes. -/
def ofTable (lines : List String) : CharSet := ⟨join (readTable lines)⟩

/-- The characters of some tables. -/
def ofTables (tables : List (List String)) : CharSet := ofRanges (tables.flatMap readTable)

end CharSet
end ThreatHunt
