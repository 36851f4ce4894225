import ThreatHunt.Regex.Basic

/-!
The size of the machine that looks for an expression. The machine works on the bytes of a text, and
an expression with a machine too large is refused. There is a machine for each direction: the
forward one shares the common ends of the byte sequences of a set and records the ends of groups,
and the backward one shares the common beginnings.
-/

namespace ThreatHunt.Regex

/-- The bytes that one state takes. -/
def stateSize : Nat := 32

/-- The bytes that a state takes for each range of bytes that it reads. -/
def rangeSize : Nat := 8

/-- The bytes that a state takes for each of several states that may come next. -/
def branchSize : Nat := 4

/-- The ranges of the digits to the base 64, most significant first, of the numbers from `low` to
`high`; a number has one digit more than `more`. -/
def digitRanges : Nat → Nat → Nat → List (List (Nat × Nat))
  | 0, low, high => [[(low, high)]]
  | more + 1, low, high =>
    let unit := Nat.pow 64 (more + 1)
    let (a, b) := (low / unit, high / unit)
    let (lowRest, highRest) := (low % unit, high % unit)
    let under := fun (d : Nat × Nat) (rest : List (List (Nat × Nat))) => rest.map (d :: ·)
    if a = b then under (a, a) (digitRanges more lowRest highRest)
    else
      let (first, front) :=
        if lowRest = 0 then (a, []) else (a + 1, under (a, a) (digitRanges more lowRest (unit - 1)))
      let (last, back) :=
        if highRest = unit - 1 then (b, []) else (b - 1, under (b, b) (digitRanges more 0 highRest))
      let middle :=
        if first ≤ last then under (first, last) (digitRanges more 0 (unit - 1)) else []
      front ++ middle ++ back

/-- The blocks of characters with one number of bytes: their bounds, the bytes after the first, and
what the first byte adds to its digit. -/
def utf8Blocks : List (Nat × Nat × Nat × Nat) :=
  [(0, 0x7F, 0, 0), (0x80, 0x7FF, 1, 0xC0), (0x800, 0xD7FF, 2, 0xE0), (0xE000, 0xFFFF, 2, 0xE0),
   (0x10000, 0x10FFFF, 3, 0xF0)]

/-- The sequences of ranges of bytes that write the characters of a range. Bytes after the first are
given by their digits. -/
def byteSequences (r : Nat × Nat) : List (List (Nat × Nat)) :=
  utf8Blocks.flatMap (fun (low, high, more, lead) =>
    let (a, b) := (max low r.1, min high r.2)
    if b < a then []
    else
      (digitRanges more a b).map (fun ds =>
        match ds with
        | (x, y) :: rest => (x + lead, y + lead) :: rest
        | [] => []))

/-- The sequences of a set in ascending order. -/
def setSequences (s : CharSet) : List (List (Nat × Nat)) := s.ranges.flatMap byteSequences

/-- Sequences with one first range together: that range, and the rests. -/
def byFirst (seqs : List (List (Nat × Nat))) : List ((Nat × Nat) × List (List (Nat × Nat))) :=
  seqs.foldr (fun item groups =>
    match item, groups with
    | [], groups => groups
    | d :: rest, (e, rests) :: more =>
      if d = e then (e, rest :: rests) :: more else (d, [rest]) :: (e, rests) :: more
    | d :: rest, [] => [(d, [rest])]) []

/-- What may be left to read of some sequences, in up to `depth` steps. -/
def rests : Nat → List (List (List (Nat × Nat))) → List (List (List (Nat × Nat)))
  | 0, _ => []
  | depth + 1, now =>
    let next := now.flatMap (fun seqs =>
      ((byFirst seqs).map Prod.snd).filter (fun rest => rest != [[]]))
    now ++ rests depth next.eraseDups

/-- The size of a set that shares the ends of sequences. -/
def sharedEndsSize (s : CharSet) : Nat :=
  (rests 4 [setSequences s]).eraseDups.foldl
    (fun size seqs => size + stateSize + rangeSize * (byFirst seqs).length) stateSize

def commonLength : List (Nat × Nat) → List (Nat × Nat) → Nat
  | a :: as, b :: bs => if a = b then commonLength as bs + 1 else 0
  | _, _ => 0

/-- The ranges of sequences in ascending order, those of common beginnings counted once. -/
def distinctRanges (before : List (Nat × Nat)) : List (List (Nat × Nat)) → Nat
  | [] => 0
  | item :: more => item.length - commonLength before item + distinctRanges item more

/-- The size of a set that shares the beginnings of sequences. -/
def sharedStartsSize (s : CharSet) : Nat :=
  let seqs := setSequences s
  2 * stateSize + branchSize * seqs.length + stateSize * distinctRanges [] seqs

/-- The size of a set of characters. -/
def setSize (backward : Bool) (s : CharSet) : Nat :=
  match s.only? with
  | some c => stateSize * c.utf8Size
  | none =>
    if s.isAscii then 2 * stateSize + rangeSize * s.ranges.length
    else if backward then sharedStartsSize s
    else sharedEndsSize s

/-- Whether the last state of a machine is one with several states after it. -/
def endsOpen (backward : Bool) : Regex → Bool
  | .seq first second => if backward then first.endsOpen backward else second.endsOpen backward
  | .times body least most =>
    match most with
    | none => 0 < least || !body.mayBeEmpty
    | some most => least = most && body.endsOpen backward
  | .group body => backward && body.endsOpen backward
  | _ => false

def isAlt : Regex → Bool
  | .alt .. => true
  | _ => false

/-- The size of the machine of an expression, in bytes. -/
def size (backward : Bool) : Regex → Nat
  | .empty => stateSize
  | .one chars => setSize backward chars
  | .look _ => stateSize
  | .seq first second =>
    let inner := if backward then second else first
    first.size backward + second.size backward +
      (if inner.endsOpen backward then branchSize else 0)
  | .alt first second =>
    let branch := fun (r : Regex) (size : Nat) =>
      if r.isAlt then size - 2 * stateSize
      else size + branchSize + (if r.endsOpen backward then branchSize else 0)
    2 * stateSize + branch first (first.size backward) + branch second (second.size backward)
  | .times body least most =>
    let single := body.size backward + (if body.endsOpen backward then branchSize else 0)
    let fork := stateSize + 2 * branchSize
    match least, most with
    | 0, none =>
      if body.mayBeEmpty then single + 2 * fork + stateSize else single + stateSize + branchSize
    | least, none => least * single + stateSize + branchSize
    | 0, some 1 => single + fork + stateSize
    | least, some most =>
      if least = most then least * single
      else max stateSize (least * single) + (most - least) * (single + fork) + stateSize
  | .group body =>
    if backward then body.size backward
    else body.size backward + 2 * stateSize + (if body.endsOpen backward then branchSize else 0)

/-- The size of what stands around each machine: the search for a start, the ends of the whole match
and the last state. -/
def frameSize (backward : Bool) : Nat := if backward then 144 else 208

/-- The greatest size of a machine. -/
def sizeLimit : Nat := 10485760

/-- Whether the machines of both directions are small enough. -/
def fits (r : Regex) : Bool :=
  r.size false + frameSize false ≤ sizeLimit && r.size true + frameSize true ≤ sizeLimit

end ThreatHunt.Regex
