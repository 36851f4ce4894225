import ThreatHunt.Unicode.Property

/-!
Regular expressions and where they match. A place of a text is the number of characters before it.
An expression takes a set of places, at which matches may start, to the set of places at which they
may end; a set of places is an ascending list.
-/

namespace ThreatHunt

namespace Regex

/-- What a word makes of a place. -/
inductive WordEdge where
  | boundary
  | noBoundary
  | start
  | stop
  /-- No character of a word stands before. -/
  | startHalf
  /-- No character of a word stands after. -/
  | stopHalf
  deriving DecidableEq, Repr, Inhabited

/-- A condition on a place that takes no character. -/
inductive Look where
  | textStart
  | textEnd
  | lineStart
  | lineEnd
  /-- Lines may end in a carriage return, a line feed, or both. -/
  | returnStart
  | returnEnd
  /-- Words are of ASCII characters alone, or of all. -/
  | word (edge : WordEdge) (asciiOnly : Bool)
  deriving DecidableEq, Repr, Inhabited

end Regex

inductive Regex where
  | empty
  | one (chars : CharSet)
  | look (look : Regex.Look)
  | seq (first second : Regex)
  | alt (first second : Regex)
  /-- At least `least` times, and at most `most` times if that is given. -/
  | times (body : Regex) (least : Nat) (most : Option Nat)
  /-- A group whose match could be asked for. -/
  | group (body : Regex)
  deriving DecidableEq, Repr, Inhabited

namespace Regex

def asciiWordChars : CharSet := CharSet.ofTable ["30-39 41-5A 5F 61-7A"]

/-- Whether a character belongs to a word. -/
def isWordChar (asciiOnly : Bool) (c : Char) : Bool :=
  if asciiOnly || c.toNat < 128 then asciiWordChars.has c else Unicode.wordChars.has c

def WordEdge.holds (before after : Bool) : WordEdge → Bool
  | .boundary => before != after
  | .noBoundary => before == after
  | .start => !before && after
  | .stop => before && !after
  | .startHalf => !before
  | .stopHalf => !after

/-- Whether a condition holds between two characters; there is none at an end of the text. -/
def Look.holds (before after : Option Char) : Look → Bool
  | .textStart => before.isNone
  | .textEnd => after.isNone
  | .lineStart => before.isNone || before == some '\n'
  | .lineEnd => after.isNone || after == some '\n'
  | .returnStart =>
    before.isNone || before == some '\n' || (before == some '\r' && after != some '\n')
  | .returnEnd =>
    after.isNone || after == some '\r' || (after == some '\n' && before != some '\r')
  | .word edge asciiOnly =>
    let isWord := fun (c : Option Char) => (c.map (isWordChar asciiOnly)).getD false
    edge.holds (isWord before) (isWord after)

/-- Whether a condition holds at a place of a text. -/
def Look.holdsAt (text : Array Char) (l : Look) (place : Nat) : Bool :=
  l.holds (if place = 0 then none else text[place - 1]?) text[place]?

/-- Whether a character of a set stands at a place. -/
def hasAt (text : Array Char) (chars : CharSet) (place : Nat) : Bool :=
  (text[place]?.map chars.has).getD false

/-- The union of two ascending lists. -/
def merge : List Nat → List Nat → List Nat
  | [], b => b
  | a, [] => a
  | x :: a, y :: b =>
    if x < y then x :: merge a (y :: b)
    else if y < x then y :: merge (x :: a) b
    else x :: merge a b

theorem mem_merge {place : Nat} {a b : List Nat} :
    place ∈ merge a b ↔ place ∈ a ∨ place ∈ b := by
  fun_induction merge a b with
  | case1 b => simp
  | case2 a => simp
  | case3 x a y b _ ih => simp only [List.mem_cons, ih, or_assoc]
  | case4 x a y b _ _ ih =>
    simp only [List.mem_cons, ih]
    grind
  | case5 x a y b _ _ ih =>
    simp only [List.mem_cons, ih]
    grind

/-- What stands in one ascending list and not in another. -/
def minus : List Nat → List Nat → List Nat
  | [], _ => []
  | a, [] => a
  | x :: a, y :: b =>
    if x < y then x :: minus a (y :: b)
    else if y < x then minus (x :: a) b
    else minus a b

/-- The places after any number of characters of a set from one of some places on. The walk is at
`place`, and `carried` says whether the characters before lead there. -/
def run (text : Array Char) (chars : CharSet) : Nat → Nat → Bool → List Nat → List Nat
  | 0, _, _, _ => []
  | _ + 1, _, false, [] => []
  | left + 1, place, carried, starts =>
    let starting := starts.head? = some place
    let here := carried || starting
    let others := if starting then starts.tail else starts
    let more := run text chars left (place + 1) (here && hasAt text chars place) others
    if here then place :: more else more

/-- Applies a step some times, and stops as soon as it changes nothing. -/
def settle (step : List Nat → List Nat) : Nat → List Nat → List Nat
  | 0, places => places
  | n + 1, places =>
    let next := step places
    if next = places then places else settle step n next

/-- The places that some steps reach, at most as many as given; `fresh` are those that the last step
has added to `seen`. No step goes back, so what lies before the next additions is settled. -/
def closure (step : List Nat → List Nat) : Nat → List Nat → List Nat → List Nat
  | 0, seen, fresh => merge seen fresh
  | n + 1, seen, fresh =>
    let seen := merge seen fresh
    match minus (step fresh) seen with
    | [] => seen
    | first :: more =>
      seen.takeWhile (· < first) ++
        closure step n (seen.dropWhile (· < first)) (first :: more)

/-- The places that an expression reaches from some places of a text. -/
def reach (text : Array Char) : Regex → List Nat → List Nat
  | .empty, places => places
  | .one chars, places => (places.filter (hasAt text chars)).map (· + 1)
  | .look l, places => places.filter (l.holdsAt text)
  | .seq first second, places => second.reach text (first.reach text places)
  | .alt first second, places => merge (first.reach text places) (second.reach text places)
  | .times (.one chars) 0 none, places =>
    run text chars (text.size + 1) (places.headD 0) false places
  | .times body least most, places =>
    let start := settle (body.reach text) least places
    closure (body.reach text) ((most.map (· - least)).getD (text.size + 1)) [] start
  | .group body, places => body.reach text places

/-- Whether an expression matches some part of a text. -/
def occursIn (r : Regex) (s : String) : Bool :=
  let text := s.toList.toArray
  !(r.reach text (List.range (text.size + 1))).isEmpty

/-- A list of expressions one after the other. -/
def sequence (rs : List Regex) : Regex := rs.foldr .seq .empty

def char (c : Char) : Regex := .one (.single c)

/-! Expressions in simpler form. -/

/-- Whether all matches are empty. -/
def isWidthless : Regex → Bool
  | .empty => true
  | .one _ => false
  | .look _ => true
  | .seq first second => first.isWidthless && second.isWidthless
  | .alt first second => first.isWidthless && second.isWidthless
  | .times body _ _ => body.isWidthless
  | .group body => body.isWidthless

/-- Whether some match may be empty, as far as the lengths of the parts tell. -/
def mayBeEmpty : Regex → Bool
  | .empty => true
  | .one _ => false
  | .look _ => true
  | .seq first second => first.mayBeEmpty && second.mayBeEmpty
  | .alt first second => first.mayBeEmpty || second.mayBeEmpty
  | .times body least _ => least = 0 || body.mayBeEmpty
  | .group body => body.mayBeEmpty

/-- One expression after another. -/
def followedBy (first second : Regex) : Regex :=
  match first, second with
  | .empty, second => second
  | first, .empty => first
  | first, second => .seq first second

/-- One of two expressions; two sets of characters are one set. -/
def orElse (first second : Regex) : Regex :=
  match first, second with
  | .one a, .one b => .one (a.union b)
  | first, second => .alt first second

/-- A repetition. What has empty matches only need not be repeated. -/
def repeated (body : Regex) (least : Nat) (most : Option Nat) : Regex :=
  let (least, most) :=
    if body.isWidthless then (min least 1, some (min (most.getD 1) 1)) else (least, most)
  if most = some 0 then .empty
  else if least = 1 ∧ most = some 1 then body
  else .times body least most

/-- An expression with the same matches and no groups. -/
def withoutGroups : Regex → Regex
  | .seq first second => .seq first.withoutGroups second.withoutGroups
  | .alt first second => first.withoutGroups.orElse second.withoutGroups
  | .times body least most => .times body.withoutGroups least most
  | .group body => body.withoutGroups
  | r => r

end Regex
end ThreatHunt
