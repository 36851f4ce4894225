import ThreatHunt.Regex.Basic

/-!
Regular expressions as they are written. What is written nests, and the depth says how far.
-/

namespace ThreatHunt.Regex

/-- A character as it is written; `asByte` says that it is given as the number of a byte. -/
structure Letter where
  char : Char
  asByte : Bool
  deriving DecidableEq, Repr, Inhabited

/-- The classes of characters that have an escape of one letter. -/
inductive ShortClass where
  | digit
  | space
  | word
  deriving DecidableEq, Repr, Inhabited

/-- What is asked of the properties of characters. -/
inductive Query where
  | name (name : String)
  | value (property value : String)
  deriving DecidableEq, Repr, Inhabited

/-- How two sets in brackets are put together. -/
inductive SetOperator where
  | intersection
  | difference
  | symmetricDifference
  deriving DecidableEq, Repr, Inhabited

/-- What stands in brackets. -/
inductive Members where
  | nothing
  | letter (letter : Letter)
  | range (first last : Letter)
  | ascii (negative : Bool) (chars : CharSet)
  | short (negative : Bool) (kind : ShortClass)
  | property (negative : Bool) (query : Query)
  | bracket (negative : Bool) (members : Members)
  /-- The first of several members, and the others. -/
  | both (first others : Members)
  | combined (op : SetOperator) (left right : Members)
  deriving DecidableEq, Repr, Inhabited

/-- A condition on a place as it is written. -/
inductive Assertion where
  | lineStart
  | lineEnd
  | textStart
  | textEnd
  | word (edge : WordEdge)
  deriving DecidableEq, Repr, Inhabited

/-- What can be switched on and off. -/
inductive Switch where
  | anyCase
  /-- Lines have starts and ends of their own. -/
  | lines
  /-- A dot stands for the ends of lines too. -/
  | dotAll
  /-- Repetitions take as little as they can. -/
  | lazy
  /-- Characters are not only those of ASCII. -/
  | unicode
  /-- Lines may end in a carriage return, a line feed, or both. -/
  | returns
  /-- Blanks and comments are left out. -/
  | spaced
  deriving DecidableEq, Repr, Inhabited

/-- Switches and whether they are set. -/
abbrev Settings := List (Switch × Bool)

/-- What is set for a switch, if anything. -/
def Settings.value? (settings : Settings) (s : Switch) : Option Bool :=
  (settings.find? (fun e => e.1 = s)).map Prod.snd

/-- An expression as it is written. -/
inductive Written where
  | empty
  | settings (settings : Settings)
  | letter (letter : Letter)
  | dot
  | assertion (assertion : Assertion)
  | short (negative : Bool) (kind : ShortClass)
  | property (negative : Bool) (query : Query)
  | bracket (negative : Bool) (members : Members)
  | times (body : Written) (least : Nat) (most : Option Nat)
  | capture (body : Written)
  /-- A group that is not asked for, with settings of its own. -/
  | inner (settings : Settings) (body : Written)
  /-- The first of several expressions in a row, and the others. -/
  | seq (first others : Written)
  /-- The first of several alternatives, and the others. -/
  | alt (first others : Written)
  deriving DecidableEq, Repr, Inhabited

/-- Several members as one. -/
def Members.ofList : List Members → Members
  | [] => .nothing
  | [m] => m
  | m :: others => .both m (ofList others)

def Written.sequence : List Written → Written
  | [] => .empty
  | [w] => w
  | w :: others => .seq w (sequence others)

def Written.alternatives : List Written → Written
  | [] => .empty
  | [w] => w
  | w :: others => .alt w (alternatives others)

/-- How deep members nest. All members of one row count as one level; `inRow` says that those at
hand continue a row. -/
def Members.depth (inRow : Bool) : Members → Nat
  | .bracket _ members => members.depth false + 1
  | .both first others => max (first.depth false) (others.depth true) + (if inRow then 0 else 1)
  | .combined _ left right => max (left.depth false) (right.depth false) + 1
  | _ => 0

/-- How deep an expression nests. All parts of one row count as one level; `inRow` says that the
expression continues a row. -/
def Written.depth (inRow : Bool) : Written → Nat
  | .bracket _ members => members.depth false + 1
  | .times body _ _ => body.depth false + 1
  | .capture body => body.depth false + 1
  | .inner _ body => body.depth false + 1
  | .seq first others => max (first.depth false) (others.depth true) + (if inRow then 0 else 1)
  | .alt first others => max (first.depth false) (others.depth true) + (if inRow then 0 else 1)
  | _ => 0

/-- The greatest depth. -/
def depthLimit : Nat := 250

end ThreatHunt.Regex
