import ThreatHunt.Value.Basic

/-!
Patterns: conditions on the attributes of an entity, joined by `AND`, `OR` and `NOT`.
-/

namespace ThreatHunt

inductive Operator where
  | equal
  | notEqual
  | less
  | lessEqual
  | greater
  | greaterEqual
  | like
  | notLike
  | matches
  | notMatches
  | isIn
  | notIn
  | isNull
  | isNotNull
  deriving DecidableEq, Repr, Inhabited

namespace Operator

def all : List Operator :=
  [.equal, .notEqual, .less, .lessEqual, .greater, .greaterEqual, .like, .notLike, .matches,
   .notMatches, .isIn, .notIn, .isNull, .isNotNull]

def sign : Operator → String
  | .equal => "="
  | .notEqual => "!="
  | .less => "<"
  | .lessEqual => "<="
  | .greater => ">"
  | .greaterEqual => ">="
  | .like => "LIKE"
  | .notLike => "NOT LIKE"
  | .matches => "MATCHES"
  | .notMatches => "NOT MATCHES"
  | .isIn => "IN"
  | .notIn => "NOT IN"
  | .isNull => "IS NULL"
  | .isNotNull => "IS NOT NULL"

/-- The name in documents. -/
def code : Operator → String
  | .equal => "Eq"
  | .notEqual => "Ne"
  | .less => "Lt"
  | .lessEqual => "Le"
  | .greater => "Gt"
  | .greaterEqual => "Ge"
  | .like => "Like"
  | .notLike => "NotLike"
  | .matches => "Matches"
  | .notMatches => "NotMatches"
  | .isIn => "In"
  | .notIn => "NotIn"
  | .isNull => "IsNull"
  | .isNotNull => "IsNotNull"

def isOrdering : Operator → Bool
  | .less | .lessEqual | .greater | .greaterEqual => true
  | _ => false

/-- Whether an operator takes the text of a pattern. -/
def takesPattern : Operator → Bool
  | .like | .notLike | .matches | .notMatches => true
  | _ => false

/-- The operator without its negation, and whether it had one. -/
def positive : Operator → Operator × Bool
  | .notEqual => (.equal, true)
  | .notLike => (.like, true)
  | .notMatches => (.matches, true)
  | .notIn => (.isIn, true)
  | op => (op, false)

end Operator

/-- What an attribute is compared with. -/
inductive Operand where
  | value (value : Value)
  | list (items : List Value)
  /-- The values of an attribute of a variable. -/
  | reference (var attr : String)
  | absent
  deriving Repr, Inhabited

structure Comparison where
  attr : String
  /-- The entity type written before the attribute. -/
  entityType : Option String
  operator : Operator
  operand : Operand
  deriving Repr, Inhabited

inductive Pattern where
  | all (parts : List Pattern)
  | any (parts : List Pattern)
  | negation (part : Pattern)
  | test (comparison : Comparison)
  deriving Repr, Inhabited

namespace Pattern

mutual

/-- The comparisons of a pattern in the order of writing. -/
def comparisons : Pattern → List Comparison
  | .all parts => comparisonsOf parts
  | .any parts => comparisonsOf parts
  | .negation part => comparisons part
  | .test c => [c]

def comparisonsOf : List Pattern → List Comparison
  | [] => []
  | part :: rest => comparisons part ++ comparisonsOf rest

end

/-- The variables that a pattern refers to, with the attributes it reads from them. -/
def references (p : Pattern) : List (String × String) :=
  p.comparisons.filterMap (fun c =>
    match c.operand with
    | .reference var attr => some (var, attr)
    | _ => none)

mutual

/-- Replaces each comparison in the order of writing, up to the first failure. -/
def mapM {ε : Type} (f : Comparison → Except ε Comparison) : Pattern → Except ε Pattern
  | .all parts => (mapPartsM f parts).map .all
  | .any parts => (mapPartsM f parts).map .any
  | .negation part => (mapM f part).map .negation
  | .test c => (f c).map .test

def mapPartsM {ε : Type} (f : Comparison → Except ε Comparison) :
    List Pattern → Except ε (List Pattern)
  | [] => .ok []
  | part :: rest => do
    let part ← mapM f part
    let rest ← mapPartsM f rest
    .ok (part :: rest)

end

end Pattern
end ThreatHunt
