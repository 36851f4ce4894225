import ThreatHunt.Source.Parse
import ThreatHunt.Pattern.Basic

/-!
Reading patterns. `OR` binds least, then `AND`, then `NOT`; groups stand in parentheses or square
brackets.
-/

namespace ThreatHunt.Pattern

open Source (Parse Mark Lexeme)
open Source.Parse

/-- How deep negations and groups may nest. -/
def depthLimit : Nat := 64

/-- The operator of one sign. -/
def signOperator? : Mark → Option Operator
  | .equal => some .equal
  | .notEqual => some .notEqual
  | .less => some .less
  | .lessEqual => some .lessEqual
  | .greater => some .greater
  | .greaterEqual => some .greaterEqual
  | _ => none

/-- The operator that `LIKE`, `MATCHES` or `IN` names. -/
def wordOperator? (word : String) : Option Operator :=
  if Text.sameWord word "LIKE" then some .like
  else if Text.sameWord word "MATCHES" then some .matches
  else if Text.sameWord word "IN" then some .isIn
  else none

def negated : Operator → Operator
  | .like => .notLike
  | .matches => .notMatches
  | .isIn => .notIn
  | op => op

/-- An operator with an operand, or a complete test for null. -/
def operator : Parse Operator := do
  match ← peek with
  | some (.mark m) =>
    match signOperator? m with
    | some op =>
      skip
      return op
    | none => expected "a comparison operator"
  | some (.word s) =>
    match wordOperator? s with
    | some op =>
      skip
      return op
    | none =>
      if ← eatWord "IS" then
        let negative ← eatWord "NOT"
        expectWord "NULL"
        return if negative then .isNotNull else .isNull
      else if ← eatWord "NOT" then
        match ← peek with
        | some (.word s) =>
          match wordOperator? s with
          | some op =>
            skip
            return negated op
          | none => expected "LIKE, MATCHES or IN after NOT"
        | _ => expected "LIKE, MATCHES or IN after NOT"
      else expected "a comparison operator"
  | _ => expected "a comparison operator"

/-- The variable of a reference, if one comes next. -/
def referenceVariable : Parse (Option String) := do
  match ← peek, ← peekSecond with
  | some (.word s), some (.mark .dot) =>
    return if (wordValue? s).isSome then none else some s
  | _, _ => return none

/-- The items of a list after its parenthesis. -/
def listItems : Parse (List Value) := do
  if ← atMark .rightParen then return [] else commaSeparated literal

def operand (op : Operator) : Parse Operand := do
  match ← referenceVariable with
  | some var =>
    skip
    skip
    let attr ← word "an attribute name after '.'"
    return .reference var attr
  | none =>
    if op = .isIn ∨ op = .notIn then
      expectMark .leftParen "'(' or a variable reference after IN"
      let items ← listItems
      expectMark .rightParen "',' or ')'"
      return .list items
    else
      let v ← literal
      return .value v

/-- A comparison with a value that may be null: equality with null tests for null. -/
def comparisonOf (offset : Nat) (entityType : Option String) (attr : String) (op : Operator)
    (operand : Operand) : Parse Comparison :=
  match operand with
  | .value .null =>
    if op = .equal then return ⟨attr, entityType, .isNull, .absent⟩
    else if op = .notEqual then return ⟨attr, entityType, .isNotNull, .absent⟩
    else failAt offset (.nullOperand op.sign)
  | .value (.str _) => return ⟨attr, entityType, op, operand⟩
  | _ =>
    if op.takesPattern then failAt offset (.patternOperand op.sign)
    else return ⟨attr, entityType, op, operand⟩

def comparison : Parse Comparison := do
  let (entityType, attr) ← attributeName
  let offset ← place
  let op ← operator
  if op = .isNull ∨ op = .isNotNull then return ⟨attr, entityType, op, .absent⟩
  else
    let operand ← operand op
    comparisonOf offset entityType attr op operand

/-- One part stands for itself. -/
def group (make : List Pattern → Pattern) : List Pattern → Pattern
  | [one] => one
  | parts => make parts

def conjunction (item : Parse Pattern) : Parse Pattern := do
  let parts ← separated (eatWord "AND") item
  return group .all parts

def disjunction (item : Parse Pattern) : Parse Pattern := do
  let parts ← separated (eatWord "OR") (conjunction item)
  return group .any parts

def failTooDeep {α : Type} : Parse α := do
  let offset ← place
  failAt offset (.tooDeep depthLimit)

/-- A negation, a group or a comparison; `depth` is the nesting that is still allowed. -/
def term (depth : Nat) : Parse Pattern := do
  if ← eatWord "NOT" then
    match depth with
    | 0 => failTooDeep
    | depth + 1 =>
      let part ← term depth
      return .negation part
  else if ← eatMark .leftParen then
    match depth with
    | 0 => failTooDeep
    | depth + 1 =>
      let inner ← disjunction (term depth)
      expectMark .rightParen "')'"
      return inner
  else if ← eatMark .leftBracket then
    match depth with
    | 0 => failTooDeep
    | depth + 1 =>
      let inner ← disjunction (term depth)
      expectMark .rightBracket "']'"
      return inner
  else
    let c ← comparison
    return .test c

/-- A whole pattern. -/
def reading : Parse Pattern := disjunction (term depthLimit)

/-- A pattern and nothing else. -/
def readingAll : Parse Pattern := do
  let p ← reading
  if ← atEnd then return p else expected "end of pattern"

/-- The pattern that a text without comments writes. -/
def read (s : String) : Except Source.Misread Pattern := do
  let stop := Text.byteLength s.toList
  let tokens ← Source.lex s ⟨0, stop⟩
  let (p, _) ← readingAll stop tokens
  return p

end ThreatHunt.Pattern
