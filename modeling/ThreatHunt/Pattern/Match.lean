import ThreatHunt.Pattern.Basic
import ThreatHunt.Value.Order
import ThreatHunt.Table.Basic
import ThreatHunt.Regex.Reading
import ThreatHunt.Error.Hunt

/-!
Which entities match a pattern, and which patterns make sense for the rows of a schema.
-/

namespace ThreatHunt

/-! `LIKE`: a percent sign stands for any run of characters and an underscore for one. -/

namespace Like

def isMeta (c : Char) : Bool :=
  ['\\', '.', '+', '*', '?', '(', ')', '|', '[', ']', '\x7b', '\x7d', '^', '$', '#', '&', '-',
   '~'].contains c

/-- One character of a `LIKE` pattern as the text of a regular expression. -/
def charText (c : Char) : List Char :=
  if c == '%' then ['.', '*']
  else if c == '_' then ['.']
  else if isMeta c then ['\\', c]
  else [c]

/-- A `LIKE` pattern as the text of a regular expression for the whole text. -/
def regexText (p : String) : String :=
  "(?s)^" ++ String.ofList (p.toList.flatMap charText) ++ "$"

def charRegex (c : Char) : Regex :=
  if c == '%' then .times (.one .any) 0 none
  else if c == '_' then .one .any
  else .char c

/-- A `LIKE` pattern as a regular expression for the whole text. -/
def regex (p : String) : Regex :=
  .seq (.look .textStart) (.seq (Regex.sequence (p.toList.map charRegex)) (.look .textEnd))

end Like

namespace Comparison

/-- Whether a text matches the pattern that an operator is given. -/
def matchesText (op : Operator) (text pattern : String) : Bool :=
  match op with
  | .like => (Like.regex pattern).occursIn text
  | .matches => ((Regex.ofText? pattern).map (·.withoutGroups.occursIn text)).getD false
  | _ => false

/-- Whether a value that is no list stands in a relation with one value. -/
def relates (op : Operator) (v candidate : Value) : Bool :=
  match op with
  | .equal | .isIn => v.compare? candidate == some .eq
  | .less => v.compare? candidate == some .lt
  | .lessEqual => v.compare? candidate == some .lt || v.compare? candidate == some .eq
  | .greater => v.compare? candidate == some .gt
  | .greaterEqual => v.compare? candidate == some .gt || v.compare? candidate == some .eq
  | _ => (candidate.str?.map (matchesText op v.render)).getD false

/-- The values that an operand holds. -/
def candidates : Operand → List Value
  | .value v => [v]
  | .list items => items
  | _ => []

/-- Whether an operator without negation holds of a value. The text of a pattern is taken from a
single operand. -/
def holdsOf (op : Operator) (operand : Operand) (v : Value) : Bool :=
  match operand with
  | .value candidate => relates op v candidate
  | .list items => !op.takesPattern && items.any (relates op v)
  | _ => false

/-- Whether an entity passes a comparison. Null passes tests for null alone, and a list passes if
one of its items does. -/
def admits (c : Comparison) (e : Entity) : Bool :=
  let v := e.valueOf c.attr
  match c.operator with
  | .isNull => v.isNull
  | .isNotNull => !v.isNull
  | op =>
    let (op, negative) := op.positive
    if v.isNull then false
    else
      let hit := match v with
        | .list items => items.any (holdsOf op c.operand)
        | v => holdsOf op c.operand v
      hit != negative

end Comparison

namespace Pattern

mutual

/-- Whether an entity matches a pattern. -/
def admits (e : Entity) : Pattern → Bool
  | .all parts => admitsAll e parts
  | .any parts => admitsAny e parts
  | .negation part => !admits e part
  | .test c => c.admits e

def admitsAll (e : Entity) : List Pattern → Bool
  | [] => true
  | part :: rest => admits e part && admitsAll e rest

def admitsAny (e : Entity) : List Pattern → Bool
  | [] => false
  | part :: rest => admits e part || admitsAny e rest

end

/-- Whether an entity matches a pattern that may be missing. -/
def admits? (p : Option Pattern) (e : Entity) : Bool := (p.map (admits e)).getD true

end Pattern

/-- Why a comparison cannot be evaluated, if so. -/
def Comparison.fault? (c : Comparison) : Option HuntError :=
  match c.operator, c.operand with
  | .like, .value (.str s) | .notLike, .value (.str s) =>
    if (Like.regex s).fits then none
    else some (.senseless (.largePattern s Regex.sizeLimit))
  | .matches, .value (.str s) | .notMatches, .value (.str s) =>
    if (Regex.read? s).isSome then none else some (.senseless (.invalidExpression s))
  | _, .reference var attr => some (.internal (.unresolvedReference var attr))
  | _, _ => none

namespace Pattern

/-- Fails with the first comparison that cannot be evaluated. -/
def check (p : Pattern) : Except HuntError Unit :=
  match p.comparisons.findSome? Comparison.fault? with
  | some error => .error error
  | none => .ok ()

def check? (p : Option Pattern) : Except HuntError Unit :=
  match p with
  | some p => p.check
  | none => .ok ()

/-- Each type that is written before an attribute must be the type at hand. -/
def checkTypes (entityType : String) (p : Pattern) : Except HuntError Unit :=
  let wrong := p.comparisons.findSome? (fun c =>
    match c.entityType with
    | some written =>
      if written = entityType then none
      else some (HuntError.senseless (.foreignPrefix written c.attr entityType))
    | none => none)
  match wrong with
  | some error => .error error
  | none => .ok ()

/-- Whether a value may be ordered with the values of a column. -/
def ordersWith (kind : Kind) (v : Value) : Bool :=
  match kind with
  | .int | .float =>
    v.number?.isSome || (v.str?.map (fun s => (Value.readNumber? s).isSome)).getD false
  | .time =>
    v.kind == .time || (v.str?.map (fun s => (Instant.read? s).isSome)).getD false
  | .str => v.kind != .bool && v.kind != .list
  | _ => true

/-- Refuses comparisons by order that can never hold for the kind of a column. -/
def checkKinds (schema : Schema) (p : Pattern) : Except HuntError Unit := do
  p.checkTypes schema.entityType
  let wrong := p.comparisons.findSome? (fun c =>
    if !c.operator.isOrdering then none
    else
      match schema.kindOf? c.attr, c.operand with
      | some kind, .value v =>
        if ordersWith kind v then none
        else some (HuntError.typeMismatch (.ordering c.attr kind v))
      | _, _ => none)
  match wrong with
  | some error => .error error
  | none => .ok ()

end Pattern

/-- Each named attribute must be in the schema. A schema without columns takes all names, and a star
stands for whole rows. -/
def Schema.checkAttributes (schema : Schema) (attrs : List String) (clause : String) :
    Except HuntError Unit :=
  if schema.columns.isEmpty then .ok ()
  else
    match attrs.find? (fun a => a != "*" && !schema.has a) with
    | some attr => .error (.senseless (.unknownAttribute clause schema.entityType attr))
    | none => .ok ()

end ThreatHunt
