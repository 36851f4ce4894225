import ThreatHunt.Hunt.Plan
import ThreatHunt.Table.Group
import ThreatHunt.Table.Join
import ThreatHunt.Table.Refine

/-!
Plans that derive tables from the tables of variables, without any request.
-/

namespace ThreatHunt.Scene

/-- Plans another name for a table. -/
def planAssign (s : Scene) (input : String) : Except HuntError Plan := do
  let v ← s.operand (some input)
  let t ← s.tableOf v
  return .ready (s.single t [v.id] [])

/-- A refinement whose pattern has no references any more. -/
def prepareRefinement (s : Scene) (entityType : String) (r : Refinement) :
    Except HuntError Refinement := do
  let pattern ← s.preparePattern entityType r.pattern
  return { r with pattern := pattern }

/-- Plans a narrowed table. -/
def planRefine (s : Scene) (input : String) (r : Refinement) : Except HuntError Plan := do
  let v ← s.operand (some input)
  let t ← s.tableOf v
  let prepared ← s.prepareRefinement v.entityType r
  let refined ← Table.refine s.config.defaultOrder t prepared
  return .ready (s.single refined (addNodes [v.id] (s.referencedNodes? r.pattern)) [])

/-- Plans a sorted table. -/
def planSort (s : Scene) (input : Option String) (key : SortKey) : Except HuntError Plan := do
  let v ← s.operand input
  let t ← s.tableOf v
  t.schema.checkAttributes [key.attr] "SORT"
  let rows := Table.sortRows key.attr (key.order.getD s.config.defaultOrder) t.rows
  return .ready (s.single (Table.ofSchema t.schema rows) [v.id] [])

/-- Plans a table of groups. -/
def planGroup (s : Scene) (input : Option String) (keys : List String)
    (aggregations : List Aggregation) : Except HuntError Plan := do
  let v ← s.operand input
  let t ← s.tableOf v
  t.schema.checkAttributes keys "GROUP BY"
  Aggregation.checkAll t.schema (Table.aggregationsOrCount aggregations)
  let rows := Table.groupRows keys aggregations t.rows
  return .ready (s.single (Table.ofRows v.entityType rows) [v.id] [])

/-- The attributes of a join; without any the identifiers. -/
def joinKeys (keys : Option (String × String)) : String × String := keys.getD ("id", "id")

/-- Plans the join of two tables. -/
def planJoin (s : Scene) (left right : String) (keys : Option (String × String)) :
    Except HuntError Plan := do
  let a ← s.operand (some left)
  let b ← s.operand (some right)
  if !compatibleTypes a.entityType b.entityType then
    throw (.typeMismatch (.join left a.entityType right b.entityType))
  let (leftAttr, rightAttr) := joinKeys keys
  let leftTable ← s.tableOf a
  let rightTable ← s.tableOf b
  leftTable.schema.checkAttributes [leftAttr] "JOIN"
  rightTable.schema.checkAttributes [rightAttr] "JOIN"
  let unified := Schema.unify [leftTable.schema, rightTable.schema]
  let type := if a.entityType = genericType then b.entityType else a.entityType
  let schema := { unified.schema with entityType := type }
  let rows := Table.conformRows schema (Table.joinRows leftTable rightTable leftAttr rightAttr)
  return .ready { s.single (Table.ofSchema schema rows) [a.id, b.id] [] with
    warnings := unified.conflicts.map Warning.conflict }

/-- The operands of a merge with their tables. Each type must be compatible with that of the first
operand. -/
def mergeOperands (s : Scene) (first : String) :
    Option Table → List String → Except HuntError (List (Variable × Table))
  | _, [] => .ok []
  | head, name :: rest => do
    let v ← s.operand (some name)
    match head with
    | some t =>
      if !compatibleTypes t.entityType v.entityType then
        throw (.typeMismatch (.merge name v.entityType first t.entityType))
    | none => pure ()
    let t ← s.tableOf v
    let others ← mergeOperands s first (head.orElse (fun _ => some t)) rest
    return (v, t) :: others

/-- The type of merged tables: their common one, or the first that is not generic. -/
def mergeType (common : String) (tables : List Table) : String :=
  if common = genericType then
    ((tables.find? (fun t => t.entityType != genericType)).map Table.entityType).getD genericType
  else common

/-- Plans the union of tables. -/
def planMerge (s : Scene) (inputs : List String) : Except HuntError Plan := do
  let operands ← s.mergeOperands (inputs.head?.getD "") none inputs
  let tables := operands.map Prod.snd
  let unified := Schema.unify (tables.map Table.schema)
  let schema := { unified.schema with entityType := mergeType unified.schema.entityType tables }
  let rows := Table.conformRows schema (Table.unionRows tables)
  let lineage := addNodes [] (operands.map (fun o => o.1.id))
  return .ready { s.single (Table.ofSchema schema rows) lineage [] with
    warnings := unified.conflicts.map Warning.conflict }

end ThreatHunt.Scene
