import ThreatHunt.Command.Basic
import ThreatHunt.Pattern.Match
import ThreatHunt.Table.Basic
import ThreatHunt.Value.Order

/-!
Narrowing a table down: the rows that match, sorted, cut, and with the named attributes alone. When
rows are sorted nulls come last in both orders, and rows with equal keys stand in the order of their
identifiers.
-/

namespace ThreatHunt.Table

/-- The order of two keys: nulls last, the others by the total order or its reverse. -/
def compareKeys (order : SortOrder) (a b : Value) : Ordering :=
  match a.isNull, b.isNull with
  | true, true => .eq
  | true, false => .gt
  | false, true => .lt
  | false, false =>
    match order with
    | .ascending => a.compareTotal b
    | .descending => (a.compareTotal b).swap

def compareRows (attr : String) (order : SortOrder) (a b : Entity) : Ordering :=
  (compareKeys order (a.valueOf attr) (b.valueOf attr)).then (compare a.id b.id)

def sortRows (attr : String) (order : SortOrder) (rows : List Entity) : List Entity :=
  rows.mergeSort (fun a b => compareRows attr order a b != .gt)

/-- The rows that match a pattern whose attributes are there. -/
def filterRows (schema : Schema) (rows : List Entity) : Option Pattern →
    Except HuntError (List Entity)
  | none => .ok rows
  | some p => do
    p.checkKinds schema
    schema.checkAttributes (p.comparisons.map Comparison.attr) "WHERE"
    p.check
    return rows.filter (fun e => p.admits e)

/-- The rows in the order of a key; `standard` is the order of a key that names none. -/
def orderRows (standard : SortOrder) (schema : Schema) (rows : List Entity) : Option SortKey →
    Except HuntError (List Entity)
  | none => .ok rows
  | some key => do
    schema.checkAttributes [key.attr] "SORT BY"
    return sortRows key.attr (key.order.getD standard) rows

/-- The rows after the first ones, up to a number. -/
def pageRows (offset limit : Option Nat) (rows : List Entity) : List Entity :=
  let rows := rows.drop (offset.getD 0)
  match limit with
  | some n => rows.take n
  | none => rows

/-- A table with the named attributes alone. The identifier is always there, and a star keeps
everything. -/
def keepAttributes (schema : Schema) (rows : List Entity) : Option (List String) →
    Except HuntError (Schema × List Entity)
  | none => .ok (schema, rows)
  | some attrs => do
    schema.checkAttributes attrs "ATTR"
    if attrs.contains "*" then return (schema, rows)
    else
      let keep := attrs.filter (fun a => a != "id")
      let row := fun (e : Entity) =>
        { e with attributes := e.attributes.filter (fun name _ => keep.contains name) }
      return (schema.project keep, rows.map row)

/-- Applies the clauses of a refinement. -/
def refine (standard : SortOrder) (t : Table) (r : Refinement) : Except HuntError Table := do
  let rows ← filterRows t.schema t.rows r.pattern
  let rows ← orderRows standard t.schema rows r.sort
  let (schema, rows) ← keepAttributes t.schema (pageRows r.offset r.limit rows) r.attrs
  return ⟨t.entityType, { schema with entityType := t.entityType }, rows⟩

end ThreatHunt.Table
