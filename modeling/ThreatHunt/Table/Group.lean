import ThreatHunt.Table.Basic
import ThreatHunt.Value.Order
import ThreatHunt.Command.Basic
import ThreatHunt.Pattern.Match

/-!
Aggregates over rows, and groups of rows that agree in some attributes.
-/

namespace ThreatHunt

namespace Aggregate

/-- The first of the least values. -/
def leastOf : List Value → Value
  | [] => .null
  | v :: vs => vs.foldl (fun best w => if w.compareTotal best == .lt then w else best) v

/-- The last of the greatest values. -/
def greatestOf : List Value → Value
  | [] => .null
  | v :: vs => vs.foldl (fun best w => if w.compareTotal best == .lt then best else w) v

/-- Brings an integer into 64 bits. -/
def clamp (i : Int) : Int := max Text.minInt64 (min i Text.maxInt64)

/-- The sum of floating point numbers, from minus zero on. -/
def sumFloats (xs : List Binary64) : Binary64 := xs.foldl Binary64.add Binary64.negativeZero

def intOf? : Value → Option Int
  | .int i => some i
  | _ => none

/-- The sum of values: an integer that stays within 64 bits if all are integers, else the sum of
those that are numbers. -/
def sumOf (vs : List Value) : Value :=
  if vs.isEmpty then .null
  else if vs.all (fun v => (intOf? v).isSome) then
    .int ((vs.filterMap intOf?).foldl (fun sum i => clamp (sum + i)) 0)
  else .float (sumFloats (vs.filterMap Value.number?))

def averageOf (vs : List Value) : Value :=
  let xs := vs.filterMap Value.number?
  if xs.isEmpty then .null
  else .float ((sumFloats xs).divFinite (Binary64.ofNat xs.length))

/-- The aggregate of an attribute over rows. Nulls do not count, except as rows. -/
def evaluate (func : Aggregate) (attr : String) (rows : List Entity) : Value :=
  let values := (rows.map (fun row => row.valueOf attr)).filter (fun v => !v.isNull)
  match func with
  | .count => if attr == "*" then .int rows.length else .int values.length
  | .distinct => .int (Schema.distinct (values.filterMap Value.matchKey?)).length
  | .least => leastOf values
  | .greatest => greatestOf values
  | .sum => sumOf values
  | .average => averageOf values

end Aggregate

namespace Table

/-- What keeps the keys of two attributes apart. -/
def keySeparator : String := "\u001f"

/-- The key of a row for some attributes. -/
def groupKey (attrs : List String) (row : Entity) : String :=
  keySeparator.intercalate (attrs.map (fun a => (row.valueOf a).matchKey?.getD "null"))

/-- Puts a row into the group of its key, or opens a group at the end. -/
def addToGroup (key : String) (row : Entity) :
    List (String × List Entity) → List (String × List Entity)
  | [] => [(key, [row])]
  | (other, members) :: rest =>
    if other = key then (other, members ++ [row]) :: rest
    else (other, members) :: addToGroup key row rest

/-- The groups of rows in the order of their first members. -/
def groups (attrs : List String) (rows : List Entity) : List (String × List Entity) :=
  rows.foldl (fun gs row => addToGroup (groupKey attrs row) row gs) []

/-- The row of a group: the attributes of its first member, and its aggregates. -/
def groupRow (attrs : List String) (aggregations : List Aggregation)
    (group : String × List Entity) : Entity :=
  let keys := attrs.map (fun a =>
    (a, (group.2.head?.map (fun row => row.valueOf a)).getD .null))
  let results := aggregations.map (fun a => (a.name, a.func.evaluate a.attr group.2))
  ⟨"group--" ++ Digest.ofText group.1, Dict.ofList (keys ++ results)⟩

/-- The aggregations of a group: the number of rows if none is asked for. -/
def aggregationsOrCount (aggregations : List Aggregation) : List Aggregation :=
  if aggregations.isEmpty then [⟨.count, "*", "count"⟩] else aggregations

/-- The rows of the groups of a table. -/
def groupRows (attrs : List String) (aggregations : List Aggregation) (rows : List Entity) :
    List Entity :=
  (groups attrs rows).map (groupRow attrs (aggregationsOrCount aggregations))

end Table

/-- Sums and averages need an attribute that may hold numbers. -/
def Aggregation.check (schema : Schema) (a : Aggregation) : Except HuntError Unit :=
  if a.func = .sum ∨ a.func = .average then
    if a.attr == "*" then .error (.senseless (.aggregateOfRows a.func))
    else
      match schema.kindOf? a.attr with
      | some kind =>
        if [Kind.str, .time, .bool, .list].contains kind then
          .error (.typeMismatch (.notNumeric a.func a.attr kind))
        else .ok ()
      | none => .ok ()
  else .ok ()

/-- The aggregations must fit the schema: first their attributes must be there. -/
def Aggregation.checkAll (schema : Schema) (as : List Aggregation) : Except HuntError Unit := do
  schema.checkAttributes (as.map Aggregation.attr) "GROUP WITH"
  as.forM (Aggregation.check schema)

end ThreatHunt
