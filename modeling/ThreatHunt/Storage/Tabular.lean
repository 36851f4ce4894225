import ThreatHunt.Json.Reader
import ThreatHunt.Storage.Trouble
import ThreatHunt.Table.Basic
import ThreatHunt.Value.Json

/-!
Records and frames as tables. Records are JSON objects, and a field `type` in all of them names
their type. A frame has two columns of its own for the identifiers and the type; what no column of a
frame can hold becomes text.
-/

namespace ThreatHunt.Records

/-- The field that names the type of a record. -/
def typeField : String := "type"

/-- The type that all records name, if all do. -/
def commonType : Option String → List Json → Except Trouble (Option String)
  | found, [] => .ok found
  | found, record :: rest =>
    match record.strField? typeField, found with
    | none, _ => .ok none
    | some t, none => commonType (some t) rest
    | some t, some first =>
      if first = t then commonType (some t) rest else .error (.mixedTypes first t)

/-- The attributes of a record. -/
def attributes (fields : List (String × Json)) : Dict Value :=
  Dict.ofList (fields.map (fun f => (f.1, Value.ofJson f.2)))

/-- Records of one type as entities; `index` is the place of the first. -/
def entitiesFrom (entityType : String) : Nat → List Json → Except Trouble (List Entity)
  | _, [] => .ok []
  | index, .obj fields :: rest => do
    let more ← entitiesFrom entityType (index + 1) rest
    return Entity.ofRecord entityType (attributes fields) :: more
  | index, _ :: _ => .error (.notRecord index)

/-- Records of one type as entities. -/
def entities (entityType : String) (records : List Json) : Except Trouble (List Entity) :=
  entitiesFrom entityType 0 records

/-- A record without the field that names its type. -/
def withoutType (entityType : String) (record : Json) : Json :=
  match record with
  | .obj fields =>
    if record.strField? typeField = some entityType then .obj (Json.eraseField typeField fields)
    else record
  | record => record

/-- Records as entities of a type: the given one, else the one that they name, else the generic
one. Entities with the same identifier become one. -/
def typed (entityType : Option String) (records : List Json) :
    Except Trouble (String × List Entity) := do
  let entityType ← match entityType with
    | some t => pure t
    | none => (fun t => t.getD genericType) <$> commonType none records
  let rows ← entities entityType (records.map (withoutType entityType))
  return (entityType, Table.mergeRows rows)

end ThreatHunt.Records

namespace ThreatHunt.Tabular

def idColumn : String := "_id"
def typeColumn : String := "_type"

/-- The kind of the cells of a column. -/
def cellKind : Kind → CellKind
  | .int => .int
  | .float => .float
  | .bool => .bool
  | _ => .str

/-- A value as a cell of a column; a value of another kind is null. -/
def cell (kind : CellKind) (v : Value) : Value :=
  match kind, v with
  | .int, .int i => .int i
  | .float, v => (v.number?.map Value.float).getD .null
  | .bool, .bool b => .bool b
  | .str, .null => .null
  | .str, .list items => .str (Value.list items).toJson.compact
  | .str, v => .str v.render
  | _, _ => .null

def column (rows : List Entity) (c : Column) : FrameColumn :=
  let kind := cellKind c.kind
  ⟨c.name, kind, rows.map (fun row => cell kind (row.get c.name))⟩

/-- The first name that stands twice. -/
def repeatedName? : List String → Option String
  | names => (names.zipIdx.find? (fun n => (names.take n.2).contains n.1)).map Prod.fst

/-- The frame of a table. No two columns may have one name. -/
def ofTable (t : Table) : Except Trouble Frame :=
  let own := [⟨idColumn, .str, t.rows.map (fun row => .str row.id)⟩,
    ⟨typeColumn, .str, t.rows.map (fun _ => .str t.entityType)⟩]
  let columns := own ++ t.schema.columns.map (column t.rows)
  match repeatedName? (columns.map FrameColumn.name) with
  | some name => .error (.repeatedColumn name)
  | none => .ok ⟨columns⟩

/-- The value that a text in a column stands for: a list, an instant or itself. -/
def textValue (s : String) : Value :=
  let list? := if s.toList.head? == some '[' then (Json.read s).toOption else none
  match list? with
  | some (.arr items) => Value.ofJson (.arr items)
  | _ => Value.ofJson (.str s)

def cellValue : Value → Value
  | .str s => textValue s
  | v => v

/-- The text that all cells of a column hold, if they do. -/
def uniformText : List Value → Option String
  | [] => none
  | .str s :: rest => if rest.all (fun v => v.str? == some s) then some s else none
  | _ :: _ => none

/-- The type that the column for types names in its first row. -/
def frameType (f : Frame) : Option String :=
  ((f.column? typeColumn).bind (fun c => c.cells.head?)).bind Value.str?

/-- The type that a column of records names in all rows. -/
def recordType (f : Frame) : Option String :=
  (f.column? Records.typeField).bind (fun c => uniformText c.cells)

/-- A row as an entity; `skipped` columns hold no attributes. -/
def entity (entityType : String) (skipped : List String) (cells : List (String × Value)) : Entity :=
  let id := ((cells.find? (fun c => c.1 == idColumn)).map (fun c => cellValue c.2)).bind Value.str?
  let attributes := Dict.ofList ((cells.filter (fun c => !skipped.contains c.1)).map
    (fun c => (c.1, cellValue c.2)))
  match id with
  | some id => ⟨id, attributes⟩
  | none => Entity.ofRecord entityType attributes

/-- The table of a frame, of a given type or of the one that the frame names. The columns keep their
order, unless the rows do not show all of them. -/
def toTable (entityType : Option String) (f : Frame) : Table :=
  let named := entityType.orElse (fun _ => frameType f)
  let ofRecords := if named.isNone then recordType f else none
  let type := (named.orElse (fun _ => ofRecords)).getD genericType
  let skipped := [idColumn, typeColumn] ++ (if ofRecords.isSome then [Records.typeField] else [])
  let rows := (List.range f.height).map (fun i => entity type skipped (f.row i))
  let table := Table.ofRows type (Table.mergeRows rows)
  let projected := table.schema.project (f.names.filter (fun n => !skipped.contains n))
  if projected.columns.length = table.schema.columns.length then { table with schema := projected }
  else table

end ThreatHunt.Tabular
