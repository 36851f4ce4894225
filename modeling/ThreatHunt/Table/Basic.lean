import ThreatHunt.Table.Schema
import ThreatHunt.Value.Text
import ThreatHunt.Digest.Xxh3
import ThreatHunt.Time.Window
import ThreatHunt.Time.Reading

/-!
Entities, tables of them, relationships between them, and what a window of time admits. An entity is
an observed object with an identifier and attributes. Some types name the attributes that identify
their members; the identifier of an entity that comes without one is derived from these, or from all
of its attributes.
-/

namespace ThreatHunt

structure Entity where
  id : String
  attributes : Dict Value
  deriving Inhabited

/-- The attributes that identify the members of a type. -/
def identityAttributes (entityType : String) : List String :=
  if entityType = "process" then ["pid", "name"]
  else if entityType = "directory" then ["path"]
  else if ["file", "mutex", "software"].contains entityType then ["name"]
  else if ["ipv4-addr", "ipv6-addr", "mac-addr", "domain-name", "url", "email-addr"].contains
      entityType then ["value"]
  else if entityType = "user-account" then ["user_id"]
  else if entityType = "windows-registry-key" then ["key"]
  else []

/-- Named values as text, those that are null left out. -/
def keyText (named : List (String × Value)) : String :=
  "|".intercalate ((named.filter (fun e => !e.2.isNull)).map (fun e => e.1 ++ "=" ++ e.2.render))

/-- The key of the identifying attributes, if one of them is there. -/
def naturalKey? (entityType : String) (attributes : Dict Value) : Option String :=
  let named := (identityAttributes entityType).filterMap
    (fun name => (attributes.find? name).map (fun v => (name, v)))
  if named.all (fun e => e.2.isNull) then none else some (keyText named)

/-- An identifier made of the type and a digest of what identifies the entity. -/
def derivedId (entityType : String) (attributes : Dict Value) : String :=
  let key := (naturalKey? entityType attributes).getD (keyText attributes.entries)
  entityType ++ "--" ++ Digest.ofText key

namespace Entity

/-- The entity of a record. Its attribute `id` becomes the identifier; without one the identifier
is derived. -/
def ofRecord (entityType : String) (record : Dict Value) : Entity :=
  let attributes := record.erase "id"
  match record.find? "id" with
  | none | some .null => ⟨derivedId entityType attributes, attributes⟩
  | some v => ⟨v.render, attributes⟩

/-- The value of an attribute; what is missing is null. -/
def get (e : Entity) (name : String) : Value := (e.attributes.find? name).getD .null

/-- The value of an attribute, with the identifier under the name `id`. -/
def valueOf (e : Entity) (name : String) : Value :=
  match e.attributes.find? name with
  | some v => v
  | none => if name == "id" then .str e.id else .null

/-- The key under which sightings of one entity by several sources are the same. -/
def dedupKey (entityType : String) (e : Entity) : String :=
  (naturalKey? entityType e.attributes).getD ("id=" ++ e.id)

/-- Fills what is missing or null from another sighting. -/
def absorb (e other : Entity) : Entity :=
  { e with
    attributes := other.attributes.entries.foldl (fun mine o =>
      match mine.find? o.1 with
      | none | some .null => mine.insert o.1 o.2
      | some _ => mine) e.attributes }

end Entity

/-- Rows of one type. -/
structure Table where
  entityType : String
  schema : Schema
  rows : List Entity
  deriving Inhabited

/-- A directed relationship between two entities by their identifiers. -/
structure Edge where
  relation : String
  source : String
  target : String
  observedAt : Option Instant
  deriving DecidableEq, Repr, Inhabited

namespace Edge

/-- What makes two sightings the same relationship. -/
def key (e : Edge) : String × String × String := (e.relation, e.source, e.target)

/-- Adds the edges that are not there yet, whenever they were seen. -/
def recordAll (known new : List Edge) : List Edge :=
  new.foldl (fun known e =>
    if known.any (fun k => k.key == e.key) then known else known ++ [e]) known

/-- Whether an edge may have been seen inside a window. -/
def within (window : Option Window) (e : Edge) : Bool :=
  match window, e.observedAt with
  | some w, some t => w.contains t
  | _, _ => true

end Edge

namespace Table

/-- The table of rows with the schema that they show. -/
def ofRows (entityType : String) (rows : List Entity) : Table :=
  ⟨entityType, Schema.infer entityType (rows.map Entity.attributes), rows⟩

def ofSchema (schema : Schema) (rows : List Entity) : Table := ⟨schema.entityType, schema, rows⟩

def ids (t : Table) : List String := t.rows.map Entity.id

def isEmpty (t : Table) : Bool := t.rows.isEmpty

/-- Changes the type of a table and of its schema. -/
def retype (t : Table) (entityType : String) : Table :=
  { t with entityType := entityType, schema := { t.schema with entityType := entityType } }

/-- Adds a row, or completes the row that has its identifier. -/
def mergeRow (row : Entity) : List Entity → List Entity
  | [] => [row]
  | first :: rest =>
    if first.id = row.id then first.absorb row :: rest else first :: mergeRow row rest

/-- Rows with the same identifier become one. -/
def mergeRows (rows : List Entity) : List Entity :=
  rows.foldl (fun merged row => mergeRow row merged) []

/-- The union of the rows of tables by identifier. -/
def unionRows (tables : List Table) : List Entity := mergeRows (tables.flatMap Table.rows)

/-- Gives rows a null under every column of a schema that they lack. -/
def conformRows (schema : Schema) (rows : List Entity) : List Entity :=
  rows.map (fun row => { row with attributes := schema.conform row.attributes })

/-- The values that a cell contributes: a list contributes its items, null nothing. -/
def cellValues : Value → List Value
  | .list items => items.filter (fun v => !v.isNull)
  | v => if v.isNull then [] else [v]

/-- Values in the order in which they are first seen, each once. -/
def distinctByKey (vs : List Value) : List Value :=
  (vs.foldl (fun (seen : List String × List Value) v =>
    let key := v.distinctKey
    if seen.1.contains key then seen else (key :: seen.1, v :: seen.2)) ([], [])).2.reverse

/-- The distinct values of an attribute. -/
def distinctValues (t : Table) (attr : String) : List Value :=
  distinctByKey (t.rows.flatMap (fun row => cellValues (row.valueOf attr)))

/-- The rows with certain identifiers, in the order of the table. -/
def rowsWithIds (t : Table) (ids : List String) : List Entity :=
  t.rows.filter (fun row => ids.contains row.id)

end Table

namespace Window

/-- The instant in a value, if it holds or names one. -/
def instantIn : Value → Option Instant
  | .time t => some t
  | .str s => Instant.read? s
  | _ => none

/-- Whether one of the instants of an entity lies inside, or it has none. -/
def admits (timeAttributes : List String) (w : Window) (e : Entity) : Bool :=
  let instants := timeAttributes.filterMap (fun a => instantIn (e.get a))
  instants.isEmpty || instants.any w.contains

/-- Whether a window that may be missing admits an entity. -/
def admits? (timeAttributes : List String) (w : Option Window) (e : Entity) : Bool :=
  (w.map (fun w => w.admits timeAttributes e)).getD true

end Window
end ThreatHunt
