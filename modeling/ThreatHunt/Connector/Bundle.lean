import ThreatHunt.Connector.Basic
import ThreatHunt.Pattern.Match
import ThreatHunt.Storage.Tabular
import ThreatHunt.Table.Document

/-!
Bundles: connectors whose entities and relationships stand in one JSON document. The document maps
types to records, or lists objects that name their types.
-/

namespace ThreatHunt

structure Bundle where
  tables : Dict (List Entity)
  edges : List Edge
  deriving Inhabited

namespace Bundle

def empty : Bundle := ⟨Dict.empty, []⟩

/-- Puts entities behind those of their type. -/
def add (b : Bundle) (entityType : String) (rows : List Entity) : Bundle :=
  { b with tables := b.tables.insert entityType ((b.tables.find? entityType).getD [] ++ rows) }

def addEdges (b : Bundle) (edges : List Edge) : Bundle := { b with edges := b.edges ++ edges }

/-- Adds the tables of a map from types to records. -/
def addTables (b : Bundle) : List (String × Json) → Except Trouble Bundle
  | [] => .ok b
  | (entityType, .arr records) :: rest => do
    let rows ← Records.entities entityType records
    addTables (b.add entityType rows) rest
  | (entityType, _) :: _ => .error (.recordsNotList entityType)

/-- An edge as bundles keep it. -/
def normalEdge (e : Edge) : Edge := { e with relation := Text.lower e.relation }

/-- The edges that a document lists. -/
def readEdges (doc : Json) : Except Trouble (List Edge) :=
  match (Json.Decoder.list Edge.decoder).decodeJson doc with
  | .ok edges => .ok (edges.map normalEdge)
  | .error fault => .error (.within .readingEdges (.json fault))

/-- The edge of a relationship object. -/
def objectEdge? (object : Json) : Option Edge := do
  let relation ← object.strField? "relationship_type"
  let source ← object.strField? "source_ref"
  let target ← object.strField? "target_ref"
  let seen := (object.strField? "start_time").orElse (fun _ => object.strField? "created")
  return normalEdge ⟨relation, source, target, seen.bind Instant.read?⟩

/-- Adds an object; `index` is its place in the list. -/
def addObject (b : Bundle) (index : Nat) (object : Json) : Except Trouble Bundle :=
  match object with
  | .obj fields =>
    match object.strField? Records.typeField with
    | none => .error (.untypedObject index)
    | some "relationship" =>
      match objectEdge? object with
      | some e => .ok (b.addEdges [e])
      | none => .error (.partialRelationship index)
    | some entityType => do
      let rows ← Records.entities entityType [.obj (Json.eraseField Records.typeField fields)]
      return b.add entityType rows
  | _ => .error (.notObject index)

/-- Adds the objects of a list; `index` is the place of the first. -/
def addObjects (b : Bundle) : Nat → List Json → Except Trouble Bundle
  | _, [] => .ok b
  | index, object :: rest => do
    let b ← b.addObject index object
    addObjects b (index + 1) rest

/-- The bundle of a document. -/
def ofJson (doc : Json) : Except Trouble Bundle :=
  match doc.field? "entities", doc with
  | some (.obj tables), _ => do
    let b ← empty.addTables tables
    match doc.field? "edges" with
    | some listed => b.addEdges <$> readEdges listed
    | none => return b
  | some _, _ => .error .entitiesNotObject
  | none, .arr objects => empty.addObjects 0 objects
  | none, _ =>
    if doc.strField? Records.typeField = some "bundle" then
      match doc.field? "objects" with
      | some (.arr objects) => empty.addObjects 0 objects
      | _ => .error .missingObjects
    else .error .unknownBundle

/-- The bundle in a file. -/
def «open» (d : Disk) (path : String) : Except Trouble Bundle := do
  let text ← DiskFault.during (.readingBundle path) (d.readText path)
  let doc ← (Json.read text).mapError (fun fault => .within (.parsingBundle path) (.json fault))
  ofJson doc

/-- A bundle answers for the types and the relations that it holds. -/
def capabilities (b : Bundle) : Capabilities :=
  (Capabilities.ofTypes b.tables.names).withRelations
    (Schema.distinct (b.edges.map Edge.relation))

def entityCount (b : Bundle) : Nat := b.tables.entries.foldr (fun t n => t.2.length + n) 0

/-- The edges with an end among some identifiers. -/
def edgesTouching (b : Bundle) (ids : List String) : List Edge :=
  b.edges.filter (fun e => ids.contains e.source || ids.contains e.target)

/-- The entities that match a query, up to its limit, and the edges that touch them. -/
def answer (timeAttributes : List String) (b : Bundle) (q : EntityQuery) : Response :=
  match b.tables.find? q.entityType with
  | none => ⟨[], []⟩
  | some rows =>
    let matching := rows.filter
      (fun e => Pattern.admits? q.pattern e && Window.admits? timeAttributes q.window e)
    let entities := match q.limit with
      | some n => matching.take n
      | none => matching
    ⟨entities, b.edgesTouching (entities.map Entity.id)⟩

/-- The answer to a query whose pattern can be checked; a type without entities needs none. -/
def answer? (timeAttributes : List String) (b : Bundle) (q : EntityQuery) :
    Except HuntError Response := do
  if b.tables.contains q.entityType then Pattern.check? q.pattern
  return answer timeAttributes b q

/-- The edges of a relation that touch some entities inside a window. -/
def relate (b : Bundle) (q : RelationQuery) : List Edge :=
  (b.edgesTouching q.ids).filter
    (fun e => (q.relation == "linked" || e.relation == q.relation) && e.within q.window)

def client (timeAttributes : List String) (b : Bundle) : Client where
  answer _ q :=
    match answer? timeAttributes b q with
    | .ok response => .given response
    | .error e => .failed e.message
  relate _ q := .given (relate b q)

/-- A bundle as a connector. -/
def connector (name : String) (timeAttributes : List String) (b : Bundle) : Connector :=
  ⟨name, b.capabilities, b.client timeAttributes⟩

end Bundle
end ThreatHunt
