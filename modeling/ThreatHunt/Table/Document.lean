import ThreatHunt.Json.Decode
import ThreatHunt.Table.Basic
import ThreatHunt.Value.Json

/-!
Tables and their parts as JSON documents.
-/

namespace ThreatHunt

open Json (Decoder)
open Json.Decoder

namespace Value

def decoder : Decoder Value := fun node => ofJson <$> any node

end Value

namespace Entity

def toJson (e : Entity) : Json :=
  .obj [("id", .str e.id),
    ("attributes", .obj (e.attributes.entries.map (fun a => (a.1, a.2.toJson))))]

/-- An entity; one without attributes may leave them out. -/
def decoder : Decoder Entity :=
  record "Entity"
    [field "id" str (fun id e => { e with id := id }),
     fieldOr "attributes" (dict Value.decoder) (fun d e => { e with attributes := d })]
    ⟨"", Dict.empty⟩

end Entity

namespace Edge

def instantJson (t : Option Instant) : Json :=
  match t with
  | some t => .str (t.text .shortest)
  | none => .null

def toJson (e : Edge) : Json :=
  .obj [("relation", .str e.relation), ("src", .str e.source), ("dst", .str e.target),
    ("observed_at", instantJson e.observedAt)]

def decoder : Decoder Edge :=
  record "Edge"
    [field "relation" str (fun s e => { e with relation := s }),
     field "src" str (fun s e => { e with source := s }),
     field "dst" str (fun s e => { e with target := s }),
     fieldOr "observed_at" (option instant) (fun t e => { e with observedAt := t })]
    ⟨"", "", "", none⟩

end Edge

namespace Window

def toJson (w : Window) : Json :=
  .obj [("start", .str (w.start.text .shortest)), ("stop", .str (w.stop.text .shortest))]

def decoder : Decoder Window :=
  record "TimeWindow"
    [field "start" instant (fun t w => { w with start := t }),
     field "stop" instant (fun t w => { w with stop := t })]
    default

end Window

namespace Kind

def decoder : Decoder Kind := variant (all.map (fun kind => (kind.code, kind)))

end Kind

namespace Column

def toJson (c : Column) : Json := .obj [("name", .str c.name), ("ty", .str c.kind.code)]

def decoder : Decoder Column :=
  record "Attribute"
    [field "name" str (fun s c => { c with name := s }),
     field "ty" Kind.decoder (fun k c => { c with kind := k })]
    default

end Column

namespace Schema

def toJson (s : Schema) : Json :=
  .obj [("entity_type", .str s.entityType), ("attributes", .arr (s.columns.map Column.toJson))]

def decoder : Decoder Schema :=
  record "Schema"
    [field "entity_type" str (fun t s => { s with entityType := t }),
     field "attributes" (list Column.decoder) (fun cs s => { s with columns := cs })]
    default

end Schema

namespace Table

/-- The document of a table. -/
def toJson (t : Table) : Json :=
  .obj [("entity_type", .str t.entityType), ("schema", t.schema.toJson),
    ("rows", .arr (t.rows.map Entity.toJson))]

def decoder : Decoder Table :=
  record "EntityTable"
    [field "entity_type" str (fun s t => { t with entityType := s }),
     field "schema" Schema.decoder (fun s t => { t with schema := s }),
     field "rows" (list Entity.decoder) (fun rs t => { t with rows := rs })]
    default

end Table
end ThreatHunt
