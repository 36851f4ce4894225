import ThreatHunt.Fetch.Cache
import ThreatHunt.Pattern.Match

/-!
The merge of answers. Each entity must match the query; entities with one key or one identifier
become one row, and the first sighting of an edge counts. A report says what each connector
contributed and what may be missing.
-/

namespace ThreatHunt

/-- Something that a user should know about a result. -/
inductive Warning where
  /-- A connector gave nothing. -/
  | missing (connector : String) (issue : Issue)
  /-- A connector gave no edges of a relation. -/
  | unanswered (connector relation : String)
  | conflict (conflict : KindConflict)
  deriving DecidableEq, Repr, Inhabited

def Warning.message : Warning → String
  | .missing connector issue =>
    "connector '" ++ connector ++ "' " ++ issue.message ++ "; results may be incomplete"
  | .unanswered connector relation =>
    "connector '" ++ connector ++ "' could not answer relation '" ++ relation ++
      "'; results may be incomplete"
  | .conflict c => c.message

/-- How a connector fared. -/
inductive Coverage where
  | complete (origin : Origin)
  | degraded (issue : Issue)
  deriving DecidableEq, Repr, Inhabited

/-- The part of a connector in a fetch. -/
structure Outcome where
  connector : String
  coverage : Coverage
  /-- How many entities it contributed. -/
  entities : Nat
  deriving DecidableEq, Repr, Inhabited

namespace Outcome

def isDegraded (o : Outcome) : Bool :=
  match o.coverage with
  | .degraded _ => true
  | .complete _ => false

/-- Whether a request was made for it. A connector that gave nothing was asked. -/
def isRequest (o : Outcome) : Bool :=
  match o.coverage with
  | .degraded _ => true
  | .complete origin => origin == .fetched

/-- A line for summaries. -/
def line (o : Outcome) : String :=
  match o.coverage with
  | .degraded issue => o.connector ++ ": degraded (" ++ issue.message ++ ")"
  | .complete origin =>
    o.connector ++ ": " ++ Nat.repr o.entities ++ " entities" ++
      match origin with
      | .fetched => ""
      | .cached => " (cached)"
      | .shared => " (shared fetch)"

end Outcome

structure FetchReport where
  entityType : String
  outcomes : List Outcome
  warnings : List Warning
  deriving DecidableEq, Repr, Inhabited

namespace FetchReport

def isDegraded (r : FetchReport) : Bool := r.outcomes.any Outcome.isDegraded

def degradedConnectors (r : FetchReport) : List String :=
  (r.outcomes.filter Outcome.isDegraded).map Outcome.connector

def requestsIssued (r : FetchReport) : Nat := (r.outcomes.filter Outcome.isRequest).length

def lines (r : FetchReport) : List String := r.outcomes.map Outcome.line

end FetchReport

/-- The result of a request to a connector, and where it came from. -/
structure Reply where
  connector : String
  result : FetchResult
  origin : Origin
  deriving Inhabited

/-- The merged result of a fetch. -/
structure Fetched where
  table : Table
  edges : List Edge
  report : FetchReport
  deriving Inhabited

namespace Reply

/-- The entities of a reply that match a query. -/
def kept (timeAttributes : List String) (q : EntityQuery) (r : Reply) : List Entity :=
  match r.result with
  | .ok response => response.entities.filter
      (fun e => Pattern.admits? q.pattern e && Window.admits? timeAttributes q.window e)
  | .error _ => []

def edges (r : Reply) : List Edge :=
  match r.result with
  | .ok response => response.edges
  | .error _ => []

def outcome (timeAttributes : List String) (q : EntityQuery) (r : Reply) : Outcome :=
  match r.result with
  | .ok _ => ⟨r.connector, .complete r.origin, (r.kept timeAttributes q).length⟩
  | .error issue => ⟨r.connector, .degraded issue, 0⟩

def warning? (r : Reply) : Option Warning :=
  match r.result with
  | .ok _ => none
  | .error issue => some (.missing r.connector issue)

end Reply

namespace Merge

/-- A row and the key under which it was first seen. -/
abbrev KeyedRow := String × Entity

/-- Completes the rows that pass a test by another sighting. -/
def absorbInto (found : KeyedRow → Bool) (e : Entity) (rows : List KeyedRow) : List KeyedRow :=
  rows.map (fun r => if found r then (r.1, r.2.absorb e) else r)

/-- Adds an entity: to the row of its key, else to the row of its identifier, else as a new row. -/
def push (entityType : String) (rows : List KeyedRow) (e : Entity) : List KeyedRow :=
  let key := e.dedupKey entityType
  if rows.any (fun r => r.1 == key) then absorbInto (fun r => r.1 == key) e rows
  else if rows.any (fun r => r.2.id == e.id) then absorbInto (fun r => r.2.id == e.id) e rows
  else rows ++ [(key, e)]

/-- The rows of entities of a type, in the order in which they are first seen. -/
def rows (entityType : String) (entities : List Entity) : List Entity :=
  (entities.foldl (push entityType) []).map Prod.snd

/-- Merges the replies to a query. -/
def replies (timeAttributes : List String) (q : EntityQuery) (rs : List Reply) : Fetched :=
  let kept := rs.map (Reply.kept timeAttributes q)
  let unified := Schema.unify ((kept.filter (fun es => !es.isEmpty)).map
    (fun es => Schema.infer q.entityType (es.map Entity.attributes)))
  let schema := { unified.schema with entityType := q.entityType }
  let merged := rows q.entityType kept.flatten
  let limited := match q.limit with
    | some n => merged.take n
    | none => merged
  { table := Table.ofSchema schema (Table.conformRows schema limited)
    edges := Edge.recordAll [] (rs.flatMap Reply.edges)
    report :=
      { entityType := q.entityType
        outcomes := rs.map (Reply.outcome timeAttributes q)
        warnings := rs.filterMap Reply.warning? ++ unified.conflicts.map Warning.conflict } }

end Merge
end ThreatHunt
