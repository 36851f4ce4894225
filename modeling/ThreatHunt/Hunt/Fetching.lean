import ThreatHunt.Connector.Bundle
import ThreatHunt.Hunt.Plan

/-!
Plans that bring entities in: from connectors, bundles and variables, from files, and from records
in the statement itself.
-/

namespace ThreatHunt

namespace Scene

/-- What entities are fetched from. -/
structure Sources where
  connectors : List Connector
  vars : List Variable
  /-- The bundles that were opened for this statement. -/
  opened : List Connector
  deriving Inhabited

/-- What follows the scheme of a locator. -/
def afterScheme? (uri : String) : Option String :=
  match uri.splitOn "://" with
  | _ :: next :: rest => some ("://".intercalate (next :: rest))
  | _ => none

/-- The connector that is registered for a locator, in full or without its scheme. -/
def registered? (s : Scene) (uri : String) : Option Connector :=
  match s.connectors.find? uri with
  | some c => some c
  | none => (afterScheme? uri).bind s.connectors.find?

/-- Drops a mark from the front as often as it stands there, up to a number of times. -/
def dropMarks (mark : List Char) : Nat → List Char → List Char
  | 0, cs => cs
  | n + 1, cs => if mark.isPrefixOf cs then dropMarks mark n (cs.drop mark.length) else cs

/-- The path of a bundle. -/
def bundlePath (uri : String) : String :=
  String.ofList (dropMarks Path.fileScheme.toList uri.length uri.toList)

/-- The bundle of a locator as a connector under that name. -/
def openBundle (s : Scene) (opened : List Connector) (uri : String) : Except HuntError Connector :=
  match opened.find? (fun c => c.name == uri) with
  | some c => .ok c
  | none =>
    match Bundle.open s.disk (bundlePath uri) with
    | .ok bundle => .ok (bundle.connector uri s.config.timeAttributes)
    | .error trouble => .error (.senseless (.closedSource uri trouble))

/-- Adds a source. A name is that of a connector before that of a variable. -/
def addSource (s : Scene) (entityType : String) (found : Sources) :
    Source → Except HuntError Sources
  | .uri u =>
    match s.registered? u with
    | some c => .ok { found with connectors := found.connectors ++ [c] }
    | none =>
      if u.startsWith Path.fileScheme then do
        let c ← s.openBundle found.opened u
        let opened := if found.opened.any (fun o => o.name == u) then found.opened
          else found.opened ++ [c]
        return { found with connectors := found.connectors ++ [c], opened := opened }
      else .error (.senseless (.unknownUri u))
  | .named name =>
    match s.connectors.find? name with
    | some c => .ok { found with connectors := found.connectors ++ [c] }
    | none =>
      match s.vars.find? name with
      | some v =>
        if v.entityType = entityType then .ok { found with vars := found.vars ++ [v] }
        else .error (.typeMismatch (.heldType name v.entityType entityType))
      | none => .error (.senseless (.unknownSource name))

/-- Each connector must support the type. -/
def checkSupport (entityType : String) (connectors : List Connector) : Except HuntError Unit :=
  match connectors.find? (fun c => !c.capabilities.supports entityType) with
  | some c => .error (.noConnector (.unsupported c.name entityType))
  | none => .ok ()

/-- The sources of a statement; if it names none, all connectors that support the type. -/
def sourcesOf (s : Scene) (entityType : String) (named : List Source) : Except HuntError Sources :=
  if named.isEmpty then .ok ⟨s.connectors.forType entityType, [], []⟩
  else do
    let found ← named.foldlM (s.addSource entityType) ⟨[], [], []⟩
    checkSupport entityType found.connectors
    return found

/-- The matching rows of a variable. -/
def variablePart (s : Scene) (p : Option Pattern) (w : Option Window) (v : Variable) :
    Except HuntError Table := do
  let t ← s.tableOf v
  Pattern.checkKinds? t.schema p
  return Table.ofSchema t.schema (Table.matching s.config.timeAttributes p w t.rows)

/-- One table of several parts: the part itself if there is one, else their union. -/
def unite (entityType : String) : List Table → Table × List Warning
  | [part] => (part, [])
  | parts =>
    let unified := Schema.unify (parts.map Table.schema)
    let schema := { unified.schema with entityType := entityType }
    (Table.ofSchema schema (Table.conformRows schema (Table.unionRows parts)),
      unified.conflicts.map Warning.conflict)

/-- The product of parts from variables and perhaps of a fetch. -/
def fetchProduct (s : Scene) (entityType : String) (limit : Option Nat) (sources : Sources)
    (lineage : List Nat) (parts : List Table) (fetched : Option Fetched) : Product :=
  let (united, conflicts) := unite entityType (parts ++ (fetched.map Fetched.table).toList)
  let names := sources.vars.map Variable.name ++
    (if fetched.isSome then sources.connectors.map Connector.name else [])
  let product := s.single ((united.limit limit).retype entityType) lineage names
  { product with
    edges := (fetched.map Fetched.edges).getD []
    connectors := sources.opened
    warnings := (fetched.map (fun f => f.report.warnings)).getD [] ++ conflicts
    report := fetched.map Fetched.report }

/-- Plans the fetch of the entities of a type. -/
def planGet (s : Scene) (entityType : String) (named : List Source) (pattern : Option Pattern)
    (span : Option TimeSpan) (limit : Option Nat) : Except HuntError Plan := do
  checkLimit limit
  let sources ← s.sourcesOf entityType named
  let prepared ← s.preparePattern entityType pattern
  Pattern.check? prepared
  let window ← s.window span
  let parts ← sources.vars.mapM (s.variablePart prepared window)
  let lineage := addNodes (s.referencedNodes? pattern) (sources.vars.map Variable.id)
  if sources.connectors.isEmpty && !sources.vars.isEmpty then
    return .ready (s.fetchProduct entityType limit sources lineage parts none)
  else if sources.connectors.isEmpty then
    throw (.noConnector (.noneFor entityType))
  else
    return .fetch ⟨entityType, prepared, window, limit⟩ sources.connectors
      (fun fetched => s.fetchProduct entityType limit sources lineage parts (some fetched))

/-- Plans the reading of a file. -/
def planLoad (s : Scene) (target : String) (entityType : Option String) : Except HuntError Plan :=
  let path := Path.ofTarget s.config.storeRoot target
  match TableFile.read s.disk path entityType with
  | .ok t => .ok (.ready (s.single t [] [path]))
  | .error trouble => .error (.store trouble)

/-- A text stands for a record with it as its value. -/
def recordOf : Json → Json
  | .str text => .obj [("value", .str text)]
  | record => record

/-- Plans a table of records. -/
def planCreate (s : Scene) (entityType : Option String) (records : List Json) :
    Except HuntError Plan :=
  match Records.typed entityType (records.map recordOf) with
  | .ok (type, rows) => .ok (.ready (s.single (Table.ofRows type rows) [] []))
  | .error trouble => .error (.senseless (.badRecords trouble))

end Scene
end ThreatHunt
