import ThreatHunt.Hunt.Plan
import ThreatHunt.Table.Relation

/-!
Plans that follow relationships. Edges are known from earlier statements, shown by attributes, or
answered by connectors that can be asked for the relation.
-/

namespace ThreatHunt

namespace Relation

/-- Whether an edge counts for a relation inside a window. -/
def counts (relation : String) (window : Option Window) (e : Edge) : Bool :=
  (relation == linked || e.relation == relation) && e.within window

/-- Whether an edge leads from some entities to one; for the relation `linked` in either
direction. -/
def leadsTo (relation : String) (sources : List String) (id : String) (e : Edge) : Bool :=
  (sources.contains e.source && e.target == id) ||
    (relation == linked && sources.contains e.target && e.source == id)

/-- The rows to which edges lead from some entities, in their order. -/
def reached (relation : String) (edges : List Edge) (sources : List String) (rows : List Entity) :
    List Entity :=
  rows.filter (fun row => edges.any (leadsTo relation sources row.id))

/-- The edge in the other direction. -/
def reverse (e : Edge) : Edge := { e with source := e.target, target := e.source }

end Relation

namespace Scene

/-- A relation must be known: by a rule, a connector or an edge that was seen. -/
def checkRelation (s : Scene) (relation : String) : Except HuntError Unit :=
  if Relation.isBuiltin relation || s.connectors.declares relation ||
      !(s.store.edgesOf (some relation)).isEmpty then .ok ()
  else .error (.senseless (.unknownRelation relation))

/-- Whether only rules know a relation. -/
def isRuleOnly (s : Scene) (relation : String) : Bool :=
  Relation.isBuiltin relation && relation != Relation.linked && !s.connectors.declares relation &&
    (s.store.edgesOf (some relation)).isEmpty

/-- A relation that only rules know must connect the types. -/
def checkConnects (s : Scene) (relation source target : String) : Except HuntError Unit :=
  if s.isRuleOnly relation && !Relation.connects relation source target then
    .error (.typeMismatch (.unrelated relation source target))
  else .ok ()

/-- The edges from one table to another that are known or that rules find. -/
def knownEdges (s : Scene) (relation : String) (source target : Table) : List Edge :=
  s.store.edgesOf (if relation = Relation.linked then none else some relation) ++
    Relation.edges relation source target

/-- Plans the collection of the edges that count from one table to another. -/
def planEdges (s : Scene) (relation : String) (source target : Table) (window : Option Window)
    (finish : List Edge → Product) : Plan :=
  let connectors := s.connectors.forRelation relation
  let counting := fun (edges : List Edge) => edges.filter (Relation.counts relation window)
  let known := s.knownEdges relation source target
  if connectors.isEmpty then .ready (finish (counting known))
  else
    .relate ⟨relation, source.ids, window⟩ connectors (fun answered =>
      let report : FetchReport := ⟨target.entityType, answered.outcomes, []⟩
      { finish (counting (known ++ answered.edges)) with
        edges := answered.edges
        warnings := report.degradedConnectors.map (fun c => Warning.unanswered c relation)
        report := some report })

/-- Plans the rows of one variable that a relation reaches from another. -/
def planBetween (s : Scene) (relation first second : String) (span : Option TimeSpan) :
    Except HuntError Plan := do
  let a ← s.operand (some first)
  let b ← s.operand (some second)
  s.checkRelation relation
  s.checkConnects relation a.entityType b.entityType
  let window ← s.window span
  let source ← s.tableOf a
  let target ← s.tableOf b
  let finish := fun (edges : List Edge) =>
    s.single (Table.ofSchema target.schema
      (Relation.reached relation edges source.ids target.rows)) [a.id, b.id] []
  if source.isEmpty || target.isEmpty then return .ready (finish [])
  else return s.planEdges relation source target window finish

/-- The current variables of a type, in the order of their binding. -/
def variablesOfType (s : Scene) (entityType : String) : List Variable :=
  s.vars.list.filter (fun v => v.entityType == entityType)

/-- The union of tables under a common schema of a type. -/
def pool (entityType : String) (tables : List Table) : Table :=
  let schema := { (Schema.unify (tables.map Table.schema)).schema with entityType := entityType }
  Table.ofSchema schema (Table.conformRows schema (Table.unionRows tables))

/-- The nodes behind a search around a variable: those that the pattern and the pool are made of,
and that of the variable. -/
def relatedLineage (referenced candidates : List Nat) (center : Nat) : List Nat :=
  let lineage := addNodes referenced candidates
  if lineage.contains center then lineage else center :: lineage

/-- Plans the known entities of a type that a relation connects with a variable. Unless the relation
is reversed, its edges lead from the entities to the variable. -/
def planRelated (s : Scene) (entityType relation : String) (reversed : Bool) (input : String)
    (pattern : Option Pattern) (span : Option TimeSpan) (limit : Option Nat) :
    Except HuntError Plan := do
  checkLimit limit
  let center ← s.operand (some input)
  s.checkRelation relation
  if reversed then s.checkConnects relation center.entityType entityType
  else s.checkConnects relation entityType center.entityType
  let prepared ← s.preparePattern entityType pattern
  Pattern.check? prepared
  let window ← s.window span
  let candidates := s.variablesOfType entityType
  let tables ← candidates.mapM s.tableOf
  let pool := pool entityType tables
  Pattern.checkKinds? pool.schema prepared
  let around ← s.tableOf center
  let lineage := relatedLineage (s.referencedNodes? pattern) (candidates.map Variable.id) center.id
  let finish := fun (edges : List Edge) =>
    let found := Relation.reached relation edges around.ids pool.rows
    let rows := Table.matching s.config.timeAttributes prepared window found
    s.single ((Table.ofSchema pool.schema rows).limit limit) lineage []
  if pool.isEmpty || around.isEmpty then return .ready (finish [])
  else if reversed then return s.planEdges relation around pool window finish
  else
    return s.planEdges relation pool around window
      (fun edges => finish (edges.map Relation.reverse))

end Scene
end ThreatHunt
