import ThreatHunt.Command.Script
import ThreatHunt.Hunt.Planning

/-!
Hunts: the state of one investigation, and the running of statements. A statement that succeeds
takes effect as a whole. One that fails leaves behind no more than its requests, the answers kept
from them, the files that it wrote and the handles that it used up.
-/

namespace ThreatHunt

/-- When something happens: the time of day, and milliseconds on a clock that does not go back. -/
structure Moment where
  time : Instant
  millis : Nat
  deriving DecidableEq, Repr, Inhabited

structure Hunt where
  config : Config
  vars : Variables
  store : Store
  connectors : Registry
  modules : Dict Module
  exchange : Exchange
  disk : Disk
  deriving Inhabited

/-- What a statement brought about. -/
structure Completion where
  /-- The statement as written. -/
  statement : String
  line : Nat
  command : String
  /-- The variables that were bound. -/
  bound : List VariableSummary
  display : Option Display
  report : Option FetchReport
  warnings : List Warning
  /-- Lines about what was done; none if they are not wanted. -/
  summary : List String
  deriving Inhabited

/-- What was let go at the end. -/
structure CloseReport where
  vars : Nat
  tables : Nat
  cacheEntries : Nat
  connectors : Nat
  modules : Nat
  deriving DecidableEq, Repr, Inhabited

namespace Hunt

/-- A hunt that knows nothing yet. -/
def start (config : Config) (disk : Disk) : Hunt :=
  { config := config, vars := Variables.empty, store := Store.empty
    connectors := Registry.empty, modules := Dict.empty
    exchange := Exchange.empty config.cacheMillis config.cacheEntries, disk := disk }

def registerConnector (h : Hunt) (c : Connector) : Hunt :=
  { h with connectors := h.connectors.register c }

def registerModule (h : Hunt) (m : Module) : Hunt :=
  { h with modules := h.modules.insert m.name m }

/-- What a statement sees. -/
def scene (h : Hunt) (now : Instant) (statement : PlacedStatement) : Scene :=
  { config := h.config, vars := h.vars, store := h.store, connectors := h.connectors
    modules := h.modules, disk := h.disk, now := now, statement := statement }

/-- Carries out a plan, up to its product. -/
def perform (h : Hunt) (now : Moment) : Plan → Hunt × Except HuntError Product
  | .ready product => (h, .ok product)
  | .fetch query connectors finish =>
    let (exchange, fetched) := h.exchange.fetch h.config.timeAttributes now.millis
      h.config.connectorMillis query connectors
    ({ h with exchange := exchange }, .ok (finish fetched))
  | .relate query connectors finish =>
    let (exchange, related) := h.exchange.relate h.config.connectorMillis query connectors
    ({ h with exchange := exchange }, .ok (finish related))
  | .invoke module input finish =>
    let answer := module.run h.exchange.count input
    let h := { h with exchange := h.exchange.record (.module module.name) }
    match Module.outcome module.outputs (module.patience h.config.moduleMillis) answer with
    | .ok made => (h, .ok (finish made))
    | .error fault => (h, .error (.analytics module.name fault))
  | .save handle path finish =>
    let (disk, written) := h.store.persist h.disk handle path
    ({ h with disk := disk }, (written.map finish).mapError HuntError.store)

/-- Creates tables one after another, up to the first that is refused; gives the handles of those
that were created. -/
def createTables (store : Store) : List NewTable → Store × List TableHandle × Except Trouble Unit
  | [] => (store, [], .ok ())
  | t :: rest =>
    match store.createWithRows t.table with
    | (.error trouble, store) => (store, [], .error trouble)
    | (.ok handle, store) =>
      let (store, handles, outcome) := createTables store rest
      (store, handle :: handles, outcome)

/-- Drops tables. -/
def dropTables (store : Store) (handles : List TableHandle) : Store :=
  handles.foldl Store.dropTable store

/-- The binding of a created table. -/
def bindingOf (statement : PlacedStatement) (t : NewTable) (handle : TableHandle) : Binding :=
  { name := t.name, handle := handle, schema := t.table.schema, rowCount := t.table.rows.length
    lineage := t.lineage
    birth := ⟨statement.statement.command.keyword, statement.text, t.sources⟩ }

/-- Binds names one after another, up to the first that is refused; gives the new nodes. -/
def bindAll (now : Instant) (vs : Variables) :
    List Binding → Variables × Except HuntError (List Variable)
  | [] => (vs, .ok [])
  | b :: rest =>
    match vs.bind now b with
    | .error error => (vs, .error error)
    | .ok (v, vs) =>
      let (vs, others) := bindAll now vs rest
      (vs, (v :: ·) <$> others)

/-- Forgets nodes that no name leads to, and drops their tables. -/
def collectGarbage (h : Hunt) : Hunt :=
  let (dead, vars) := h.vars.collectGarbage
  let handles := (dead.map Variable.handle).filter (fun handle => !vars.handleInUse handle)
  { h with vars := vars, store := dropTables h.store handles }

/-- The lines about what was done. -/
def summaryLines (config : Config) (bound : List VariableSummary) (product : Product) :
    List String :=
  if config.showSummary then
    bound.map (fun b =>
      b.name ++ ": " ++ b.entityType ++ " (" ++ Nat.repr b.rowCount ++ " rows)") ++
      (product.report.map FetchReport.lines).getD [] ++ product.notes.map Note.message
  else []

/-- Makes a product take effect. Tables that were created are dropped again if one is refused. -/
def commit (h : Hunt) (now : Instant) (statement : PlacedStatement) (product : Product) :
    Hunt × Except HuntError Completion :=
  let (store, handles, outcome) := createTables h.store product.tables
  match outcome with
  | .error trouble => ({ h with store := dropTables store handles }, .error (.store trouble))
  | .ok () =>
    let bindings := (product.tables.zip handles).map (fun t => bindingOf statement t.1 t.2)
    let (vars, bound) := bindAll now h.vars bindings
    let recorded : Hunt := { h with store := store.recordEdges product.edges, vars := vars }
    match bound with
    | .error error => (recorded, .error error)
    | .ok nodes =>
      let connectors := product.connectors.foldl Registry.register h.connectors
      let summaries := nodes.map Variable.summary
      ({ recorded with connectors := connectors }.collectGarbage, .ok
        { statement := statement.text
          line := statement.line
          command := statement.statement.command.keyword
          bound := summaries
          display := product.display
          report := product.report
          warnings := product.warnings
          summary := summaryLines h.config summaries product })

/-- Runs a statement. -/
def run (h : Hunt) (now : Moment) (statement : PlacedStatement) :
    Hunt × Except HuntError Completion :=
  match (h.scene now.time statement).plan with
  | .error error => (h, .error error)
  | .ok plan =>
    match h.perform now plan with
    | (h, .error error) => (h, .error error)
    | (h, .ok product) => h.commit now.time statement product

/-- Runs a statement that was read, or passes on that it could not be read. -/
def step (h : Hunt) (now : Moment) : Except Failure PlacedStatement →
    Hunt × Except Failure Completion
  | .error failure => (h, .error failure)
  | .ok statement =>
    let (h, outcome) := h.run now statement
    (h, outcome.mapError (fun error => ⟨statement.text, statement.line, error⟩))

/-- Whether the statements behind one with a given outcome are left out. -/
def haltsAfter (h : Hunt) (outcome : Except Failure Completion) : Bool :=
  h.config.haltOnError && !outcome.isOk

/-- Runs statements one after another. -/
def runAll (now : Moment) (h : Hunt) :
    List (Except Failure PlacedStatement) → Hunt × List (Except Failure Completion)
  | [] => (h, [])
  | statement :: rest =>
    let (h, outcome) := h.step now statement
    if h.haltsAfter outcome then (h, [outcome])
    else
      let (h, outcomes) := runAll now h rest
      (h, outcome :: outcomes)

/-- Runs the statements of a script. -/
def execute (h : Hunt) (now : Moment) (script : String) : Hunt × List (Except Failure Completion) :=
  h.runAll now (Script.read script)

/-! What a host may ask. -/

/-- The table of a variable. The schema of the variable holds. -/
def table (h : Hunt) (name : String) : Except HuntError Table := do
  let v ← h.vars.resolve name
  match h.store.table v.handle with
  | .ok t => return ⟨v.entityType, v.schema, t.rows⟩
  | .error trouble => throw (.store trouble)

def summaries (h : Hunt) : List VariableSummary := h.vars.list.map Variable.summary

/-- The names of the variables that one was derived from, the nearest first. -/
def lineage (h : Hunt) (name : String) : Except HuntError (List String) :=
  (fun vs => vs.map Variable.name) <$> h.vars.lineage name

def dependents (h : Hunt) (name : String) : Except HuntError (List String) :=
  h.vars.dependents name

/-- Lets everything go. Written files stay. -/
def close (h : Hunt) : Hunt × CloseReport :=
  let (released, vars) := h.vars.clear
  let handles := Schema.distinct (released.map Variable.handle)
  ({ h with
      vars := vars
      store := dropTables h.store handles
      connectors := Registry.empty
      modules := Dict.empty
      exchange := { h.exchange with cache := h.exchange.cache.clear } },
    { vars := released.length
      tables := handles.length
      cacheEntries := h.exchange.cache.size
      connectors := h.connectors.size
      modules := h.modules.entries.length })

end Hunt
end ThreatHunt
