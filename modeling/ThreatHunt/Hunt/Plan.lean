import ThreatHunt.Config
import ThreatHunt.Display.Grid
import ThreatHunt.Fetch.Exchange
import ThreatHunt.Module.Basic
import ThreatHunt.Pattern.Match
import ThreatHunt.Storage.Store
import ThreatHunt.Variables.Lineage

/-!
Plans. A statement is planned against a scene, which nothing changes, and all that makes no sense is
found there. A plan is a finished product, or one request and what to make of its answer.
-/

namespace ThreatHunt

/-- What a statement sees of a hunt. -/
structure Scene where
  config : Config
  vars : Variables
  store : Store
  connectors : Registry
  modules : Dict Module
  disk : Disk
  /-- The time at which the statement runs. -/
  now : Instant
  statement : PlacedStatement
  deriving Inhabited

/-- A table that is to be bound to a name. -/
structure NewTable where
  name : String
  table : Table
  /-- The nodes that the table was derived from. -/
  lineage : List Nat
  /-- The connectors, modules or files that its rows came from. -/
  sources : List String
  deriving Inhabited

/-- A line about what was done. -/
inductive Note where
  | saved (rows : Nat) (name path : String)
  | finished (module : String) (millis : Nat)
  deriving DecidableEq, Repr, Inhabited

def Note.message : Note → String
  | .saved rows name path =>
    "saved " ++ Nat.repr rows ++ " rows of '" ++ name ++ "' to " ++ path
  | .finished module millis =>
    "module '" ++ module ++ "' finished in " ++ Nat.repr millis ++ " ms"

/-- All that a statement brings about if it succeeds. -/
structure Product where
  tables : List NewTable := []
  /-- Relationships that were seen. -/
  edges : List Edge := []
  /-- Connectors that were opened. -/
  connectors : List Connector := []
  warnings : List Warning := []
  display : Option Display := none
  report : Option FetchReport := none
  notes : List Note := []
  deriving Inhabited

inductive Plan where
  | ready (product : Product)
  /-- Asks connectors for entities. -/
  | fetch (query : EntityQuery) (connectors : List Connector) (finish : Fetched → Product)
  /-- Asks connectors for edges. -/
  | relate (query : RelationQuery) (connectors : List Connector)
    (finish : Exchange.Related → Product)
  /-- Runs a module. -/
  | invoke (module : Module) (input : ModuleInput)
    (finish : List (OutputSpec × Table) × Nat → Product)
  /-- Writes a table into a file. -/
  | save (handle : TableHandle) (path : String) (finish : Nat → Product)
  deriving Inhabited

namespace Scene

/-- The name that the statement binds. -/
def outputName (s : Scene) : String := s.statement.statement.output.getD s.config.defaultVariable

/-- The variable of an operand; none stands for the default variable. -/
def operand (s : Scene) (name : Option String) : Except HuntError Variable :=
  s.vars.resolve (name.getD s.config.defaultVariable)

/-- The table of a variable. The schema of the variable holds. -/
def tableOf (s : Scene) (v : Variable) : Except HuntError Table :=
  match s.store.table v.handle with
  | .ok t => .ok ⟨v.entityType, v.schema, t.rows⟩
  | .error trouble => .error (.store trouble)

/-- The window that the statement writes. -/
def window (s : Scene) (span : Option TimeSpan) : Except HuntError (Option Window) :=
  match span with
  | none => .ok none
  | some span =>
    match span.resolve? s.now s.config.windowGranularity, span with
    | some w, _ => .ok (some w)
    | none, .last amount unit => .error (.senseless (.windowRange amount unit))
    | none, .absolute w => .ok (some w)

/-- The product of a statement that makes one table. -/
def single (s : Scene) (t : Table) (lineage : List Nat) (sources : List String) : Product :=
  { tables := [⟨s.outputName, t, lineage, sources⟩] }

/-- The operator of membership for a comparison with the values of a variable. -/
def membership? : Operator → Option Operator
  | .equal => some .isIn
  | .isIn => some .isIn
  | .notEqual => some .notIn
  | .notIn => some .notIn
  | _ => none

/-- Puts the values of an attribute of a variable in the place of a reference to it. -/
def resolveComparison (s : Scene) (c : Comparison) : Except HuntError Comparison :=
  match c.operand with
  | .reference var attr => do
    let v ← s.vars.resolve var
    if !v.schema.columns.isEmpty && !v.schema.has attr then
      throw (.senseless (.unknownReference var attr))
    match membership? c.operator with
    | none => throw (.senseless (.referenceOperand c.operator var attr))
    | some operator =>
      let t ← s.tableOf v
      return { c with operator := operator, operand := .list (t.distinctValues attr) }
  | _ => .ok c

/-- A pattern without references. -/
def resolvePattern (s : Scene) (p : Pattern) : Except HuntError Pattern :=
  p.mapM s.resolveComparison

/-- The nodes that a pattern refers to, each once. -/
def referencedNodes (s : Scene) (p : Pattern) : List Nat :=
  Schema.distinct (p.references.filterMap (fun r => (s.vars.find? r.1).map Variable.id))

/-- The nodes that a pattern refers to, if there is a pattern. -/
def referencedNodes? (s : Scene) (p : Option Pattern) : List Nat :=
  (p.map s.referencedNodes).getD []

/-- A pattern over a type, without references. -/
def preparePattern (s : Scene) (entityType : String) : Option Pattern →
    Except HuntError (Option Pattern)
  | none => .ok none
  | some p => do
    p.checkTypes entityType
    some <$> s.resolvePattern p

/-- Adds nodes that are not there yet. -/
def addNodes (lineage more : List Nat) : List Nat := Schema.distinct (lineage ++ more)

/-- A number of rows to keep must not be zero. -/
def checkLimit (limit : Option Nat) : Except HuntError Unit :=
  if limit = some 0 then .error (.senseless .zeroLimit) else .ok ()

end Scene

/-- The first rows of a table. -/
def Table.limit (n : Option Nat) (t : Table) : Table :=
  match n with
  | some n => { t with rows := t.rows.take n }
  | none => t

/-- The comparisons of a pattern must make sense for the columns of a schema, if there is a
pattern. -/
def Pattern.checkKinds? (schema : Schema) (p : Option Pattern) : Except HuntError Unit :=
  match p with
  | some p => p.checkKinds schema
  | none => .ok ()

/-- The rows that match a pattern and that a window admits. -/
def Table.matching (timeAttributes : List String) (p : Option Pattern) (w : Option Window)
    (rows : List Entity) : List Entity :=
  rows.filter (fun e => Pattern.admits? p e && Window.admits? timeAttributes w e)

end ThreatHunt
