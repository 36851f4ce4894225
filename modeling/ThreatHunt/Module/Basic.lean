import ThreatHunt.Connector.Basic
import ThreatHunt.Table.Basic
import ThreatHunt.Error.Hunt

/-!
Modules: named functions from tables to tables. A module says which inputs it takes and which
outputs it makes; what it makes may depend on everything that ran before, so its behaviour is a
function of the number of earlier requests.
-/

namespace ThreatHunt

/-- What a module takes. -/
structure InputSpec where
  /-- The number of inputs; zero stands for one or more. -/
  arity : Nat
  /-- The accepted types, or none for all. -/
  entityTypes : Option (List String)
  /-- Attributes that each input must have, and their kinds if these matter. -/
  attributes : List (String × Option Kind)
  deriving DecidableEq, Repr, Inhabited

/-- What a module makes under a name. -/
structure OutputSpec where
  name : String
  /-- The type of the table; a table of the generic type becomes one of it. -/
  entityType : Option String
  attributes : List String
  deriving DecidableEq, Repr, Inhabited

/-- What a module is given. -/
structure ModuleInput where
  /-- The tables under the names of their variables, in the order of the operands. -/
  tables : List (String × Table)
  params : Dict Value
  deriving Inhabited

/-- What a module makes, and how long it takes in milliseconds. -/
structure ModuleOutput where
  tables : Dict Table
  millis : Nat
  deriving Inhabited

structure Module where
  name : String
  input : InputSpec
  outputs : List OutputSpec
  /-- How long it may run, in milliseconds, if not as long as all modules. -/
  timeout : Option Nat
  run : Nat → ModuleInput → Answer ModuleOutput
  deriving Inhabited

namespace InputSpec

/-- The number of inputs must fit. -/
def checkArity (spec : InputSpec) (module : String) (given : Nat) : Except HuntError Unit :=
  if given = 0 ∨ (spec.arity ≠ 0 ∧ given ≠ spec.arity) then
    .error (.schemaMismatch (.arity module spec.arity given))
  else .ok ()

/-- Whether an attribute of a kind will do where another is wanted. -/
def fits (wanted found : Kind) : Bool :=
  found == wanted || found == .null || (wanted == .float && found == .int)

/-- An attribute that a module needs must be there, of a kind that will do. -/
def checkAttribute (module variableName : String) (schema : Schema)
    (wanted : String × Option Kind) : Except HuntError Unit :=
  match schema.kindOf? wanted.1, wanted.2 with
  | none, _ => .error (.schemaMismatch (.missingAttribute module wanted.1 variableName))
  | some _, none => .ok ()
  | some found, some kind =>
    if fits kind found then .ok ()
    else .error (.schemaMismatch (.attributeKind module wanted.1 kind variableName found))

/-- The type of an input must be accepted. -/
def checkType (spec : InputSpec) (module variableName : String) (schema : Schema) :
    Except HuntError Unit :=
  match spec.entityTypes with
  | some types =>
    if types.contains schema.entityType then .ok ()
    else .error (.schemaMismatch (.refusedType module types variableName schema.entityType))
  | none => .ok ()

/-- An input must have an accepted type and the needed attributes. -/
def check (spec : InputSpec) (module variableName : String) (schema : Schema) :
    Except HuntError Unit := do
  spec.checkType module variableName schema
  spec.attributes.forM (checkAttribute module variableName schema)

/-- All inputs must fit. -/
def checkAll (spec : InputSpec) (module : String) (tables : List (String × Table)) :
    Except HuntError Unit := do
  spec.checkArity module tables.length
  tables.forM (fun t => spec.check module t.1 t.2.schema)

end InputSpec

namespace OutputSpec

/-- The table that a module made, as its declaration wants it. -/
def conform (spec : OutputSpec) (t : Table) : Except ModuleFault Table := do
  let typed ← match spec.entityType with
    | none => pure t
    | some declared =>
      if t.entityType = genericType then pure (t.retype declared)
      else if t.entityType = declared then pure t
      else throw (.outputType spec.name t.entityType declared)
  match spec.attributes.find? (fun a => !typed.schema.has a) with
  | some missing => throw (.outputAttribute spec.name missing)
  | none => return typed

/-- The declared outputs among the tables that a module made; each table is taken once. -/
def collect : List OutputSpec → Dict Table → Except ModuleFault (List (OutputSpec × Table))
  | [], _ => .ok []
  | spec :: rest, made =>
    match made.find? spec.name with
    | none => .error (.missingOutput spec.name)
    | some t => do
      let conformed ← spec.conform t
      let others ← collect rest (made.erase spec.name)
      return (spec, conformed) :: others

end OutputSpec

namespace Module

/-- What a module makes of its input, or why it makes nothing of it. -/
def outcome (outputs : List OutputSpec) (patience : Nat) (a : Answer ModuleOutput) :
    Except ModuleFault (List (OutputSpec × Table) × Nat) :=
  match a with
  | .silent => .error (.timedOut patience)
  | .failed text => .error (.stated text)
  | .given made => (fun tables => (tables, made.millis)) <$> OutputSpec.collect outputs made.tables

def patience (standard : Nat) (m : Module) : Nat := m.timeout.getD standard

end Module

/-- The names that outputs are bound to. With a target the first output takes it and each other a
name made of it; without one the outputs take the names of the inputs in order, and what is left its
own name. -/
def outputNames (target : Option String) (inputs outputs : List String) : List String :=
  outputs.mapIdx (fun i output =>
    match target, i with
    | some name, 0 => name
    | some name, _ => name ++ "_" ++ output
    | none, _ => (inputs[i]?).getD output)

end ThreatHunt
