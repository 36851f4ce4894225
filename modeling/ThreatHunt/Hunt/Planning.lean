import ThreatHunt.Hunt.Deriving
import ThreatHunt.Hunt.Fetching
import ThreatHunt.Hunt.Relating

/-!
The plan of each statement. Some bind nothing: they show a table or what is known of a variable, or
write a table into a file.
-/

namespace ThreatHunt.Scene

/-- Plans the display of a narrowed table. -/
def planDisplay (s : Scene) (input : Option String) (r : Refinement) : Except HuntError Plan := do
  let v ← s.operand input
  let t ← s.tableOf v
  let prepared ← s.prepareRefinement v.entityType r
  let refined ← Table.refine s.config.defaultOrder t prepared
  let columns := Display.columnsOf refined.schema r.attrs
  return .ready { display := some (Display.ofTable refined columns) }

/-- Items with commas between them; a hyphen stands for none. -/
def listed (items : List String) : String :=
  if items.isEmpty then "-" else ", ".intercalate items

/-- What is known of a variable. -/
def infoOf (v : Variable) (ancestors : List Variable) (dependents : List String) :
    List (String × String) :=
  [("variable", v.name),
   ("entity type", v.entityType),
   ("entities", Nat.repr v.rowCount),
   ("attributes", listed (v.schema.columns.map (fun c => c.name ++ ":" ++ c.kind.name))),
   ("birth command", v.birth.statement),
   ("data sources", listed v.birth.sources),
   ("lineage", listed (ancestors.map (fun a => a.name ++ " (" ++ a.birth.command ++ ")"))),
   ("dependents", listed dependents),
   ("created", v.createdAt.offsetText)]

/-- Plans the display of what is known of a variable. -/
def planInfo (s : Scene) (input : Option String) : Except HuntError Plan := do
  let v ← s.operand input
  let ancestors ← s.vars.lineage v.name
  let dependents ← s.vars.dependents v.name
  return .ready { display := some (.info (infoOf v ancestors dependents)) }

/-- Plans the writing of a table into a file. -/
def planSave (s : Scene) (input : Option String) (target : String) : Except HuntError Plan := do
  let v ← s.operand input
  let path := Path.ofTarget s.config.storeRoot target
  return .save v.handle path (fun rows => { notes := [.saved rows v.name path] })

/-- The operands of a module with their tables. -/
def moduleOperands (s : Scene) (inputs : List String) :
    Except HuntError (List (Variable × String × Table)) :=
  inputs.mapM (fun name => do
    let v ← s.operand (some name)
    let t ← s.tableOf v
    return (v, name, t))

/-- The product of a module that made tables. -/
def moduleProduct (s : Scene) (module : String) (inputs : List String) (lineage : List Nat)
    (made : List (OutputSpec × Table) × Nat) : Product :=
  let names := outputNames s.statement.statement.output inputs (made.1.map (fun o => o.1.name))
  { tables := (names.zip made.1).map (fun o =>
      ⟨o.1, o.2.2, lineage, ["module:" ++ module]⟩)
    notes := [.finished module made.2] }

/-- Plans the run of a module. Its inputs are checked before it runs. -/
def planApply (s : Scene) (module : String) (inputs : List String)
    (params : List (String × Value)) : Except HuntError Plan := do
  match s.modules.find? module with
  | none => throw (.senseless (.unknownModule module))
  | some m =>
    let operands ← s.moduleOperands inputs
    let tables := operands.map Prod.snd
    m.input.checkAll m.name tables
    let lineage := addNodes [] (operands.map (fun o => o.1.id))
    return .invoke m ⟨tables, Dict.ofList params⟩ (s.moduleProduct module inputs lineage)

/-- The plan of the statement of a scene, or the error that it makes no sense there. -/
def plan (s : Scene) : Except HuntError Plan :=
  match s.statement.statement.command with
  | .get entityType sources pattern span limit => s.planGet entityType sources pattern span limit
  | .findBetween relation source target span => s.planBetween relation source target span
  | .findRelated entityType relation reversed input pattern span limit =>
    s.planRelated entityType relation reversed input pattern span limit
  | .join left right keys => s.planJoin left right keys
  | .sort input key => s.planSort input key
  | .group input keys aggregations => s.planGroup input keys aggregations
  | .refine input refinement => s.planRefine input refinement
  | .merge inputs => s.planMerge inputs
  | .assign input => s.planAssign input
  | .apply module inputs params => s.planApply module inputs params
  | .display input refinement => s.planDisplay input refinement
  | .info input => s.planInfo input
  | .save input target => s.planSave input target
  | .load target entityType => s.planLoad target entityType
  | .create entityType records => s.planCreate entityType records

end ThreatHunt.Scene
