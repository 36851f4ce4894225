import ThreatHunt.Proofs.Hunt.Committed
import ThreatHunt.Proofs.Pattern.Resolved

/-!
What a statement reads: the tables of its operands, of the variables among its sources, of those
that its pattern refers to, and for a search around a variable those of all variables of the type.
Its plan looks at no other stored table.
-/

namespace ThreatHunt

open Outcome

namespace Command

/-- The variables that a command takes as operands; none stands for the default variable. -/
def operands : Command → List (Option String)
  | .findBetween _ source target _ => [some source, some target]
  | .findRelated _ _ _ input _ _ _ => [some input]
  | .join left right _ => [some left, some right]
  | .sort input _ => [input]
  | .group input _ _ => [input]
  | .refine input _ => [some input]
  | .merge inputs => inputs.map some
  | .assign input => [some input]
  | .apply _ inputs _ => inputs.map some
  | .display input _ => [input]
  | .info input => [input]
  | .save input _ => [input]
  | .get .. | .load .. | .create .. => []

/-- The sources that a command names. -/
def sources : Command → List Source
  | .get _ named _ _ _ => named
  | _ => []

/-- The pattern of a command, if there is one. -/
def pattern? : Command → Option Pattern
  | .get _ _ pattern _ _ => pattern
  | .findRelated _ _ _ _ pattern _ _ => pattern
  | .refine _ r => r.pattern
  | .display _ r => r.pattern
  | _ => none

/-- The type of the entities that are sought around a variable. -/
def sought? : Command → Option String
  | .findRelated entityType _ _ _ _ _ _ => some entityType
  | _ => none

end Command

namespace Scene

variable {s : Scene} {store : Store}

def command (s : Scene) : Command := s.statement.statement.command

/-- The names whose tables the statement reads. A source is a variable unless a connector has its
name. -/
inductive Reads (s : Scene) : String → Prop where
  | operand {input : Option String} (member : input ∈ s.command.operands) :
      Reads s (input.getD s.config.defaultVariable)
  | source {name : String} (member : .named name ∈ s.command.sources)
      (free : s.connectors.find? name = none) : Reads s name
  | reference {p : Pattern} {name attr : String} (written : s.command.pattern? = some p)
      (member : (name, attr) ∈ p.references) : Reads s name
  | candidate {name entityType : String} {v : Variable}
      (sought : s.command.sought? = some entityType) (found : s.vars.find? name = some v)
      (held : v.entityType = entityType) : Reads s name

/-! The variables among the sources. -/

/-- Whether a variable is among named sources. -/
def IsSource (s : Scene) (named : List Source) (v : Variable) : Prop :=
  ∃ name, .named name ∈ named ∧ s.connectors.find? name = none ∧ s.vars.find? name = some v

theorem isSource_cons {source : Source} {rest : List Source} {v : Variable} :
    s.IsSource (source :: rest) v ↔ s.IsSource [source] v ∨ s.IsSource rest v := by
  simp only [IsSource, List.mem_cons, List.not_mem_nil, or_false, or_and_right, exists_or]

theorem Adds.mem_vars {entityType : String} {found after : Sources} {source : Source}
    (adds : s.Adds entityType found source after) {v : Variable} :
    v ∈ after.vars ↔ v ∈ found.vars ∨ s.IsSource [source] v := by
  cases adds with
  | connector registered => simp [IsSource, registered]
  | held free bound => simp [IsSource, free, bound, eq_comm]
  | registered => simp [IsSource]
  | bundle => simp [IsSource]

theorem Adds.exists_variable {entityType name : String} {found after : Sources}
    (adds : s.Adds entityType found (.named name) after)
    (free : s.connectors.find? name = none) : ∃ v, s.vars.find? name = some v := by
  cases adds with
  | connector registered =>
    rw [free] at registered
    cases registered
  | held _ bound => exact ⟨_, bound⟩

theorem foldlM_addSource {entityType : String} {named : List Source} {found after : Sources}
    (folded : named.foldlM (s.addSource entityType) found = .ok after) :
    (∀ v, v ∈ after.vars ↔ v ∈ found.vars ∨ s.IsSource named v) ∧
    ∀ name, .named name ∈ named → s.connectors.find? name = none →
      ∃ v, s.vars.find? name = some v := by
  induction named generalizing found with
  | nil =>
    rw [← pure_eq_ok.1 folded]
    simp [IsSource]
  | cons source rest ih =>
    rw [List.foldlM_cons, bind_eq_ok] at folded
    obtain ⟨middle, first, others⟩ := folded
    obtain ⟨vars, bound⟩ := ih others
    have adds := adds_of_addSource first
    constructor
    · intro v
      rw [vars, adds.mem_vars, or_assoc, ← isSource_cons]
    · intro name member free
      rcases List.mem_cons.1 member with rfl | later
      · exact adds.exists_variable free
      · exact bound name later free

/-- The variables of a statement are the named sources that are no connectors. -/
theorem mem_vars_of_sourcesOf {entityType : String} {named : List Source} {sources : Sources}
    (found : s.sourcesOf entityType named = .ok sources) :
    (∀ v, v ∈ sources.vars ↔ s.IsSource named v) ∧
    ∀ name, .named name ∈ named → s.connectors.find? name = none →
      ∃ v, s.vars.find? name = some v := by
  rcases sourcesOf_eq_ok found with ⟨rfl, rfl⟩ | ⟨_, folded, _⟩
  · simp [IsSource]
  · simpa using foldlM_addSource folded

/-! The plan with another store. -/

/-- Whether another store has the same edges and the same tables for what the statement reads. -/
structure SameReads (s : Scene) (store : Store) : Prop where
  edges : store.edges = s.store.edges
  tables : ∀ name v, s.Reads name → s.vars.find? name = some v →
    store.find? v.handle = s.store.find? v.handle

/-- The scene with another store. -/
def holding (s : Scene) (store : Store) : Scene := { s with store := store }

theorem SameReads.tableOf (same : s.SameReads store) {name : String} {v : Variable}
    (reads : s.Reads name) (found : s.vars.find? name = some v) :
    (s.holding store).tableOf v = s.tableOf v := by
  unfold Scene.tableOf Store.table Store.get
  rw [holding, same.tables name v reads found]

theorem SameReads.operand (same : s.SameReads store) {input : Option String} {v : Variable}
    (member : input ∈ s.command.operands) (found : s.operand input = .ok v) :
    (s.holding store).tableOf v = s.tableOf v :=
  same.tableOf (.operand member) (Variables.resolve_eq_ok.1 found)

/-- What starts with the table of an operand differs no more than what follows. -/
theorem SameReads.operandTable {α : Type} (same : s.SameReads store) {input : Option String}
    {f g : Variable → Table → Except HuntError α} (member : input ∈ s.command.operands)
    (rest : ∀ v t, f v t = g v t) :
    ((s.holding store).operand input >>= fun v => (s.holding store).tableOf v >>= f v) =
      s.operand input >>= fun v => s.tableOf v >>= g v := by
  apply bind_congr_ok rfl
  intro v found
  apply bind_congr_ok (same.operand member found)
  exact fun t _ => rest v t

theorem SameReads.resolveComparison (same : s.SameReads store) {p : Pattern} {c : Comparison}
    (written : s.command.pattern? = some p) (member : c ∈ p.comparisons) :
    (s.holding store).resolveComparison c = s.resolveComparison c := by
  unfold Scene.resolveComparison
  split
  · rename_i var attr operand
    apply bind_congr_ok rfl
    intro v found
    have reads : s.Reads var := .reference written (Pattern.mem_references.2 ⟨c, member, operand⟩)
    rw [same.tableOf reads (Variables.resolve_eq_ok.1 found)]
  · rfl

theorem SameReads.preparePattern (same : s.SameReads store) {entityType : String}
    {pattern : Option Pattern} (written : s.command.pattern? = pattern) :
    (s.holding store).preparePattern entityType pattern = s.preparePattern entityType pattern := by
  cases pattern with
  | none => rfl
  | some p =>
    apply bind_congr_ok rfl
    intro _ _
    unfold resolvePattern
    rw [p.mapM_congr (fun c member => same.resolveComparison written member)]

theorem SameReads.edgesOf (same : s.SameReads store) (relation : Option String) :
    store.edgesOf relation = s.store.edgesOf relation := by
  unfold Store.edgesOf
  rw [same.edges]

theorem SameReads.checkRelation (same : s.SameReads store) (relation : String) :
    (s.holding store).checkRelation relation = s.checkRelation relation := by
  unfold Scene.checkRelation
  rw [holding, same.edgesOf]

theorem SameReads.checkConnects (same : s.SameReads store) (relation source target : String) :
    (s.holding store).checkConnects relation source target =
      s.checkConnects relation source target := by
  unfold Scene.checkConnects Scene.isRuleOnly
  rw [holding, same.edgesOf]

theorem SameReads.checkDirection (same : s.SameReads store) (relation : String) (reversed : Bool)
    (sought center : String) : (s.holding store).checkDirection relation reversed sought center =
      s.checkDirection relation reversed sought center := by
  unfold Scene.checkDirection
  rw [same.checkConnects, same.checkConnects]

theorem SameReads.prepareRefinement (same : s.SameReads store) {entityType : String}
    {r : Refinement} (written : s.command.pattern? = r.pattern) :
    (s.holding store).prepareRefinement entityType r = s.prepareRefinement entityType r :=
  bind_congr_ok (same.preparePattern written) (fun _ _ => rfl)

theorem SameReads.planEdges (same : s.SameReads store) (relation : String) (source target : Table)
    (window : Option Window) (finish : List Edge → Product) :
    (s.holding store).planEdges relation source target window finish =
      s.planEdges relation source target window finish := by
  unfold Scene.planEdges Scene.knownEdges
  rw [holding, same.edgesOf]

theorem SameReads.planAround (same : s.SameReads store) (relation : String) (reversed : Bool)
    (pool around : Table) (window : Option Window) (finish : List Edge → Product) :
    (s.holding store).planAround relation reversed pool around window finish =
      s.planAround relation reversed pool around window finish := by
  unfold Scene.planAround
  rw [same.planEdges, same.planEdges]

theorem SameReads.planGet (same : s.SameReads store) {entityType : String} {named : List Source}
    {pattern : Option Pattern} {span : Option TimeSpan} {limit : Option Nat}
    (command : s.command = .get entityType named pattern span limit) :
    (s.holding store).planGet entityType named pattern span limit =
      s.planGet entityType named pattern span limit := by
  unfold Scene.planGet
  apply bind_congr_ok rfl
  intro _ _
  apply bind_congr_ok rfl
  intro sources found
  apply bind_congr_ok (same.preparePattern (by rw [command]; rfl))
  intro prepared _
  apply bind_congr_ok rfl
  intro _ _
  apply bind_congr_ok rfl
  intro window _
  have parts : sources.vars.mapM ((s.holding store).variablePart prepared window) =
      sources.vars.mapM (s.variablePart prepared window) := by
    apply mapM_congr
    intro v member
    obtain ⟨name, there, free, bound⟩ := ((mem_vars_of_sourcesOf found).1 v).1 member
    have reads : s.Reads name := .source (by rw [command]; exact there) free
    unfold variablePart
    rw [same.tableOf reads bound]
    rfl
  exact bind_congr_ok parts (fun _ _ => rfl)

theorem SameReads.planBetween (same : s.SameReads store) {relation first second : String}
    {span : Option TimeSpan} (command : s.command = .findBetween relation first second span) :
    (s.holding store).planBetween relation first second span =
      s.planBetween relation first second span := by
  unfold Scene.planBetween
  apply bind_congr_ok rfl
  intro a left
  apply bind_congr_ok rfl
  intro b right
  apply bind_congr_ok (same.checkRelation relation)
  intro _ _
  apply bind_congr_ok (same.checkConnects relation a.entityType b.entityType)
  intro _ _
  apply bind_congr_ok rfl
  intro window _
  apply bind_congr_ok (same.operand (by simp [command, Command.operands]) left)
  intro source _
  apply bind_congr_ok (same.operand (by simp [command, Command.operands]) right)
  intro target _
  dsimp only
  split
  · rfl
  · exact congrArg pure (same.planEdges relation source target window _)

theorem SameReads.planRelated (same : s.SameReads store) (faithful : s.vars.Faithful)
    (wellFormed : s.vars.WellFormed) {entityType relation : String} {reversed : Bool}
    {input : String} {pattern : Option Pattern} {span : Option TimeSpan} {limit : Option Nat}
    (command : s.command = .findRelated entityType relation reversed input pattern span limit) :
    (s.holding store).planRelated entityType relation reversed input pattern span limit =
      s.planRelated entityType relation reversed input pattern span limit := by
  have tables : (s.variablesOfType entityType).mapM (s.holding store).tableOf =
      (s.variablesOfType entityType).mapM s.tableOf := by
    apply mapM_congr
    intro v member
    obtain ⟨listed, held⟩ := List.mem_filter.1 member
    have found := (Variables.mem_list_iff faithful wellFormed).1 listed
    have reads : s.Reads v.name :=
      .candidate (by rw [command]; rfl) found (beq_iff_eq.1 held)
    exact same.tableOf reads found
  have written : s.command.pattern? = pattern := by rw [command]; rfl
  rw [planRelated_eq, planRelated_eq]
  apply bind_congr_ok rfl
  intro _ _
  apply bind_congr_ok rfl
  intro center found
  apply bind_congr_ok (same.checkRelation relation)
  intro _ _
  apply bind_congr_ok (same.checkDirection relation reversed entityType center.entityType)
  intro _ _
  apply bind_congr_ok (same.preparePattern written)
  intro prepared _
  apply bind_congr_ok rfl
  intro _ _
  apply bind_congr_ok rfl
  intro window _
  apply bind_congr_ok tables
  intro tables _
  apply bind_congr_ok rfl
  intro _ _
  apply bind_congr_ok (same.operand (by simp [command, Command.operands]) found)
  intro around _
  exact congrArg pure (same.planAround ..)

theorem SameReads.planRefine (same : s.SameReads store) {input : String} {r : Refinement}
    (command : s.command = .refine input r) :
    (s.holding store).planRefine input r = s.planRefine input r := by
  apply same.operandTable (by simp [command, Command.operands])
  intro v t
  exact bind_congr_ok (same.prepareRefinement (by rw [command]; rfl)) (fun _ _ => rfl)

theorem SameReads.planDisplay (same : s.SameReads store) {input : Option String} {r : Refinement}
    (command : s.command = .display input r) :
    (s.holding store).planDisplay input r = s.planDisplay input r := by
  apply same.operandTable (by simp [command, Command.operands])
  intro v t
  exact bind_congr_ok (same.prepareRefinement (by rw [command]; rfl)) (fun _ _ => rfl)

theorem SameReads.planJoin (same : s.SameReads store) {left right : String}
    {keys : Option (String × String)} (command : s.command = .join left right keys) :
    (s.holding store).planJoin left right keys = s.planJoin left right keys := by
  unfold Scene.planJoin
  apply bind_congr_ok rfl
  intro a first
  apply bind_congr_ok rfl
  intro b second
  dsimp only
  split
  · rfl
  · apply bind_congr_ok (same.operand (by simp [command, Command.operands]) first)
    intro l _
    apply bind_congr_ok (same.operand (by simp [command, Command.operands]) second)
    intro r _
    rfl

theorem SameReads.mergeOperands (same : s.SameReads store) (first : String) (head : Option Table)
    {inputs : List String} (all : ∀ input ∈ inputs, some input ∈ s.command.operands) :
    (s.holding store).mergeOperands first head inputs = s.mergeOperands first head inputs := by
  induction inputs generalizing head with
  | nil => rfl
  | cons name rest ih =>
    have others := fun head => ih head (fun input later => all input (List.mem_cons_of_mem _ later))
    unfold Scene.mergeOperands
    apply bind_congr_ok rfl
    intro v found
    have read := same.operand (all name (List.mem_cons_self ..)) found
    simp only [read, others]

theorem SameReads.planMerge (same : s.SameReads store) {inputs : List String}
    (command : s.command = .merge inputs) :
    (s.holding store).planMerge inputs = s.planMerge inputs := by
  unfold Scene.planMerge
  apply bind_congr_ok (same.mergeOperands _ _ (fun input member => by
    rw [command]
    exact List.mem_map_of_mem member))
  intro operands _
  rfl

theorem SameReads.planApply (same : s.SameReads store) {module : String} {inputs : List String}
    {params : List (String × Value)} (command : s.command = .apply module inputs params) :
    (s.holding store).planApply module inputs params = s.planApply module inputs params := by
  have operands : (s.holding store).moduleOperands inputs = s.moduleOperands inputs := by
    apply mapM_congr
    intro name member
    have there : some name ∈ s.command.operands := by
      rw [command]
      exact List.mem_map_of_mem member
    exact same.operandTable there (fun v t => rfl)
  unfold Scene.planApply
  rw [operands]
  rfl

/-- The plan of a statement looks at the stored tables that the statement reads and at no others. -/
theorem SameReads.plan (same : s.SameReads store) (faithful : s.vars.Faithful)
    (wellFormed : s.vars.WellFormed) : (s.holding store).plan = s.plan := by
  unfold Scene.plan
  rw [holding]
  cases command : s.statement.statement.command with
  | get => exact same.planGet command
  | findBetween => exact same.planBetween command
  | findRelated => exact same.planRelated faithful wellFormed command
  | join => exact same.planJoin command
  | sort =>
    apply same.operandTable (by simp [Scene.command, command, Command.operands])
    exact fun v t => rfl
  | group =>
    apply same.operandTable (by simp [Scene.command, command, Command.operands])
    exact fun v t => rfl
  | refine => exact same.planRefine command
  | merge => exact same.planMerge command
  | assign =>
    apply same.operandTable (by simp [Scene.command, command, Command.operands])
    exact fun v t => rfl
  | apply => exact same.planApply command
  | display => exact same.planDisplay command
  | info => rfl
  | save => rfl
  | load => rfl
  | create => rfl

end Scene
end ThreatHunt
