import ThreatHunt.Proofs.Hunt.Reachable

/-!
Planning comes before asking. A statement that makes no sense is found out from names, schemas and
declarations alone: what connectors and modules would answer plays no part, and nothing is asked.
-/

namespace ThreatHunt

namespace HuntError

/-- Whether an error tells of a statement that could not be read, makes no sense or has nobody to
ask. -/
def IsEarly (e : HuntError) : Prop := e.isCompileTime = true ∨ ∃ cause, e = .noConnector cause

theorem not_isEarly_store (trouble : Trouble) : ¬(HuntError.store trouble).IsEarly := by
  simp [IsEarly, isCompileTime]

theorem not_isEarly_analytics (module : String) (fault : ModuleFault) :
    ¬(HuntError.analytics module fault).IsEarly := by
  simp [IsEarly, isCompileTime]

theorem not_isEarly_internal (cause : Impossible) : ¬(HuntError.internal cause).IsEarly := by
  simp [IsEarly, isCompileTime]

end HuntError

/-- Connectors with one name that declare the same. -/
structure Connector.Declares (c d : Connector) : Prop where
  name : c.name = d.name
  capabilities : c.capabilities = d.capabilities

/-- Modules with one name that declare the same. -/
structure Module.Declares (m n : Module) : Prop where
  name : m.name = n.name
  input : m.input = n.input
  outputs : m.outputs = n.outputs
  timeout : m.timeout = n.timeout

namespace Dict

variable {α : Type} {Related : α → α → Prop} {d e : Dict α}

/-- Dictionaries with related values under the same names. -/
def Alike (Related : α → α → Prop) (d e : Dict α) : Prop :=
  List.Forall₂ (fun a b => a.1 = b.1 ∧ Related a.2 b.2) d.entries e.entries

theorem Alike.find? (alike : Alike Related d e) (name : String) :
    Option.Rel Related (d.find? name) (e.find? name) := by
  unfold Alike at alike
  unfold Dict.find?
  generalize d.entries = these at alike ⊢
  generalize e.entries = those at alike ⊢
  induction alike with
  | nil => exact .none
  | @cons a b _ _ first _ ih =>
    obtain ⟨same, related⟩ := first
    rw [findEntry, findEntry, same]
    split
    · exact .some related
    · exact ih

theorem Alike.values (alike : Alike Related d e) :
    List.Forall₂ Related (d.entries.map Prod.snd) (e.entries.map Prod.snd) := by
  rw [List.forall₂_map_left_iff, List.forall₂_map_right_iff]
  exact alike.imp (fun _ _ both => both.2)

end Dict

namespace Scene

open Outcome

/-- Scenes that differ in no more than the behaviour of connectors and modules. -/
structure Alike (s z : Scene) : Prop where
  same : z = { s with connectors := z.connectors, modules := z.modules }
  connectors : s.connectors.entries.Alike Connector.Declares z.connectors.entries
  modules : s.modules.Alike Module.Declares z.modules

/-- Sources that differ in no more than the behaviour of connectors. -/
structure Sources.Alike (a b : Sources) : Prop where
  connectors : List.Forall₂ Connector.Declares a.connectors b.connectors
  vars : a.vars = b.vars
  opened : a.opened = b.opened

variable {s z : Scene}

theorem Alike.find? (alike : s.Alike z) (name : String) :
    Option.Rel Connector.Declares (s.connectors.find? name) (z.connectors.find? name) :=
  alike.connectors.find? name

theorem Alike.registered? (alike : s.Alike z) (uri : String) :
    Option.Rel Connector.Declares (s.registered? uri) (z.registered? uri) := by
  have whole := alike.find? uri
  unfold Scene.registered?
  generalize s.connectors.find? uri = these at whole ⊢
  generalize z.connectors.find? uri = those at whole ⊢
  cases whole with
  | some declares => exact .some declares
  | none =>
    cases afterScheme? uri with
    | none => exact .none
    | some rest => exact alike.find? rest

theorem Alike.addSource (alike : s.Alike z) (entityType : String) {a b : Sources}
    (found : a.Alike b)
    (source : Source) :
    Agree Sources.Alike (s.addSource entityType a source) (z.addSource entityType b source) := by
  obtain ⟨connectors, vars, opened⟩ := found
  cases source with
  | uri u =>
    have known := alike.registered? u
    have bundle : z.openBundle = s.openBundle := by rw [alike.same]; rfl
    unfold Scene.addSource
    dsimp only
    generalize s.registered? u = these at known ⊢
    generalize z.registered? u = those at known ⊢
    cases known with
    | some declares => exact .ok ⟨List.rel_append connectors (.cons declares .nil), vars, opened⟩
    | none =>
      dsimp only
      split
      · rw [bundle, ← opened]
        refine .after (fun c => .ok ⟨List.rel_append connectors (.cons ⟨rfl, rfl⟩ .nil), vars, rfl⟩)
      · exact .error _
  | named name =>
    have registered := alike.find? name
    have known : z.vars = s.vars := by rw [alike.same]
    unfold Scene.addSource
    dsimp only
    rw [known]
    generalize s.connectors.find? name = these at registered ⊢
    generalize z.connectors.find? name = those at registered ⊢
    cases registered with
    | some declares => exact .ok ⟨List.rel_append connectors (.cons declares .nil), vars, opened⟩
    | none =>
      dsimp only
      split
      · split
        · exact .ok ⟨connectors, by rw [vars], opened⟩
        · exact .error _
      · exact .error _

theorem checkSupport_alike {entityType : String} {cs ds : List Connector}
    (declare : List.Forall₂ Connector.Declares cs ds) :
    checkSupport entityType cs = checkSupport entityType ds := by
  induction declare with
  | nil => rfl
  | @cons c d _ _ first _ ih =>
    unfold checkSupport at ih ⊢
    rw [List.find?_cons, List.find?_cons, first.capabilities]
    cases d.capabilities.supports entityType with
    | true => exact ih
    | false => simp [first.name]

theorem Alike.sourcesOf (alike : s.Alike z) (entityType : String) (named : List Source) :
    Agree Sources.Alike (s.sourcesOf entityType named) (z.sourcesOf entityType named) := by
  unfold Scene.sourcesOf
  split
  · refine .ok ⟨?_, rfl, rfl⟩
    exact List.rel_filter (fun c d declares => by simp only [declares.capabilities])
      alike.connectors.values
  · refine (Agree.foldlM (fun a b source found => alike.addSource entityType found source)
      ⟨.nil, rfl, rfl⟩).bind (fun a b found => ?_)
    rw [checkSupport_alike found.connectors]
    exact .after (fun _ => .ok found)

/-- Fails alike or succeeds. -/
abbrev SameChecks : Except HuntError Plan → Except HuntError Plan → Prop := Agree (fun _ _ => True)

theorem Alike.planGet (alike : s.Alike z) (entityType : String) (named : List Source)
    (pattern : Option Pattern) (span : Option TimeSpan) (limit : Option Nat) :
    SameChecks (s.planGet entityType named pattern span limit)
      (z.planGet entityType named pattern span limit) := by
  have prepare : z.preparePattern = s.preparePattern := by rw [alike.same]; rfl
  have window : z.window = s.window := by rw [alike.same]; rfl
  have part : z.variablePart = s.variablePart := by rw [alike.same]; rfl
  unfold Scene.planGet
  rw [prepare, window, part]
  refine .after (fun _ => (alike.sourcesOf entityType named).bind (fun a b found =>
    .after (fun prepared => .after (fun _ => .after (fun w => ?_)))))
  rw [← found.vars]
  refine .after (fun parts => ?_)
  have none : b.connectors.isEmpty = a.connectors.isEmpty := by
    rw [Bool.eq_iff_iff, List.isEmpty_iff_length_eq_zero, List.isEmpty_iff_length_eq_zero,
      found.connectors.length_eq]
  rw [none]
  split
  · exact .ok trivial
  · split
    · exact .error _
    · exact .ok trivial

theorem Alike.declares (alike : s.Alike z) (relation : String) :
    z.connectors.declares relation = s.connectors.declares relation := by
  have values := alike.connectors.values
  unfold Registry.declares Registry.toList
  generalize s.connectors.entries.entries.map Prod.snd = these at values ⊢
  generalize z.connectors.entries.entries.map Prod.snd = those at values ⊢
  induction values with
  | nil => rfl
  | cons first _ ih => rw [List.any_cons, List.any_cons, ih, first.capabilities]

theorem Alike.checkRelation (alike : s.Alike z) : z.checkRelation = s.checkRelation := by
  have store : z.store = s.store := by rw [alike.same]
  funext relation
  unfold Scene.checkRelation
  rw [alike.declares, store]

theorem Alike.checkConnects (alike : s.Alike z) : z.checkConnects = s.checkConnects := by
  have store : z.store = s.store := by rw [alike.same]
  funext relation source target
  unfold Scene.checkConnects Scene.isRuleOnly
  rw [alike.declares, store]

theorem Alike.planBetween (alike : s.Alike z) (relation first second : String)
    (span : Option TimeSpan) :
    SameChecks (s.planBetween relation first second span)
      (z.planBetween relation first second span) := by
  have operand : z.operand = s.operand := by rw [alike.same]; rfl
  have window : z.window = s.window := by rw [alike.same]; rfl
  have table : z.tableOf = s.tableOf := by rw [alike.same]; rfl
  unfold Scene.planBetween
  rw [operand, window, table, alike.checkRelation, alike.checkConnects]
  refine .after (fun a => .after (fun b => .after (fun _ => .after (fun _ => .after (fun w =>
    .after (fun source => .after (fun target => ?_)))))))
  dsimp only
  split <;> exact .ok trivial

theorem Alike.planRelated (alike : s.Alike z) (entityType relation : String) (reversed : Bool)
    (input : String) (pattern : Option Pattern) (span : Option TimeSpan) (limit : Option Nat) :
    SameChecks (s.planRelated entityType relation reversed input pattern span limit)
      (z.planRelated entityType relation reversed input pattern span limit) := by
  have operand : z.operand = s.operand := by rw [alike.same]; rfl
  have prepare : z.preparePattern = s.preparePattern := by rw [alike.same]; rfl
  have window : z.window = s.window := by rw [alike.same]; rfl
  have table : z.tableOf = s.tableOf := by rw [alike.same]; rfl
  have candidates : z.variablesOfType = s.variablesOfType := by rw [alike.same]; rfl
  unfold Scene.planRelated
  rw [operand, prepare, window, table, candidates, alike.checkRelation, alike.checkConnects]
  refine .after (fun _ => .after (fun center => .after (fun _ => ?_)))
  cases reversed with
  | true =>
    refine .after (fun _ => .after (fun prepared => .after (fun _ => .after (fun w =>
      .after (fun tables => .after (fun _ => .after (fun around => ?_)))))))
    dsimp only
    split <;> exact .ok trivial
  | false =>
    refine .after (fun _ => .after (fun prepared => .after (fun _ => .after (fun w =>
      .after (fun tables => .after (fun _ => .after (fun around => ?_)))))))
    dsimp only
    split <;> exact .ok trivial

theorem Alike.planApply (alike : s.Alike z) (module : String) (inputs : List String)
    (params : List (String × Value)) :
    SameChecks (s.planApply module inputs params) (z.planApply module inputs params) := by
  have operands : z.moduleOperands = s.moduleOperands := by rw [alike.same]; rfl
  have known := alike.modules.find? module
  unfold Scene.planApply
  rw [operands]
  generalize s.modules.find? module = these at known ⊢
  generalize z.modules.find? module = those at known ⊢
  cases known with
  | none => exact .error _
  | some declares =>
    refine .after (fun operands => ?_)
    rw [declares.input, declares.name]
    exact .after (fun _ => .ok trivial)

theorem Alike.mergeOperands (alike : s.Alike z) (first : String) (head : Option Table)
    (inputs : List String) :
    z.mergeOperands first head inputs = s.mergeOperands first head inputs := by
  have operand : z.operand = s.operand := by rw [alike.same]; rfl
  have table : z.tableOf = s.tableOf := by rw [alike.same]; rfl
  induction inputs generalizing head with
  | nil => rfl
  | cons name rest ih =>
    unfold Scene.mergeOperands
    simp only [operand, table, ih]

theorem Alike.planMerge (alike : s.Alike z) (inputs : List String) :
    SameChecks (s.planMerge inputs) (z.planMerge inputs) := by
  unfold Scene.planMerge
  rw [alike.mergeOperands]
  exact .after (fun _ => .ok trivial)

/-- Whether a statement makes sense does not depend on what connectors and modules would answer. -/
theorem Alike.plan (alike : s.Alike z) : SameChecks s.plan z.plan := by
  have same := alike.same
  have command : z.statement = s.statement := by rw [same]
  unfold Scene.plan
  rw [command]
  cases s.statement.statement.command with
  | get => exact alike.planGet ..
  | findBetween => exact alike.planBetween ..
  | findRelated => exact alike.planRelated ..
  | merge => exact alike.planMerge ..
  | apply => exact alike.planApply ..
  | _ =>
    rw [same]
    exact (Agree.refl _).imp (fun _ _ _ => trivial)

end Scene

namespace Hunt

open Outcome (Agree)

/-- Hunts that differ in no more than the behaviour of connectors and modules, the kept answers and
the requests that were made. -/
structure Alike (h g : Hunt) : Prop where
  same : g = { h with connectors := g.connectors, modules := g.modules, exchange := g.exchange }
  connectors : h.connectors.entries.Alike Connector.Declares g.connectors.entries
  modules : h.modules.Alike Module.Declares g.modules

variable {h g : Hunt} {now : Moment}

theorem Alike.scene (alike : h.Alike g) (time : Instant) (statement : PlacedStatement) :
    (h.scene time statement).Alike (g.scene time statement) where
  same := by rw [alike.same]; rfl
  connectors := alike.connectors
  modules := alike.modules

/-- What a request comes to is told of as the trouble of a module or a file. -/
theorem perform_fails {plan : Plan} :
    ∀ e, (h.perform now plan).2 = .error e → ¬e.IsEarly := by
  intro e failed
  cases plan with
  | ready product => cases failed
  | fetch query connectors finish => cases failed
  | relate query connectors finish => cases failed
  | invoke module input finish =>
    simp only [perform] at failed
    split at failed
    · cases failed
    · exact Except.error.inj failed ▸ HuntError.not_isEarly_analytics _ _
  | save handle path finish =>
    simp only [perform] at failed
    cases written : (h.store.persist h.disk handle path).2 with
    | ok rows =>
      rw [written] at failed
      cases failed
    | error trouble =>
      rw [written] at failed
      exact Except.error.inj failed ▸ HuntError.not_isEarly_store trouble

theorem bindAll_fails {time : Instant} {vs : Variables} {bindings : List Binding} :
    ∀ e, (bindAll time vs bindings).2 = .error e → ¬e.IsEarly := by
  induction bindings generalizing vs with
  | nil => exact fun e failed => nomatch failed
  | cons b rest ih =>
    intro e failed
    simp only [bindAll, Variables.bind] at failed
    cases unknown : b.lineage.find? (fun id => (vs.node? id).isNone) with
    | some id =>
      rw [unknown] at failed
      exact Except.error.inj failed ▸ HuntError.not_isEarly_internal _
    | none =>
      simp only [unknown] at failed
      exact Outcome.fails_map ih e failed

theorem commit_fails {time : Instant} {statement : PlacedStatement} {product : Product} :
    ∀ e, (h.commit time statement product).2 = .error e → ¬e.IsEarly := by
  intro e failed
  unfold commit at failed
  dsimp only at failed
  split at failed
  · exact Except.error.inj failed ▸ HuntError.not_isEarly_store _
  · split at failed
    · rename_i unbound
      exact bindAll_fails e (Except.error.inj failed ▸ unbound)
    · nomatch failed

/-- An early error is one of planning, and the hunt is as before. -/
theorem run_of_early {statement : PlacedStatement} {error : HuntError}
    (failed : (h.run now statement).2 = .error error) (early : error.IsEarly) :
    (h.scene now.time statement).plan = .error error ∧ (h.run now statement).1 = h := by
  have stages := h.stages_run now statement
  generalize h.run now statement = result at failed stages ⊢
  cases stages with
  | senseless planned => exact ⟨Except.error.inj failed ▸ planned, rfl⟩
  | unanswered planned performed =>
    rw [← Except.error.inj failed] at early
    exact absurd early (perform_fails _ (congrArg Prod.snd performed))
  | committed planned performed => exact absurd early (commit_fails error failed)

/-- A statement that could not be read, makes no sense or has nobody to ask has made no request and
leaves the cache with its statistics as it was. It would have failed in the same way whatever the
connectors and modules did when called. -/
theorem step_of_early {statement : Except Failure PlacedStatement} {failure : Failure}
    (failed : (h.step now statement).2 = .error failure) (early : failure.error.IsEarly) :
    (h.step now statement).1.exchange.requests = h.exchange.requests ∧
      (h.step now statement).1.exchange.cache = h.exchange.cache ∧
      ∀ g, h.Alike g → g.step now statement = (g, .error failure) := by
  cases statement with
  | error unread => exact ⟨rfl, rfl, fun g _ => congrArg (Prod.mk g) failed⟩
  | ok statement =>
    cases outcome : (h.run now statement).2 with
    | ok completion =>
      simp only [step, outcome, Except.mapError] at failed
      nomatch failed
    | error error =>
      have told : ⟨statement.text, statement.line, error⟩ = failure := by
        simp only [step, outcome, Except.mapError] at failed
        exact Except.error.inj failed
      obtain rfl := told
      obtain ⟨planned, same⟩ := run_of_early outcome early
      simp only [step, same, true_and]
      intro g alike
      have checks := (alike.scene now.time statement).plan
      rw [planned] at checks
      generalize other : (g.scene now.time statement).plan = outcome at checks
      cases checks
      simp only [run, other, Except.mapError]

/-- Asks for the files with the name of those under an unbound name. -/
def getNamesakes : PlacedStatement :=
  ⟨"a = GET file FROM sensor WHERE name = x.name", 1, 1, some "a", .get "file" [.named "sensor"]
    (some (.test ⟨"name", none, .equal, .reference "x" "name"⟩)) none none⟩

theorem step_of_early_unbound :
    let failure : Failure := ⟨getNamesakes.text, 1, .undefinedVariable "x"⟩
    ((sensing "file--1").step ⟨⟨0, 0⟩, 0⟩ (.ok getNamesakes)).2 = .error failure ∧
      failure.error.IsEarly ∧
      ((sensing "file--1").step ⟨⟨0, 0⟩, 0⟩ (.ok getNamesakes)).1.exchange.requests = [] := by
  intro failure
  have failed : ((sensing "file--1").step ⟨⟨0, 0⟩, 0⟩ (.ok getNamesakes)).2 = .error failure := rfl
  exact ⟨failed, .inl rfl, (step_of_early failed (.inl rfl)).1⟩

end Hunt
end ThreatHunt
