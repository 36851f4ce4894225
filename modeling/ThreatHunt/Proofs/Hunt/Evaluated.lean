import ThreatHunt.Proofs.Hunt.Committed
import ThreatHunt.Proofs.Hunt.Explained

/-!
What a hunt evaluates and binds. Planning could reach an impossible state only by evaluating a
pattern that still has references, and binding only by naming lineage that is not there. Neither
happens in any hunt.
-/

namespace ThreatHunt

open Outcome
open Variables (Known)

namespace Scene

variable {s : Scene}

/-- The patterns that a statement writes, with the types of the entities that they are about. -/
inductive Writes (s : Scene) : String → Option Pattern → Prop where
  | get {entityType : String} {sources : List Source} {pattern : Option Pattern}
      {span : Option TimeSpan} {limit : Option Nat}
      (command : s.statement.statement.command = .get entityType sources pattern span limit) :
      Writes s entityType pattern
  | findRelated {entityType relation : String} {reversed : Bool} {input : String}
      {pattern : Option Pattern} {span : Option TimeSpan} {limit : Option Nat}
      (command : s.statement.statement.command =
        .findRelated entityType relation reversed input pattern span limit) :
      Writes s entityType pattern
  | refine {input : String} {r : Refinement} {v : Variable}
      (command : s.statement.statement.command = .refine input r)
      (found : s.operand (some input) = .ok v) : Writes s v.entityType r.pattern
  | display {input : Option String} {r : Refinement} {v : Variable}
      (command : s.statement.statement.command = .display input r)
      (found : s.operand input = .ok v) : Writes s v.entityType r.pattern

/-- The patterns that are made ready to be evaluated: those of the statement with their references
replaced, and that of the query that connectors are asked. -/
inductive Evaluates (s : Scene) : Pattern → Prop where
  | written {entityType : String} {pattern : Option Pattern} {p : Pattern}
      (writes : s.Writes entityType pattern)
      (prepared : s.preparePattern entityType pattern = .ok (some p)) : Evaluates s p
  | asked {query : EntityQuery} {connectors : List Connector} {finish : Fetched → Product}
      {p : Pattern} (planned : s.plan = .ok (.fetch query connectors finish))
      (pattern : query.pattern = some p) : Evaluates s p

/-- Whether an error, if it tells of an impossible state, is that of a pattern that is evaluated. -/
def Blames (s : Scene) (e : HuntError) : Prop :=
  e.IsInternal → ∃ p, s.Evaluates p ∧ p.check = .error e

theorem blames_of_explained {α : Type} {x : Except HuntError α} (explained : Explained x) :
    ∀ e, x = .error e → s.Blames e :=
  fun e failed internal => absurd internal (explained e failed)

theorem check?_blames {entityType : String} {pattern prepared : Option Pattern}
    (writes : s.Writes entityType pattern)
    (ready : s.preparePattern entityType pattern = .ok prepared) :
    ∀ e, Pattern.check? prepared = .error e → s.Blames e := by
  intro e failed _
  cases prepared with
  | none => cases failed
  | some p => exact ⟨p, .written writes ready, failed⟩

theorem filterRows_blames {entityType : String} {pattern prepared : Option Pattern}
    (writes : s.Writes entityType pattern)
    (ready : s.preparePattern entityType pattern = .ok prepared) (schema : Schema)
    (rows : List Entity) : ∀ e, Table.filterRows schema rows prepared = .error e → s.Blames e := by
  cases prepared with
  | none => exact blames_of_explained (explained_ok _)
  | some p =>
    unfold Table.filterRows
    apply fails_bind (blames_of_explained (p.explained_checkKinds schema))
    intro _
    apply fails_bind (blames_of_explained (schema.explained_checkAttributes _ _))
    intro _
    apply fails_bind (check?_blames writes ready)
    exact fun _ => blames_of_explained (explained_ok _)

theorem explained_orderRows (standard : SortOrder) (schema : Schema) (rows : List Entity)
    (key : Option SortKey) : Explained (Table.orderRows standard schema rows key) := by
  cases key with
  | none => exact explained_ok _
  | some key => exact (schema.explained_checkAttributes _ _).bind (fun _ => explained_ok _)

theorem explained_keepAttributes (schema : Schema) (rows : List Entity)
    (attrs : Option (List String)) : Explained (Table.keepAttributes schema rows attrs) := by
  cases attrs with
  | none => exact explained_ok _
  | some attrs =>
    unfold Table.keepAttributes
    apply (schema.explained_checkAttributes attrs "ATTR").bind
    intro _
    exact explained_of_ite (explained_ok _) (explained_ok _)

/-- The narrowing of a table fails for its pattern alone, if it fails for an impossible state. -/
theorem refine_blames {entityType : String} {r prepared : Refinement}
    (writes : s.Writes entityType r.pattern)
    (ready : s.prepareRefinement entityType r = .ok prepared) (standard : SortOrder) (t : Table) :
    ∀ e, Table.refine standard t prepared = .error e → s.Blames e := by
  obtain ⟨pattern, made, rfl⟩ := prepareRefinement_eq_ok.1 ready
  unfold Table.refine
  apply fails_bind (filterRows_blames writes made t.schema t.rows)
  intro rows
  apply fails_bind (blames_of_explained (explained_orderRows standard t.schema rows r.sort))
  intro sorted
  apply fails_bind (blames_of_explained (explained_keepAttributes t.schema _ r.attrs))
  exact fun _ => blames_of_explained (explained_ok _)

theorem explained_prepareRefinement (entityType : String) (r : Refinement) :
    Explained (s.prepareRefinement entityType r) :=
  (explained_preparePattern entityType r.pattern).bind (fun _ => explained_ok _)

/-! One lemma for each command. -/

theorem planGet_blames {entityType : String} {named : List Source} {pattern : Option Pattern}
    {span : Option TimeSpan} {limit : Option Nat} (writes : s.Writes entityType pattern) :
    ∀ e, s.planGet entityType named pattern span limit = .error e → s.Blames e := by
  unfold planGet
  apply fails_bind (blames_of_explained (explained_checkLimit limit))
  intro _
  apply fails_bind (blames_of_explained (explained_sourcesOf entityType named))
  intro sources
  apply fails_bind_of (blames_of_explained (explained_preparePattern entityType pattern))
  intro prepared ready
  apply fails_bind (check?_blames writes ready)
  intro _
  apply fails_bind (blames_of_explained (explained_window span))
  intro window
  apply fails_bind (fails_mapM (fun v _ =>
    blames_of_explained (explained_variablePart prepared window v)))
  intro parts
  apply blames_of_explained
  apply explained_of_ite (explained_ok _)
  exact explained_of_ite (explained_error not_false) (explained_ok _)

theorem explained_checkDirection (relation : String) (reversed : Bool) (sought center : String) :
    Explained (s.checkDirection relation reversed sought center) :=
  explained_of_ite (explained_checkConnects relation center sought)
    (explained_checkConnects relation sought center)

theorem planRelated_blames {entityType relation : String} {reversed : Bool} {input : String}
    {pattern : Option Pattern} {span : Option TimeSpan} {limit : Option Nat}
    (writes : s.Writes entityType pattern) :
    ∀ e, s.planRelated entityType relation reversed input pattern span limit = .error e →
      s.Blames e := by
  rw [planRelated_eq]
  apply fails_bind (blames_of_explained (explained_checkLimit limit))
  intro _
  apply fails_bind (blames_of_explained (explained_operand _))
  intro center
  apply fails_bind (blames_of_explained (explained_checkRelation relation))
  intro _
  apply fails_bind (blames_of_explained (explained_checkDirection relation reversed entityType _))
  intro _
  apply fails_bind_of (blames_of_explained (explained_preparePattern entityType pattern))
  intro prepared ready
  apply fails_bind (check?_blames writes ready)
  intro _
  apply fails_bind (blames_of_explained (explained_window span))
  intro window
  apply fails_bind (fails_mapM (fun v _ => blames_of_explained (explained_tableOf v)))
  intro tables
  apply fails_bind (blames_of_explained (Pattern.explained_checkKinds? _ prepared))
  intro _
  apply fails_bind (blames_of_explained (explained_tableOf center))
  exact fun _ => blames_of_explained (explained_ok _)

theorem explained_planBetween (relation first second : String) (span : Option TimeSpan) :
    Explained (s.planBetween relation first second span) := by
  unfold planBetween
  apply (explained_operand _).bind
  intro a
  apply (explained_operand _).bind
  intro b
  apply (explained_checkRelation relation).bind
  intro _
  apply (explained_checkConnects relation a.entityType b.entityType).bind
  intro _
  apply (explained_window span).bind
  intro window
  apply (explained_tableOf a).bind
  intro source
  apply (explained_tableOf b).bind
  intro target
  exact explained_of_ite (explained_ok _) (explained_ok _)

theorem explained_planJoin (left right : String) (keys : Option (String × String)) :
    Explained (s.planJoin left right keys) := by
  unfold planJoin
  apply (explained_operand _).bind
  intro a
  apply (explained_operand _).bind
  intro b
  apply Explained.guard
  · exact not_false
  · apply (explained_tableOf a).bind
    intro l
    apply (explained_tableOf b).bind
    intro r
    apply (l.schema.explained_checkAttributes _ _).bind
    intro _
    exact (r.schema.explained_checkAttributes _ _).bind (fun _ => explained_ok _)

theorem explained_planSort (input : Option String) (key : SortKey) :
    Explained (s.planSort input key) := by
  apply explained_operandTable
  intro v t
  exact (t.schema.explained_checkAttributes _ _).bind (fun _ => explained_ok _)

theorem explained_planGroup (input : Option String) (keys : List String)
    (aggregations : List Aggregation) : Explained (s.planGroup input keys aggregations) := by
  apply explained_operandTable
  intro v t
  apply (t.schema.explained_checkAttributes _ _).bind
  intro _
  exact (Aggregation.explained_checkAll t.schema _).bind (fun _ => explained_ok _)

theorem explained_planInfo (input : Option String) : Explained (s.planInfo input) := by
  unfold planInfo
  apply (explained_operand input).bind
  intro v
  apply ((explained_resolve s.vars v.name).map _).bind
  intro ancestors
  apply Explained.bind
  · exact (explained_resolve s.vars v.name).bind (fun _ => explained_ok _)
  · exact fun _ => explained_ok _

theorem explained_planApply (module : String) (inputs : List String)
    (params : List (String × Value)) : Explained (s.planApply module inputs params) := by
  unfold planApply
  split
  · exact explained_error not_false
  · rename_i m _
    apply (explained_moduleOperands inputs).bind
    intro operands
    exact (m.input.explained_checkAll _ _).bind (fun _ => explained_ok _)

theorem explained_planLoad (target : String) (entityType : Option String) :
    Explained (s.planLoad target entityType) := by
  unfold planLoad
  dsimp only
  split
  · exact explained_ok _
  · exact explained_error not_false

theorem explained_planCreate (entityType : Option String) (records : List Json) :
    Explained (s.planCreate entityType records) := by
  unfold planCreate
  split
  · exact explained_ok _
  · exact explained_error not_false

/-- What narrows the table of an operand fails for the pattern alone, if it fails for an impossible
state. -/
theorem narrow_blames {α : Type} {input : Option String} {r : Refinement}
    {finish : Variable → Table → Except HuntError α}
    (writes : ∀ v, s.operand input = .ok v → s.Writes v.entityType r.pattern)
    (finished : ∀ v t, Explained (finish v t)) :
    ∀ e, (s.operand input >>= fun v => s.tableOf v >>= fun t =>
      s.prepareRefinement v.entityType r >>= fun prepared =>
        Table.refine s.config.defaultOrder t prepared >>= finish v) = .error e → s.Blames e := by
  apply fails_bind_of (blames_of_explained (explained_operand input))
  intro v found
  apply fails_bind (blames_of_explained (explained_tableOf v))
  intro t
  apply fails_bind_of (blames_of_explained (explained_prepareRefinement v.entityType r))
  intro prepared ready
  apply fails_bind (refine_blames (writes v found) ready s.config.defaultOrder t)
  exact fun narrowed => blames_of_explained (finished v narrowed)

/-- If planning reaches an impossible state, it is by a pattern that is evaluated. -/
theorem plan_blames : ∀ e, s.plan = .error e → s.Blames e := by
  unfold plan
  cases command : s.statement.statement.command with
  | get entityType sources pattern span limit => exact planGet_blames (.get command)
  | findBetween relation source target span =>
    exact blames_of_explained (explained_planBetween relation source target span)
  | findRelated entityType relation reversed input pattern span limit =>
    exact planRelated_blames (.findRelated command)
  | join left right keys => exact blames_of_explained (explained_planJoin left right keys)
  | sort input key => exact blames_of_explained (explained_planSort input key)
  | group input keys aggregations =>
    exact blames_of_explained (explained_planGroup input keys aggregations)
  | refine input r =>
    exact narrow_blames (fun v found => .refine command found) (fun _ _ => explained_ok _)
  | merge inputs =>
    exact blames_of_explained ((explained_mergeOperands _ _ inputs).bind (fun _ => explained_ok _))
  | assign input =>
    exact blames_of_explained (explained_operandTable (fun _ _ => explained_ok _))
  | apply module inputs params =>
    exact blames_of_explained (explained_planApply module inputs params)
  | display input r =>
    exact narrow_blames (fun v found => .display command found) (fun _ _ => explained_ok _)
  | info input => exact blames_of_explained (explained_planInfo input)
  | save input target =>
    exact blames_of_explained ((explained_operand input).bind (fun _ => explained_ok _))
  | load target entityType => exact blames_of_explained (explained_planLoad target entityType)
  | create entityType records => exact blames_of_explained (explained_planCreate entityType records)

/-- No pattern that is evaluated has a reference left. -/
theorem Evaluates.resolved {p : Pattern} (evaluates : s.Evaluates p) : p.references = [] := by
  cases evaluates with
  | written writes prepared => exact resolved_of_preparePattern prepared
  | asked planned pattern =>
    obtain ⟨_, _, _, _, _, _, gets⟩ := get_of_fetch planned
    obtain ⟨_, prepared, _, _, _, _, ready, _, _, _, rest⟩ := planGet_eq_ok gets
    rcases rest with ⟨_, _, same⟩ | ⟨_, same⟩
    · cases same
    · obtain ⟨rfl, _, _⟩ := Plan.fetch.inj same
      dsimp only at pattern
      rw [pattern] at ready
      exact resolved_of_preparePattern ready

theorem explained_plan : Explained s.plan := by
  intro e failed internal
  obtain ⟨p, evaluates, refused⟩ := plan_blames e failed internal
  obtain ⟨cause, told⟩ := Pattern.check_of_resolved evaluates.resolved refused
  rw [told] at internal
  exact internal

end Scene

namespace Hunt

variable {h : Hunt} {now : Moment}

theorem explained_perform (plan : Plan) : Explained (h.perform now plan).2 := by
  cases plan with
  | ready product => exact explained_ok _
  | fetch query connectors finish => exact explained_ok _
  | relate query connectors finish => exact explained_ok _
  | invoke module input finish =>
    unfold perform
    dsimp only
    split
    · exact explained_ok _
    · exact explained_error not_false
  | save handle path finish =>
    change Explained (((h.store.persist h.disk handle path).2.map finish).mapError HuntError.store)
    cases (h.store.persist h.disk handle path).2 with
    | ok rows => exact explained_ok _
    | error trouble => exact explained_error not_false

theorem explained_commit {time : Instant} {statement : PlacedStatement} {product : Product}
    (wellFormed : h.vars.WellFormed) (derived : product.DerivedIn h.vars) :
    Explained (h.commit time statement product).2 := by
  unfold commit
  cases outcome : (createTables h.store product.tables).2.2 with
  | error trouble =>
    simp only [outcome]
    exact explained_error not_false
  | ok done =>
    obtain ⟨new, bound, _⟩ := Variables.bindAll_of_known time wellFormed
      (bindingsOf_known derived statement (createTables h.store product.tables).2.1)
    simp only [bindingsOf] at bound
    simp only [outcome, bound]
    exact explained_ok _

theorem explained_run (reachable : h.Reachable) (statement : PlacedStatement) :
    Explained (h.run now statement).2 := by
  have stages := h.stages_run now statement
  generalize h.run now statement = result at stages ⊢
  cases stages with
  | senseless planned => exact explained_error (Scene.explained_plan _ planned)
  | unanswered planned performed =>
    exact explained_error (explained_perform _ _ (congrArg Prod.snd performed))
  | committed planned performed =>
    have derived := perform_derived (Scene.plan_derived planned) (congrArg Prod.snd performed)
    exact explained_commit reachable.sound.wellFormed derived

theorem explained_step (reachable : h.Reachable) {statement : Except Failure PlacedStatement}
    (read : ∀ failure, statement = .error failure → ¬failure.error.IsInternal) {failure : Failure}
    (failed : (h.step now statement).2 = .error failure) : ¬failure.error.IsInternal := by
  cases statement with
  | error unread => exact read failure (congrArg Except.error (Except.error.inj failed))
  | ok statement =>
    cases outcome : (h.run now statement).2 with
    | ok completion =>
      simp only [step, outcome, Except.mapError] at failed
      cases failed
    | error error =>
      simp only [step, outcome, Except.mapError] at failed
      rw [← Except.error.inj failed]
      exact explained_run reachable statement error outcome

theorem explained_runAll {statements : List (Except Failure PlacedStatement)}
    (reachable : h.Reachable)
    (read : ∀ failure, .error failure ∈ statements → ¬failure.error.IsInternal) :
    ∀ failure, .error failure ∈ (h.runAll now statements).2 → ¬failure.error.IsInternal := by
  induction statements generalizing h with
  | nil => exact fun _ member => absurd member List.not_mem_nil
  | cons statement rest ih =>
    have first : ∀ failure, (h.step now statement).2 = .error failure →
        ¬failure.error.IsInternal := by
      intro failure
      apply explained_step reachable
      exact fun unread same => read unread (same ▸ List.mem_cons_self ..)
    have others := ih (reachable.step now statement)
      (fun failure member => read failure (List.mem_cons_of_mem _ member))
    intro failure member
    simp only [runAll] at member
    split at member
    · exact first failure (List.mem_singleton.1 member).symm
    · rcases List.mem_cons.1 member with here | later
      · exact first failure here.symm
      · exact others failure later

/-- A statement that cannot be read is malformed. -/
theorem explained_read {script : String} {failure : Failure}
    (member : .error failure ∈ Script.read script) : ¬failure.error.IsInternal := by
  obtain ⟨span, _, read⟩ := List.mem_map.1 member
  unfold Script.readSpan at read
  dsimp only at read
  split at read
  · cases read
  · rw [← Except.error.inj read]
    exact not_false

/-- The bindings of a list that are asked for in turn, each with the variables at that time. -/
inductive Binds (time : Instant) : Variables → List Binding → Variables → Binding → Prop where
  | here {vs : Variables} {b : Binding} {rest : List Binding} : Binds time vs (b :: rest) vs b
  | later {vs ws : Variables} {b c : Binding} {rest : List Binding} {made : Variable × Variables}
      (bound : vs.bind time b = .ok made) (binds : Binds time made.2 rest ws c) :
      Binds time vs (b :: rest) ws c

theorem known_of_binds {time : Instant} {vs ws : Variables} {bs : List Binding} {b : Binding}
    (binds : Binds time vs bs ws b) (known : ∀ c ∈ bs, ∀ id ∈ c.lineage, Known vs.nodes id) :
    ∀ id ∈ b.lineage, Known ws.nodes id := by
  induction binds with
  | here => exact known _ (List.mem_cons_self ..)
  | later bound _ ih =>
    apply ih
    intro c member id derived
    rw [Variables.bind_of_known time (known _ (List.mem_cons_self ..))] at bound
    rw [← Except.ok.inj bound]
    exact (known c (List.mem_cons_of_mem _ member) id derived).append _

/-- No statement of a hunt fails for a state that should not come about. Each pattern that is
evaluated is without references, and the lineage of each binding that is asked for is there. -/
theorem explained_of_reachable (reachable : h.Reachable) (now : Moment) :
    (∀ script failure, .error failure ∈ (h.execute now script).2 → ¬failure.error.IsInternal) ∧
    ∀ statement : PlacedStatement,
      (∀ e, (h.run now statement).2 = .error e → ¬e.IsInternal) ∧
      (∀ p, (h.scene now.time statement).Evaluates p → p.references = []) ∧
      ∀ plan product, (h.scene now.time statement).plan = .ok plan →
        (h.perform now plan).2 = .ok product →
        ∀ handles ws b, Binds now.time h.vars (bindingsOf statement product handles) ws b →
          ∀ id ∈ b.lineage, Known ws.nodes id := by
  constructor
  · intro script
    exact explained_runAll reachable (fun failure => explained_read)
  · intro statement
    refine ⟨explained_run reachable statement, fun p => Scene.Evaluates.resolved, ?_⟩
    intro plan product planned performed handles ws b binds
    have derived := perform_derived (Scene.plan_derived planned) performed
    exact known_of_binds binds (bindingsOf_known derived statement handles)

/-- Asks for the files with the name of those that were found before. -/
def getAlike : PlacedStatement :=
  ⟨"b = GET file FROM sensor WHERE name = a.name", 1, 1, some "b", .get "file" [.named "sensor"]
    (some (.test ⟨"name", none, .equal, .reference "a" "name"⟩)) none none⟩

theorem explained_of_reachable_alike :
    let h := ((sensing "file--1").run ⟨⟨0, 0⟩, 0⟩ getFiles).1
    ∃ p, (h.scene ⟨0, 0⟩ getAlike).Evaluates p ∧ p.references = [] ∧
      Explained (h.run ⟨⟨0, 0⟩, 0⟩ getAlike).2 := by
  intro h
  have reachable : h.Reachable := .run (reachable_sensing "file--1") _ _
  obtain ⟨explained, resolved, -⟩ := (explained_of_reachable reachable ⟨⟨0, 0⟩, 0⟩).2 getAlike
  obtain ⟨after, _⟩ := run_of_current (reachable_sensing "file--1") ⟨⟨0, 0⟩, 0⟩ getFiles rfl rfl rfl
    rfl (fun v member => by
      obtain rfl := List.mem_singleton.1 member
      rfl)
  have evaluates : (h.scene ⟨0, 0⟩ getAlike).Evaluates
      (.test ⟨"name", none, .isIn, .list []⟩) := by
    apply Scene.Evaluates.written (.get rfl)
    rw [show h = _ from after]
    rfl
  exact ⟨_, evaluates, resolved _ evaluates, explained⟩

end Hunt
end ThreatHunt
