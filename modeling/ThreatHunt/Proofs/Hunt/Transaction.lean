import ThreatHunt.Proofs.Hunt.Derivation
import ThreatHunt.Proofs.Storage.Tables

/-!
Statements as transactions: what each stage of a run may change, and what is left of a stage that
fails.
-/

namespace ThreatHunt

namespace OutputSpec

/-- Outputs that are all made have names of their own, since each table is taken once. -/
theorem collect_eq_ok {outputs : List OutputSpec} {made : Dict Table}
    {collected : List (OutputSpec × Table)} (ends : collect outputs made = .ok collected) :
    collected.map Prod.fst = outputs ∧ (outputs.map OutputSpec.name).Nodup ∧
      ∀ o ∈ collected, ∃ given, made.find? o.1.name = some given ∧ o.1.conform given = .ok o.2 := by
  induction outputs generalizing made collected with
  | nil =>
    obtain rfl := Except.ok.inj ends
    exact ⟨rfl, List.nodup_nil, fun _ member => absurd member List.not_mem_nil⟩
  | cons spec rest ih =>
    rw [collect] at ends
    cases found : made.find? spec.name with
    | none =>
      rw [found] at ends
      nomatch ends
    | some given =>
      rw [found] at ends
      obtain ⟨conformed, taken, ends⟩ := Outcome.bind_eq_ok.1 ends
      obtain ⟨more, later, ends⟩ := Outcome.bind_eq_ok.1 ends
      obtain rfl := Outcome.pure_eq_ok.1 ends
      obtain ⟨specs, others, each⟩ := ih later
      refine ⟨congrArg _ specs, List.nodup_cons.2 ⟨fun repeated => ?_, others⟩,
        List.forall_mem_cons.2 ⟨⟨given, found, taken⟩, fun o member => ?_⟩⟩
      · rw [← specs, List.map_map] at repeated
        obtain ⟨o, member, same⟩ := List.mem_map.1 repeated
        obtain ⟨_, there, _⟩ := each o member
        exact absurd same (bne_iff_ne.1 (Dict.find?_filter there).1)
      · obtain ⟨own, there, made⟩ := each o member
        exact ⟨own, (Dict.find?_filter there).2, made⟩

end OutputSpec

namespace Hunt

open Variables (Known)

variable {h : Hunt}

theorem dropTables_eq (store : Store) (handles : List TableHandle) :
    dropTables store handles =
      { store with tables := store.tables.filter (fun t => !handles.contains t.handle) } := by
  induction handles generalizing store with
  | nil => simp [dropTables]
  | cons handle rest ih =>
    have first : dropTables store (handle :: rest) = dropTables (store.dropTable handle) rest := rfl
    rw [first, ih, Store.dropTable, List.filter_filter]
    congr 1
    refine List.filter_congr (fun t _ => ?_)
    rw [List.contains_cons, Bool.not_or, Bool.and_comm, bne]

/-- Creating tables puts those that are taken behind the old ones. If none is refused, all are
taken. -/
theorem createTables_added {store : Store} (fresh : store.Fresh) (new : List NewTable) :
    ∃ made, Store.Added store (createTables store new).1 made ∧
      (createTables store new).2.1 = made.map StoredTable.handle ∧
      ((createTables store new).2.2 = .ok () →
        List.Forall₂ (fun n u => u = Store.stored u.handle n.table) new made) := by
  induction new generalizing store with
  | nil => exact ⟨[], .nothing fresh _ (Nat.le_refl _), rfl, fun _ => .nil⟩
  | cons n rest ih =>
    have created := Store.createWithRows_eq fresh n.table
    cases trouble : Store.batchTrouble? ⟨store.nextHandle, n.table.schema, [], []⟩ [] n.table.rows with
    | some t =>
      rw [trouble] at created
      refine ⟨[], ?_, ?_, ?_⟩
      · simpa only [createTables, created] using Store.Added.nothing fresh _ (Nat.le_succ _)
      · simp only [createTables, created, List.map_nil]
      · intro succeeded
        simp only [createTables, created] at succeeded
        nomatch succeeded
    | none =>
      rw [trouble] at created
      have one := Store.Added.one fresh n.table
      obtain ⟨made, added, handles, all⟩ := ih one.fresh
      refine ⟨Store.stored store.nextHandle n.table :: made, ?_, ?_, ?_⟩
      · simp only [createTables, created]
        exact one.trans added
      · simp only [createTables, created, handles]
        rfl
      · intro succeeded
        simp only [createTables, created] at succeeded
        exact .cons rfl (all succeeded)

/-- Tables that are created one after another are given the next handles. -/
theorem createTables_handles {store : Store} (fresh : store.Fresh) {new : List NewTable}
    (taken : (createTables store new).2.2 = .ok ()) :
    (createTables store new).2.1 =
      (List.range' (store.created + 1) new.length).map TableHandle.mk := by
  induction new generalizing store with
  | nil => rfl
  | cons n rest ih =>
    have created := Store.createWithRows_eq fresh n.table
    cases trouble : Store.batchTrouble? ⟨store.nextHandle, n.table.schema, [], []⟩ [] n.table.rows with
    | some t =>
      rw [trouble] at created
      simp only [createTables, created] at taken
      nomatch taken
    | none =>
      rw [trouble] at created
      simp only [createTables, created] at taken ⊢
      rw [ih (Store.Added.one fresh n.table).fresh taken]
      rfl

/-- A request and a file written change nothing but what is known of requests and files. -/
theorem perform_frame (now : Moment) (plan : Plan) :
    ∃ exchange disk, (h.perform now plan).1 = { h with exchange := exchange, disk := disk } := by
  cases plan with
  | ready product => exact ⟨h.exchange, h.disk, rfl⟩
  | fetch query connectors finish => exact ⟨_, h.disk, rfl⟩
  | relate query connectors finish => exact ⟨_, h.disk, rfl⟩
  | invoke module input finish =>
    refine ⟨h.exchange.record (.module module.name), h.disk, ?_⟩
    simp only [perform]
    split <;> rfl
  | save handle path finish => exact ⟨h.exchange, _, rfl⟩

/-- A module whose product is there has given all outputs that it declares. -/
theorem answered_of_invoke {now : Moment} {m : Module} {input : ModuleInput}
    {finish : List (OutputSpec × Table) × Nat → Product} {product : Product}
    (performed : (h.perform now (.invoke m input finish)).2 = .ok product) :
    ∃ given collected, m.run h.exchange.count input = .given given ∧
      OutputSpec.collect m.outputs given.tables = .ok collected ∧
      product = finish (collected, given.millis) := by
  simp only [perform] at performed
  cases answer : m.run h.exchange.count input with
  | silent =>
    rw [answer] at performed
    cases performed
  | failed text =>
    rw [answer] at performed
    cases performed
  | given given =>
    rw [answer] at performed
    cases collected : OutputSpec.collect m.outputs given.tables with
    | error fault =>
      simp only [Module.outcome, collected] at performed
      cases performed
    | ok tables =>
      simp only [Module.outcome, collected] at performed
      exact ⟨given, tables, rfl, collected, (Except.ok.inj performed).symm⟩

theorem written_of_save {now : Moment} {handle : TableHandle} {path : String}
    {finish : Nat → Product} {product : Product}
    (performed : (h.perform now (.save handle path finish)).2 = .ok product) :
    ∃ rows, (h.store.persist h.disk handle path).2 = .ok rows ∧ product = finish rows := by
  simp only [perform] at performed
  cases written : (h.store.persist h.disk handle path).2 with
  | error trouble =>
    rw [written] at performed
    cases performed
  | ok rows =>
    rw [written] at performed
    exact ⟨rows, rfl, (Except.ok.inj performed).symm⟩

theorem perform_makes {now : Moment} {plan : Plan} {Good : Product → Prop} {product : Product}
    (makes : plan.Makes Good) (performed : (h.perform now plan).2 = .ok product) :
    Good product := by
  cases plan with
  | ready given => exact Except.ok.inj performed ▸ makes
  | fetch query connectors finish => exact Except.ok.inj performed ▸ makes _
  | relate query connectors finish => exact Except.ok.inj performed ▸ makes _
  | invoke module input finish =>
    obtain ⟨_, _, _, _, rfl⟩ := answered_of_invoke performed
    exact makes _
  | save handle path finish =>
    obtain ⟨rows, _, rfl⟩ := written_of_save performed
    exact makes rows

theorem perform_derived {now : Moment} {plan : Plan} {vs : Variables} {product : Product}
    (derived : plan.DerivedIn vs) (performed : (h.perform now plan).2 = .ok product) :
    product.DerivedIn vs :=
  perform_makes derived.makes performed

/-- The bindings of a product whose tables were created. -/
def bindingsOf (statement : PlacedStatement) (product : Product) (handles : List TableHandle) :
    List Binding :=
  (product.tables.zip handles).map (fun t => bindingOf statement t.1 t.2)

theorem bindingsOf_known {product : Product} {vs : Variables} (derived : product.DerivedIn vs)
    (statement : PlacedStatement) (handles : List TableHandle) :
    ∀ b ∈ bindingsOf statement product handles, ∀ id ∈ b.lineage, Known vs.nodes id := by
  intro b member
  obtain ⟨pair, zipped, rfl⟩ := List.mem_map.1 member
  exact derived pair.1 (List.of_mem_zip zipped).1

/-- A commit that fails leaves no more than handles used up. -/
theorem commit_of_error {now : Instant} {statement : PlacedStatement} {product : Product}
    {error : HuntError} (fresh : h.store.Fresh) (wellFormed : h.vars.WellFormed)
    (derived : product.DerivedIn h.vars)
    (failed : (h.commit now statement product).2 = .error error) :
    ∃ created, h.store.created ≤ created ∧ (h.commit now statement product).1 =
      { h with store := { h.store with created := created } } := by
  obtain ⟨made, added, handles, _⟩ := createTables_added fresh product.tables
  unfold commit at failed ⊢
  cases outcome : (createTables h.store product.tables).2.2 with
  | error trouble =>
    refine ⟨(createTables h.store product.tables).1.created, added.later, ?_⟩
    simp only [outcome, dropTables_eq, handles, added.undo fresh, ← added.edges]
  | ok done =>
    -- Nothing that was planned is derived from what is not there, so all names are bound.
    obtain ⟨new, bound, _⟩ := Variables.bindAll_of_known now wellFormed
      (bindingsOf_known derived statement (createTables h.store product.tables).2.1)
    simp only [bindingsOf] at bound
    simp only [outcome, bound] at failed
    nomatch failed

/-- The variables once the tables that were made are bound, and the new nodes. -/
def binds (h : Hunt) (now : Instant) (statement : PlacedStatement) (product : Product)
    (made : List StoredTable) : Variables × Except HuntError (List Variable) :=
  bindAll now h.vars (bindingsOf statement product (made.map StoredTable.handle))

/-- What a commit that succeeds has done: the new tables stand behind the old ones and the new nodes
behind the old ones, and garbage is collected. -/
structure Committed (h : Hunt) (now : Instant) (statement : PlacedStatement) (product : Product)
    (completion : Completion) (made : List StoredTable) (new : List Variable) : Prop where
  added : Store.Added h.store (createTables h.store product.tables).1 made
  handles : made.map StoredTable.handle =
    (List.range' (h.store.created + 1) product.tables.length).map TableHandle.mk
  stored : List.Forall₂ (fun n u => u = Store.stored u.handle n.table) product.tables made
  bound : (h.binds now statement product made).2 = .ok new
  wellFormed : (h.binds now statement product made).1.WellFormed
  nodes : (h.binds now statement product made).1.nodes = h.vars.nodes ++ new
  each : List.Forall₂ (fun b v => v = Variables.nodeOf v.id now b)
    (bindingsOf statement product (made.map StoredTable.handle)) new
  after : (h.commit now statement product).1 = collectGarbage
    { h with
      vars := (h.binds now statement product made).1
      store := (createTables h.store product.tables).1.recordEdges product.edges
      connectors := product.connectors.foldl Registry.register h.connectors }
  listed : completion.bound = new.map Variable.summary

theorem committed_of_ok {now : Instant} {statement : PlacedStatement} {product : Product}
    {completion : Completion} (fresh : h.store.Fresh) (wellFormed : h.vars.WellFormed)
    (derived : product.DerivedIn h.vars)
    (committed : (h.commit now statement product).2 = .ok completion) :
    ∃ made new, h.Committed now statement product completion made new := by
  obtain ⟨made, added, handles, all⟩ := createTables_added fresh product.tables
  unfold commit at committed
  cases outcome : (createTables h.store product.tables).2.2 with
  | error trouble =>
    simp only [outcome] at committed
    nomatch committed
  | ok done =>
    obtain ⟨new, bound, nodes, kept, each⟩ := Variables.bindAll_of_known now wellFormed
      (bindingsOf_known derived statement (made.map StoredTable.handle))
    refine ⟨made, new, added, handles ▸ createTables_handles fresh outcome, all outcome, bound, kept,
      nodes, each, ?_, ?_⟩
    · simp only [bindingsOf] at bound
      simp only [commit, binds, bindingsOf, outcome, handles, bound]
    · simp only [bindingsOf] at bound
      simp only [outcome, handles, bound] at committed
      rw [← Except.ok.inj committed]

/-- A commit that succeeds has put the new tables behind the old ones and the new nodes behind the
old ones, and then collected garbage. -/
theorem commit_of_ok {now : Instant} {statement : PlacedStatement} {product : Product}
    {completion : Completion} (fresh : h.store.Fresh) (wellFormed : h.vars.WellFormed)
    (derived : product.DerivedIn h.vars)
    (committed : (h.commit now statement product).2 = .ok completion) :
    ∃ (store : Store) (made : List StoredTable) (vars : Variables) (new : List Variable),
      Store.Added h.store store made ∧
      List.Forall₂ (fun n u => u = Store.stored u.handle n.table) product.tables made ∧
      vars.WellFormed ∧ vars.nodes = h.vars.nodes ++ new ∧
      List.Forall₂ (fun b v => v = Variables.nodeOf v.id now b)
        (bindingsOf statement product (made.map StoredTable.handle)) new ∧
      (h.commit now statement product).1 = collectGarbage
        { h with
          vars := vars
          store := store.recordEdges product.edges
          connectors := product.connectors.foldl Registry.register h.connectors } := by
  obtain ⟨made, new, c⟩ := committed_of_ok fresh wellFormed derived committed
  exact ⟨_, made, _, new, c.added, c.stored, c.wellFormed, c.nodes, c.each, c.after⟩

/-- How far a statement comes: it makes no sense, its request comes to nothing, or its product is
committed to a hunt that differs in what is known of requests and files. -/
inductive Stages (h : Hunt) (now : Moment) (statement : PlacedStatement) :
    Hunt × Except HuntError Completion → Prop where
  | senseless {error : HuntError} (planned : (h.scene now.time statement).plan = .error error) :
      Stages h now statement (h, .error error)
  | unanswered {plan : Plan} {exchange : Exchange} {disk : Disk} {error : HuntError}
      (planned : (h.scene now.time statement).plan = .ok plan)
      (performed : h.perform now plan =
        ({ h with exchange := exchange, disk := disk }, .error error)) :
      Stages h now statement ({ h with exchange := exchange, disk := disk }, .error error)
  | committed {plan : Plan} {exchange : Exchange} {disk : Disk} {product : Product}
      (planned : (h.scene now.time statement).plan = .ok plan)
      (performed : h.perform now plan =
        ({ h with exchange := exchange, disk := disk }, .ok product)) :
      Stages h now statement
        (commit { h with exchange := exchange, disk := disk } now.time statement product)

theorem stages_run (h : Hunt) (now : Moment) (statement : PlacedStatement) :
    Stages h now statement (h.run now statement) := by
  unfold run
  cases planned : (h.scene now.time statement).plan with
  | error error => exact .senseless planned
  | ok plan =>
    obtain ⟨exchange, disk, frame⟩ := h.perform_frame now plan
    cases outcome : (h.perform now plan).2 with
    | error error =>
      have performed : h.perform now plan =
          ({ h with exchange := exchange, disk := disk }, .error error) := Prod.ext frame outcome
      simpa only [performed] using Stages.unanswered planned performed
    | ok product =>
      have performed : h.perform now plan =
          ({ h with exchange := exchange, disk := disk }, .ok product) := Prod.ext frame outcome
      simpa only [performed] using Stages.committed planned performed

/-- What requests and files do not touch, and no commit does, is kept by every statement. -/
theorem run_keeps (Kept : Hunt → Prop) (now : Moment) (statement : PlacedStatement)
    (apart : ∀ exchange disk, Kept { h with exchange := exchange, disk := disk })
    (commits : ∀ exchange disk product,
      Kept (commit { h with exchange := exchange, disk := disk } now.time statement product).1) :
    Kept (h.run now statement).1 := by
  have stages := h.stages_run now statement
  generalize h.run now statement = result at stages ⊢
  cases stages with
  | senseless planned => exact apart h.exchange h.disk
  | unanswered planned performed => exact apart _ _
  | committed planned performed => exact commits _ _ _

end Hunt
end ThreatHunt
