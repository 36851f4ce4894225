import ThreatHunt.Proofs.Hunt.Transaction

/-!
What holds of a hunt between statements: the nodes of the variables and the stored tables stand for
each other, one to one and in the same order, and names lead to every node. Whatever a statement
comes to, it stays so.
-/

namespace ThreatHunt.Hunt

open Variables (Known)

/-- Whether a node stands for a stored table. -/
structure Stands (v : Variable) (t : StoredTable) : Prop where
  handle : t.handle = v.handle
  schema : t.schema = v.schema
  rows : t.rows.length = v.rowCount

/-- What holds of a hunt between any two statements. -/
structure Sound (h : Hunt) : Prop where
  fresh : h.store.Fresh
  wellFormed : h.vars.WellFormed
  paired : List.Forall₂ Stands h.vars.nodes h.store.tables
  led : ∀ v ∈ h.vars.nodes, h.vars.LedTo v.id

theorem handles_of_paired {nodes : List Variable} {tables : List StoredTable}
    (paired : List.Forall₂ Stands nodes tables) :
    tables.map StoredTable.handle = nodes.map Variable.handle := by
  induction paired with
  | nil => rfl
  | cons stands _ ih => rw [List.map_cons, List.map_cons, stands.handle, ih]

theorem exists_of_paired {nodes : List Variable} {tables : List StoredTable}
    (paired : List.Forall₂ Stands nodes tables) {v : Variable} (member : v ∈ nodes) :
    ∃ t ∈ tables, Stands v t :=
  Outcome.exists_of_forall₂ paired.flip member

variable {h : Hunt}

/-- The handles whose tables a collection of garbage drops. -/
def droppedHandles (vs : Variables) : List TableHandle :=
  (vs.collectGarbage.1.map Variable.handle).filter
    (fun handle => !vs.collectGarbage.2.handleInUse handle)

/-- Where each node has a handle of its own, a handle is dropped with its node. -/
theorem mem_droppedHandles {vs : Variables} (wellFormed : vs.WellFormed)
    (distinct : (vs.nodes.map Variable.handle).Nodup) {v : Variable} (member : v ∈ vs.nodes) :
    v.handle ∈ droppedHandles vs ↔ ¬vs.LedTo v.id := by
  have used : vs.collectGarbage.2.handleInUse v.handle = true ↔ vs.LedTo v.id := by
    constructor
    · intro used
      obtain ⟨w, lives, same⟩ := List.any_eq_true.1 used
      obtain ⟨there, led⟩ := (Variables.mem_collectGarbage wellFormed).1 lives
      exact Keyed.eq_of_key distinct there member (by simpa using same) ▸ led
    · intro led
      exact List.any_eq_true.2
        ⟨v, (Variables.mem_collectGarbage wellFormed).2 ⟨member, led⟩, beq_self_eq_true _⟩
  rw [droppedHandles, List.mem_filter, Bool.not_eq_true', ← Bool.not_eq_true, used]
  refine ⟨And.right, fun lost => ⟨List.mem_map_of_mem ?_, lost⟩⟩
  exact (Variables.mem_collectGarbage_dead wellFormed).2 ⟨member, lost⟩

/-- Garbage collection drops the tables of just those nodes that it forgets. -/
theorem collectGarbage_paired (wellFormed : h.vars.WellFormed)
    (distinct : (h.store.tables.map StoredTable.handle).Nodup)
    (paired : List.Forall₂ Stands h.vars.nodes h.store.tables) :
    List.Forall₂ Stands h.collectGarbage.vars.nodes h.collectGarbage.store.tables := by
  have kept : ∀ v ∈ h.vars.nodes, ∀ t, Stands v t →
      ((h.vars.reachable.map Variable.id).contains v.id = true ↔
        (!(droppedHandles h.vars).contains t.handle) = true) := by
    intro v member t stands
    rw [Variables.contains_reachable wellFormed member, Bool.not_eq_true', ← Bool.not_eq_true,
      List.contains_iff_mem, stands.handle,
      mem_droppedHandles wellFormed (handles_of_paired paired ▸ distinct) member, not_not]
  have both := (List.forall₂_and_left h.vars.nodes h.store.tables).2
    ⟨fun v (member : v ∈ h.vars.nodes) => member, paired⟩
  have filtered := List.rel_filter (p := fun v => (h.vars.reachable.map Variable.id).contains v.id)
    (q := fun t => !(droppedHandles h.vars).contains t.handle)
    (fun v t this => kept v this.1 t this.2) both
  simp only [collectGarbage, dropTables_eq]
  exact filtered.imp (fun _ _ both => both.2)

theorem collectGarbage_fresh (fresh : h.store.Fresh) : h.collectGarbage.store.Fresh := by
  simp only [collectGarbage, dropTables_eq]
  exact ⟨Keyed.distinct_filter fresh.distinct _,
    fun t member => fresh.used t (List.mem_of_mem_filter member)⟩

theorem collectGarbage_sound (fresh : h.store.Fresh) (wellFormed : h.vars.WellFormed)
    (paired : List.Forall₂ Stands h.vars.nodes h.store.tables) : h.collectGarbage.Sound where
  fresh := collectGarbage_fresh fresh
  wellFormed := wellFormed.collectGarbage
  paired := collectGarbage_paired wellFormed fresh.distinct paired
  led := fun _ member => (Variables.ledTo_collectGarbage wellFormed).2
    ((Variables.mem_collectGarbage wellFormed).1 member).2

/-- A node that binds a created table stands for it. -/
theorem stands_of_bound {now : Instant} {statement : PlacedStatement} {new : List NewTable}
    {made : List StoredTable} {nodes : List Variable}
    (stored : List.Forall₂ (fun n u => u = Store.stored u.handle n.table) new made)
    (bound : List.Forall₂ (fun b v => v = Variables.nodeOf v.id now b)
      ((new.zip (made.map StoredTable.handle)).map (fun t => bindingOf statement t.1 t.2)) nodes) :
    List.Forall₂ Stands nodes made := by
  induction stored generalizing nodes with
  | nil =>
    cases bound
    exact .nil
  | cons first _ ih =>
    cases bound with
    | cons here others =>
      refine .cons ⟨?_, ?_, ?_⟩ (ih others)
      · rw [here]
        rfl
      · rw [here, first]
        rfl
      · rw [here, first, Store.stored_rows_length]
        rfl

theorem sound_start (config : Config) (disk : Disk) : (start config disk).Sound where
  fresh := Store.fresh_empty
  wellFormed := Variables.wellFormed_empty
  paired := .nil
  led := fun _ member => absurd member List.not_mem_nil

/-- What a hunt knows of requests, files and hosts does not matter. -/
theorem Sound.congr {g : Hunt} (sound : h.Sound) (vars : g.vars = h.vars)
    (store : g.store = h.store) : g.Sound where
  fresh := store ▸ sound.fresh
  wellFormed := vars ▸ sound.wellFormed
  paired := vars ▸ store ▸ sound.paired
  led := vars ▸ sound.led

theorem commit_sound {now : Instant} {statement : PlacedStatement} {product : Product}
    {completion : Completion} (sound : h.Sound) (derived : product.DerivedIn h.vars)
    (committed : (h.commit now statement product).2 = .ok completion) :
    (h.commit now statement product).1.Sound := by
  obtain ⟨store, made, vars, new, added, stored, kept, nodes, bound, after⟩ :=
    commit_of_ok sound.fresh sound.wellFormed derived committed
  rw [after]
  refine collectGarbage_sound (added.fresh.record _) kept ?_
  have tables : (store.recordEdges product.edges).tables = h.store.tables ++ made := added.tables
  simp only [nodes, tables]
  exact List.rel_append sound.paired (stands_of_bound stored bound)

/-- A statement that fails leaves all as it was, apart from the cache and the list of requests,
files that were written, and handles that were used up. -/
theorem run_of_error_of_sound {now : Moment} {statement : PlacedStatement} {error : HuntError}
    (sound : h.Sound) (failed : (h.run now statement).2 = .error error) :
    ∃ created exchange disk, h.store.created ≤ created ∧ (h.run now statement).1 =
      { h with
        store := { h.store with created := created }
        exchange := exchange
        disk := disk } := by
  have stages := h.stages_run now statement
  generalize h.run now statement = result at failed stages ⊢
  cases stages with
  | senseless planned => exact ⟨h.store.created, h.exchange, h.disk, Nat.le_refl _, rfl⟩
  | @unanswered plan exchange disk _ planned performed =>
    exact ⟨h.store.created, exchange, disk, Nat.le_refl _, rfl⟩
  | @committed plan exchange disk product planned performed =>
    have derived : product.DerivedIn h.vars :=
      perform_derived (Scene.plan_derived planned) (congrArg Prod.snd performed)
    obtain ⟨created, later, after⟩ := commit_of_error (h := { h with
      exchange := exchange, disk := disk }) sound.fresh sound.wellFormed derived failed
    exact ⟨created, exchange, disk, later, after⟩

/-- A statement that completes was planned and answered, and its product was committed to a hunt that
differs in what is known of requests and files. -/
theorem commit_of_completed (sound : h.Sound) {now : Moment} {statement : PlacedStatement}
    {completion : Completion} (completed : (h.run now statement).2 = .ok completion) :
    ∃ plan product exchange disk, (h.scene now.time statement).plan = .ok plan ∧
      (h.perform now plan).2 = .ok product ∧ product.DerivedIn h.vars ∧
      Sound { h with exchange := exchange, disk := disk } ∧
      h.run now statement =
        commit { h with exchange := exchange, disk := disk } now.time statement product := by
  have stages := h.stages_run now statement
  generalize h.run now statement = result at completed stages ⊢
  cases stages with
  | senseless planned => nomatch completed
  | unanswered planned performed => nomatch completed
  | @committed plan exchange disk product planned performed =>
    have answered : (h.perform now plan).2 = .ok product := congrArg Prod.snd performed
    exact ⟨plan, product, exchange, disk, planned, answered,
      perform_derived (Scene.plan_derived planned) answered, sound.congr rfl rfl, rfl⟩

theorem run_sound (sound : h.Sound) (now : Moment) (statement : PlacedStatement) :
    (h.run now statement).1.Sound := by
  cases outcome : (h.run now statement).2 with
  | error e =>
    obtain ⟨created, exchange, disk, later, after⟩ := run_of_error_of_sound sound outcome
    rw [after]
    exact ⟨⟨sound.fresh.distinct, fun t member => Nat.le_trans (sound.fresh.used t member) later⟩,
      sound.wellFormed, sound.paired, sound.led⟩
  | ok completion =>
    obtain ⟨_, _, _, _, _, _, derived, between, run⟩ := commit_of_completed sound outcome
    rw [run] at outcome ⊢
    exact commit_sound between derived outcome

theorem close_tables (sound : h.Sound) : h.close.1.store.tables = [] := by
  simp only [close, dropTables_eq]
  refine List.filter_eq_nil_iff.2 (fun t member => ?_)
  have named : t.handle ∈ h.vars.nodes.map Variable.handle :=
    handles_of_paired sound.paired ▸ List.mem_map_of_mem member
  simp only [Variables.clear, Bool.not_eq_true, Bool.not_eq_false', List.contains_iff_mem]
  exact Schema.mem_distinct.2 named

theorem close_sound (sound : h.Sound) : h.close.1.Sound where
  fresh := by
    simp only [close, dropTables_eq]
    exact ⟨Keyed.distinct_filter sound.fresh.distinct _,
      fun t member => sound.fresh.used t (List.mem_of_mem_filter member)⟩
  wellFormed := ⟨List.nodup_nil, fun _ member => absurd member List.not_mem_nil,
    fun _ entry => absurd entry List.not_mem_nil, fun _ member => absurd member List.not_mem_nil⟩
  paired := by
    have empty : h.close.1.store.tables = [] := close_tables sound
    rw [empty]
    exact .nil
  led := fun _ member => absurd member List.not_mem_nil

end ThreatHunt.Hunt

/-!
Hunts that can come about, and what is certain of them: a statement that fails takes back what it
has done, and variables and stored tables never get out of step.
-/

namespace ThreatHunt.Hunt

open Variables (Known)

/-- The hunts that a host can bring about. Files may change and answers may be kept or dropped at any
time. -/
inductive Reachable : Hunt → Prop where
  | start (config : Config) (disk : Disk) : Reachable (start config disk)
  | registerConnector {h : Hunt} (reached : Reachable h) (c : Connector) :
      Reachable (h.registerConnector c)
  | registerModule {h : Hunt} (reached : Reachable h) (m : Module) : Reachable (h.registerModule m)
  | run {h : Hunt} (reached : Reachable h) (now : Moment) (statement : PlacedStatement) :
      Reachable (h.run now statement).1
  | close {h : Hunt} (reached : Reachable h) : Reachable h.close.1
  | meanwhile {h : Hunt} (reached : Reachable h) (exchange : Exchange) (disk : Disk) :
      Reachable { h with exchange := exchange, disk := disk }

variable {h : Hunt}

theorem Reachable.step (reached : h.Reachable) (now : Moment)
    (statement : Except Failure PlacedStatement) : (h.step now statement).1.Reachable := by
  cases statement with
  | error failure => exact reached
  | ok statement => exact reached.run now statement

theorem Reachable.runAll (reached : h.Reachable) (now : Moment)
    (statements : List (Except Failure PlacedStatement)) :
    (h.runAll now statements).1.Reachable := by
  induction statements generalizing h with
  | nil => exact reached
  | cons statement rest ih =>
    have stepped := reached.step now statement
    simp only [Hunt.runAll]
    split
    · exact stepped
    · exact ih stepped

theorem Reachable.execute (reached : h.Reachable) (now : Moment) (script : String) :
    (h.execute now script).1.Reachable :=
  reached.runAll now (Script.read script)

theorem Reachable.sound (reached : h.Reachable) : h.Sound := by
  induction reached with
  | start config disk => exact sound_start config disk
  | registerConnector _ c ih => exact ih.congr rfl rfl
  | registerModule _ m ih => exact ih.congr rfl rfl
  | run _ now statement ih => exact run_sound ih now statement
  | close _ ih => exact close_sound ih
  | meanwhile _ exchange disk ih => exact ih.congr rfl rfl

/-- A statement that fails leaves the names and nodes, the registered connectors and modules, the
recorded edges and the stored tables as they were. -/
theorem run_of_error (reachable : h.Reachable) {now : Moment} {statement : PlacedStatement}
    {error : HuntError} (failed : (h.run now statement).2 = .error error) :
    (h.run now statement).1.vars = h.vars ∧
    (h.run now statement).1.connectors = h.connectors ∧
    (h.run now statement).1.modules = h.modules ∧
    (h.run now statement).1.config = h.config ∧
    (h.run now statement).1.store.edges = h.store.edges ∧
    (h.run now statement).1.store.tables = h.store.tables := by
  obtain ⟨created, exchange, disk, _, after⟩ := run_of_error_of_sound reachable.sound failed
  rw [after]
  exact ⟨rfl, rfl, rfl, rfl, rfl, rfl⟩

/-- A hunt with a connector that answers with one file and an edge. -/
def sensing (id : String) : Hunt :=
  (start .standard Disk.empty).registerConnector
    { name := "sensor"
      capabilities := .ofTypes ["file"]
      client :=
        { answer := fun _ _ => .given ⟨[⟨id, Dict.empty⟩], [⟨"contains", "dir", id, none⟩]⟩
          relate := fun _ _ => .given [] } }

theorem reachable_sensing (id : String) : (sensing id).Reachable :=
  .registerConnector (.start _ _) _

/-- Binds what the connector answers. -/
def getFiles : PlacedStatement :=
  ⟨"a = GET file FROM sensor", 1, 1, some "a", .get "file" [.named "sensor"] none none none⟩

/-- The table is created before its row is refused for want of an identifier. -/
theorem run_of_error_missing_id :
    ((sensing "").run ⟨⟨0, 0⟩, 0⟩ getFiles).2 = .error (.store (.missingId ⟨1⟩)) ∧
      ((sensing "").run ⟨⟨0, 0⟩, 0⟩ getFiles).1.store.edges = [] ∧
      ((sensing "").run ⟨⟨0, 0⟩, 0⟩ getFiles).1.store.tables = [] :=
  ⟨rfl, (run_of_error (reachable_sensing "") rfl).2.2.2.2⟩

/-- Variables and stored tables that are in step. -/
structure Consistent (h : Hunt) : Prop where
  /-- There is one table for each node. -/
  handles : h.store.tables.map StoredTable.handle = h.vars.nodes.map Variable.handle
  distinct : (h.vars.nodes.map Variable.handle).Nodup
  /-- The nodes are those to which the bound names lead. -/
  live : ∀ id, Known h.vars.nodes id ↔ h.vars.LedTo id
  /-- The table of a node has its schema and as many rows as it says. -/
  stored : ∀ v ∈ h.vars.nodes, ∃ t, h.store.find? v.handle = some t ∧ t.schema = v.schema ∧
    t.rows.length = v.rowCount
  /-- Each bound name has a table. -/
  answered : ∀ name, h.vars.contains name = true → ∃ v t, h.vars.find? name = some v ∧
    h.table name = .ok t ∧ t.schema = v.schema ∧ t.rows.length = v.rowCount

theorem Sound.stored (sound : h.Sound) {v : Variable} (member : v ∈ h.vars.nodes) :
    ∃ t, h.store.find? v.handle = some t ∧ Stands v t := by
  obtain ⟨t, there, stands⟩ := exists_of_paired sound.paired member
  exact ⟨t, stands.handle ▸ Store.find?_of_mem sound.fresh.distinct there, stands⟩

/-- A name that is bound stands for a node. -/
theorem Sound.bound (sound : h.Sound) {name : String} (bound : h.vars.contains name = true) :
    ∃ v ∈ h.vars.nodes, h.vars.find? name = some v := by
  obtain ⟨id, named⟩ := Option.isSome_iff_exists.1 bound
  obtain ⟨v, member, rfl⟩ := sound.wellFormed.named _ (Dict.mem_of_find? named)
  exact ⟨v, member, Option.bind_eq_some_iff.2
    ⟨v.id, named, Variables.node?_of_mem sound.wellFormed.distinct member⟩⟩

theorem Sound.consistent (sound : h.Sound) : h.Consistent where
  handles := handles_of_paired sound.paired
  distinct := handles_of_paired sound.paired ▸ sound.fresh.distinct
  live := fun id => by
    constructor
    · rintro ⟨v, member, rfl⟩
      exact sound.led v member
    · exact Variables.known_of_ledTo sound.wellFormed
  stored := fun v member => by
    obtain ⟨t, found, stands⟩ := sound.stored member
    exact ⟨t, found, stands.schema, stands.rows⟩
  answered := fun name bound => by
    obtain ⟨v, member, found⟩ := sound.bound bound
    obtain ⟨t, there, stands⟩ := sound.stored member
    refine ⟨v, ⟨v.entityType, v.schema, t.rows⟩, found, ?_, rfl, stands.rows⟩
    have resolved : h.vars.resolve name = .ok v := Variables.resolve_eq_ok.2 found
    have read : h.store.table v.handle = .ok (Table.ofSchema t.schema t.rows) := by
      simp only [Store.table, Store.get, there]
      rfl
    simp only [table, resolved, bind, Except.bind, read]
    rfl

/-- In every hunt variables and stored tables are in step, and once it is closed none are left. -/
theorem consistent_of_reachable (reachable : h.Reachable) :
    h.Consistent ∧ h.close.1.vars.nodes = [] ∧ h.close.1.store.tables = [] :=
  ⟨reachable.sound.consistent, rfl, close_tables reachable.sound⟩

theorem consistent_of_reachable_bound :
    ((sensing "file--1").run ⟨⟨0, 0⟩, 0⟩ getFiles).1.vars.contains "a" = true ∧
      ((sensing "file--1").run ⟨⟨0, 0⟩, 0⟩ getFiles).1.Consistent :=
  ⟨by decide +kernel, (consistent_of_reachable (.run (reachable_sensing "file--1") _ _)).1⟩

end ThreatHunt.Hunt
