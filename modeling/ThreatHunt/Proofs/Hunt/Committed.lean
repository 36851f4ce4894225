import ThreatHunt.Proofs.Hunt.Reachable
import ThreatHunt.Proofs.Storage.Tables

/-!
What a statement with one table leaves behind. Its table is stored whole or refused for the first
trouble with its rows, and once stored it is what its name stands for. In every hunt the stored
tables hold only rows that they take.
-/

namespace ThreatHunt.Hunt

open Variables (Known)

variable {h : Hunt} {now : Instant} {statement : PlacedStatement} {product : Product}
  {new : NewTable}

/-- A single table whose rows are in trouble is refused. -/
theorem commit_refused (fresh : h.store.Fresh) (one : product.tables = [new]) {trouble : Trouble}
    (refused : Store.batchTrouble? ⟨h.store.nextHandle, new.table.schema, [], []⟩ [] new.table.rows =
      some trouble) :
    (h.commit now statement product).2 = .error (.store trouble) := by
  have created := Store.createWithRows_eq fresh new.table
  rw [refused] at created
  simp only [commit, one, createTables, created]

theorem accepts_of_commit (fresh : h.store.Fresh) (one : product.tables = [new])
    {completion : Completion} (committed : (h.commit now statement product).2 = .ok completion) :
    Store.Accepts new.table.schema new.table.rows := by
  cases outcome : Store.batchTrouble? ⟨h.store.nextHandle, new.table.schema, [], []⟩ []
    new.table.rows with
  | none => exact Store.accepts_iff.1 outcome
  | some trouble =>
    rw [commit_refused fresh one outcome] at committed
    nomatch committed

/-- The hunt in which a single table is stored and bound, before garbage is collected. -/
def bound (h : Hunt) (now : Instant) (statement : PlacedStatement) (product : Product)
    (new : NewTable) : Hunt :=
  { h with
    store := Store.recordEdges
      { h.store with
        tables := h.store.tables ++ [Store.stored h.store.nextHandle new.table]
        created := h.store.created + 1 } product.edges
    vars :=
      ⟨h.vars.nodes ++
          [Variables.nodeOf h.vars.nextId now (bindingOf statement new h.store.nextHandle)],
        h.vars.names.insert new.name h.vars.nextId, h.vars.nextId + 1⟩
    connectors := product.connectors.foldl Registry.register h.connectors }

/-- A single table whose rows are in no trouble is stored and bound. -/
theorem commit_accepted (now : Instant) (statement : PlacedStatement) (fresh : h.store.Fresh)
    (derived : product.DerivedIn h.vars) (one : product.tables = [new])
    (accepted : Store.Accepts new.table.schema new.table.rows) :
    ∃ completion, h.commit now statement product =
      ((h.bound now statement product new).collectGarbage, .ok completion) := by
  have created := Store.createWithRows_eq fresh new.table
  rw [Store.accepts_iff.2 accepted] at created
  have known : ∀ id ∈ (bindingOf statement new h.store.nextHandle).lineage,
      Known h.vars.nodes id :=
    derived new (one ▸ List.mem_singleton_self new)
  have named := Variables.bind_of_known now known
  simp only [commit, one, createTables, created, List.zip_cons_cons, List.zip_nil_right,
    List.map_cons, List.map_nil, bindAll, named]
  exact ⟨_, rfl⟩

theorem run_of_ready {now : Moment}
    (planned : (h.scene now.time statement).plan = .ok (.ready product)) :
    h.run now statement = h.commit now.time statement product := by
  simp only [Hunt.run, planned, perform]

/-- A statement whose plan is a single table is carried out if the table takes its rows. -/
theorem completes_of_ready (reachable : h.Reachable) {now : Moment}
    (planned : (h.scene now.time statement).plan = .ok (.ready product))
    (one : product.tables = [new])
    (accepted : Store.Accepts new.table.schema new.table.rows) :
    ∃ completion, (h.run now statement).2 = .ok completion := by
  have derived : product.DerivedIn h.vars := Scene.plan_derived planned
  obtain ⟨completion, committed⟩ :=
    commit_accepted now.time statement reachable.sound.fresh derived one accepted
  rw [run_of_ready planned, committed]
  exact ⟨completion, rfl⟩

theorem mem_nodes_of_collectGarbage {v : Variable} (member : v ∈ h.collectGarbage.vars.nodes) :
    v ∈ h.vars.nodes :=
  List.mem_of_mem_filter member

theorem mem_tables_collectGarbage {t : StoredTable} :
    t ∈ h.collectGarbage.store.tables ↔ t ∈ h.store.tables ∧ t.handle ∉ droppedHandles h.vars := by
  change t ∈ (dropTables h.store (droppedHandles h.vars)).tables ↔ _
  rw [dropTables_eq, List.mem_filter, Bool.not_eq_true', ← Bool.not_eq_true, List.contains_iff_mem]

theorem mem_tables_of_collectGarbage {t : StoredTable}
    (member : t ∈ h.collectGarbage.store.tables) : t ∈ h.store.tables :=
  (mem_tables_collectGarbage.1 member).1

/-- What a name stands for is read from the table of its node. -/
theorem table_of_stored {name : String} {v : Variable} {t : StoredTable}
    (found : h.vars.find? name = some v) (stored : h.store.find? v.handle = some t) :
    h.table name = .ok ⟨v.entityType, v.schema, t.rows⟩ := by
  have read : h.store.table v.handle = .ok (Table.ofSchema t.schema t.rows) := by
    simp only [Store.table, Store.get, stored]
    rfl
  simp only [table, Variables.resolve_eq_ok.2 found, bind, Except.bind, read]
  rfl

/-- The table of a node is a stored one under the schema of the node. -/
theorem Sound.stored_of_tableOf (sound : h.Sound) {v : Variable} {t : Table}
    (member : v ∈ h.vars.nodes) (read : (h.scene now statement).tableOf v = .ok t) :
    ∃ st ∈ h.store.tables, st.schema = t.schema ∧ st.rows = t.rows := by
  obtain ⟨st, there, rfl⟩ := Scene.tableOf_eq_ok.1 read
  obtain ⟨other, found, stands⟩ := sound.stored member
  obtain rfl := Option.some.inj (there.symm.trans found)
  exact ⟨st, List.mem_of_find?_eq_some there, stands.schema, rfl⟩

/-- Once a single table is committed, its name stands for the rows of the table under its schema. -/
theorem table_commit (sound : h.Sound) (derived : product.DerivedIn h.vars)
    (one : product.tables = [new])
    (accepted : Store.Accepts new.table.schema new.table.rows) :
    (h.commit now statement product).1.table new.name =
      .ok (Table.ofSchema new.table.schema
        (Table.conformRows new.table.schema new.table.rows)) := by
  obtain ⟨completion, committed⟩ :=
    commit_accepted now statement sound.fresh derived one accepted
  have after := commit_sound sound derived (congrArg Prod.snd committed)
  rw [committed] at after ⊢
  have names : (h.bound now statement product new).collectGarbage.vars.names.find? new.name =
      some h.vars.nextId :=
    (Dict.find?_insert _ _ _ _).trans (if_pos rfl)
  obtain ⟨v, member, found⟩ := after.bound (Option.isSome_iff_exists.2 ⟨_, names⟩)
  obtain ⟨t, there, stands⟩ := after.stored member
  -- The identifier and the handle were not in use before.
  have latest : v.id = h.vars.nextId :=
    Option.some.inj ((Variables.names_of_find? found).1.symm.trans names)
  have made : v = Variables.nodeOf h.vars.nextId now
      (bindingOf statement new h.store.nextHandle) := by
    rcases List.mem_append.1 (mem_nodes_of_collectGarbage member) with old | this
    · exact absurd (sound.wellFormed.below v old) (latest ▸ Nat.lt_irrefl _)
    · exact List.mem_singleton.1 this
  have stored : t = Store.stored h.store.nextHandle new.table := by
    have present := mem_tables_of_collectGarbage (List.mem_of_find?_eq_some there)
    rcases List.mem_append.1 present with old | this
    · have handle : t.handle = h.store.nextHandle := stands.handle.trans (by rw [made]; rfl)
      exact absurd handle (sound.fresh.handle_ne_next old)
    · exact List.mem_singleton.1 this
  rw [table_of_stored found there, made, stored]
  rfl

/-- The name of a single table that takes its rows stands for them after the statement. -/
theorem table_of_ready (reachable : h.Reachable) {now : Moment}
    (planned : (h.scene now.time statement).plan = .ok (.ready product))
    (one : product.tables = [new])
    (accepted : Store.Accepts new.table.schema new.table.rows) :
    (h.run now statement).1.table new.name =
      .ok (Table.ofSchema new.table.schema
        (Table.conformRows new.table.schema new.table.rows)) := by
  have derived : product.DerivedIn h.vars := Scene.plan_derived planned
  rw [run_of_ready planned]
  exact table_commit reachable.sound derived one accepted

/-- A statement that completes was planned and answered, and if it made one table, the name of this
stands for its rows. -/
theorem table_of_completed (reachable : h.Reachable) {now : Moment} {completion : Completion}
    (completed : (h.run now statement).2 = .ok completion) :
    ∃ plan product, (h.scene now.time statement).plan = .ok plan ∧
      (h.perform now plan).2 = .ok product ∧
      ∀ new, product.tables = [new] → (h.run now statement).1.table new.name =
        .ok (Table.ofSchema new.table.schema
          (Table.conformRows new.table.schema new.table.rows)) := by
  obtain ⟨plan, product, _, _, planned, answered, derived, sound, run⟩ :=
    commit_of_completed reachable.sound completed
  refine ⟨plan, product, planned, answered, ?_⟩
  intro new one
  rw [run] at completed ⊢
  exact table_commit sound derived one (accepts_of_commit sound.fresh one completed)

/-- Nothing is garbage while each node is the current one of some name. -/
theorem collectGarbage_of_current (wellFormed : h.vars.WellFormed)
    (current : ∀ v ∈ h.vars.nodes, h.vars.isCurrent v = true) : h.collectGarbage = h := by
  have live : ∀ v ∈ h.vars.nodes, (h.vars.reachable.map Variable.id).contains v.id = true := by
    intro v member
    obtain ⟨e, entry, same⟩ := List.any_eq_true.1 (current v member)
    exact (Variables.contains_reachable wellFormed member).2
      (.root (List.mem_map.2 ⟨e, entry, beq_iff_eq.1 same⟩))
  have dead : h.vars.nodes.filter
      (fun v => !(h.vars.reachable.map Variable.id).contains v.id) = [] :=
    List.filter_eq_nil_iff.2 (fun v member => by simp only [live v member]; decide)
  have kept : h.vars.nodes.filter
      (fun v => (h.vars.reachable.map Variable.id).contains v.id) = h.vars.nodes :=
    List.filter_eq_self.2 live
  simp only [collectGarbage, Variables.collectGarbage, dead, kept]
  rfl

/-- A statement that binds one table, while each node stays the current one of some name, does no
more than that. -/
theorem run_of_current (reachable : h.Reachable) (now : Moment) (statement : PlacedStatement)
    {plan : Plan} {after : Hunt}
    (planned : (h.scene now.time statement).plan = .ok plan)
    (performed : h.perform now plan = (after, .ok product)) (one : product.tables = [new])
    (accepted : Store.batchTrouble? ⟨h.store.nextHandle, new.table.schema, [], []⟩ [] new.table.rows =
      none)
    (current : ∀ v ∈ (after.bound now.time statement product new).vars.nodes,
      (after.bound now.time statement product new).vars.isCurrent v = true) :
    (h.run now statement).1 = after.bound now.time statement product new ∧
      ∃ completion, (h.run now statement).2 = .ok completion := by
  obtain ⟨exchange, disk, frame⟩ := h.perform_frame now plan
  have same : after = { h with exchange := exchange, disk := disk } :=
    (congrArg Prod.fst performed).symm.trans frame
  have sound : after.Sound := same ▸ reachable.sound.congr rfl rfl
  have derived : product.DerivedIn after.vars := by
    rw [same]
    exact perform_derived (Scene.plan_derived planned) (congrArg Prod.snd performed)
  have fits : Store.Accepts new.table.schema new.table.rows := Store.accepts_iff.1 accepted
  obtain ⟨completion, committed⟩ :=
    commit_accepted now.time statement sound.fresh derived one fits
  have wellFormed := sound.wellFormed.bind now.time
    (b := bindingOf statement new after.store.nextHandle)
    (derived new (one ▸ List.mem_singleton_self new))
  have run : h.run now statement = after.commit now.time statement product := by
    simp only [Hunt.run, planned, performed]
  rw [run, committed]
  exact ⟨collectGarbage_of_current wellFormed current, completion, rfl⟩

/-! The store stays tidy. -/

theorem createTables_tidy {store : Store} (fresh : store.Fresh) (tidy : store.Tidy)
    (new : List NewTable) : (createTables store new).1.Tidy := by
  induction new generalizing store with
  | nil => exact tidy
  | cons n rest ih =>
    have created := Store.createWithRows_eq fresh n.table
    have first := tidy.createWithRows fresh n.table
    cases trouble : Store.batchTrouble? ⟨store.nextHandle, n.table.schema, [], []⟩ [] n.table.rows with
    | some t =>
      rw [trouble] at created
      rw [created] at first
      simpa only [createTables, created] using first
    | none =>
      rw [trouble] at created
      rw [created] at first
      simpa only [createTables, created] using ih (Store.Added.one fresh n.table).fresh first

/-- A store without some of its tables is as tidy as before. -/
theorem dropTables_tidy {store : Store} (tidy : store.Tidy) (handles : List TableHandle) :
    (dropTables store handles).Tidy := by
  rw [dropTables_eq]
  exact fun t member => tidy t (List.mem_of_mem_filter member)

theorem commit_tidy (fresh : h.store.Fresh) (tidy : h.store.Tidy) :
    (h.commit now statement product).1.store.Tidy := by
  have created := createTables_tidy fresh tidy product.tables
  unfold commit
  dsimp only
  split
  · exact dropTables_tidy created _
  · split
    · exact created
    · have recorded : (Store.recordEdges (createTables h.store product.tables).1
          product.edges).Tidy := created
      exact dropTables_tidy recorded _

/-- In every hunt the stored tables hold only rows that they take. -/
theorem Reachable.tidy (reached : h.Reachable) : h.store.Tidy := by
  induction reached with
  | start config disk => exact fun _ member => absurd member List.not_mem_nil
  | registerConnector _ c ih => exact ih
  | registerModule _ m ih => exact ih
  | @run h before now statement ih =>
    apply run_keeps (fun g => g.store.Tidy) now statement (fun _ _ => ih)
    intro exchange disk product
    exact commit_tidy (h := { h with exchange := exchange, disk := disk }) before.sound.fresh ih
  | close _ ih => exact dropTables_tidy ih _
  | meanwhile _ exchange disk ih => exact ih

end ThreatHunt.Hunt

/-!
Names and nodes. A name stands for a node that was bound to it, so the current nodes are those that
their own names find.
-/

namespace ThreatHunt

namespace Variables

/-- Whether names stand for nodes that were bound to them. -/
def Faithful (vs : Variables) : Prop :=
  ∀ e ∈ vs.names.entries, ∀ v ∈ vs.nodes, v.id = e.2 → v.name = e.1

theorem Faithful.bind {vs : Variables} (faithful : vs.Faithful) (wellFormed : vs.WellFormed)
    (now : Instant) (b : Binding) :
    Faithful ⟨vs.nodes ++ [nodeOf vs.nextId now b], vs.names.insert b.name vs.nextId,
      vs.nextId + 1⟩ := by
  intro e entry v member same
  rcases Dict.mem_insertEntry entry with rfl | old
  · rcases List.mem_append.1 member with before | new
    · exact absurd (wellFormed.below v before) (same ▸ Nat.lt_irrefl _)
    · rw [List.mem_singleton.1 new]
      rfl
  · rcases List.mem_append.1 member with before | new
    · exact faithful e old v before same
    · -- An old name stands for an old node, which has a lower number.
      obtain ⟨w, there, known⟩ := wellFormed.named e old
      have less := wellFormed.below w there
      rw [List.mem_singleton.1 new] at same
      rw [known, ← same] at less
      exact absurd less (Nat.lt_irrefl _)

theorem faithful_bindAll {vs : Variables} (faithful : vs.Faithful) (wellFormed : vs.WellFormed)
    (now : Instant) (bs : List Binding) : (Hunt.bindAll now vs bs).1.Faithful := by
  induction bs generalizing vs with
  | nil => exact faithful
  | cons b rest ih =>
    rcases refused_or_known vs now b with ⟨id, refused⟩ | known
    · simpa only [Hunt.bindAll, refused] using faithful
    · have bound := bind_of_known now known
      have rest := ih (faithful.bind wellFormed now b) (wellFormed.bind now known)
      simpa only [Hunt.bindAll, bound] using rest

/-- The node that a name stands for was bound to this name. -/
theorem Faithful.name_of_find? {vs : Variables} (faithful : vs.Faithful) {name : String}
    {v : Variable} (found : vs.find? name = some v) : v.name = name := by
  obtain ⟨named, member⟩ := names_of_find? found
  exact faithful _ (Dict.mem_of_find? named) v member rfl

/-- The current nodes are those that their names find. -/
theorem mem_list_iff {vs : Variables} (faithful : vs.Faithful) (wellFormed : vs.WellFormed)
    {v : Variable} : v ∈ vs.list ↔ vs.find? v.name = some v := by
  rw [list, List.mem_filter]
  constructor
  · rintro ⟨member, current⟩
    obtain ⟨e, entry, same⟩ := List.any_eq_true.1 current
    have id : v.id = e.2 := (beq_iff_eq.1 same).symm
    have name : v.name = e.1 := faithful e entry v member id
    have named : vs.names.find? v.name = some v.id := by
      rw [name, id]
      exact Dict.find?_of_mem entry
    exact Option.bind_eq_some_iff.2 ⟨v.id, named, node?_of_mem wellFormed.distinct member⟩
  · intro found
    obtain ⟨named, member⟩ := names_of_find? found
    exact ⟨member, List.any_eq_true.2 ⟨_, Dict.mem_of_find? named, beq_self_eq_true v.id⟩⟩

end Variables

namespace Hunt

variable {h : Hunt}

theorem faithful_commit {now : Instant} {statement : PlacedStatement} {product : Product}
    (faithful : h.vars.Faithful) (wellFormed : h.vars.WellFormed) :
    (h.commit now statement product).1.vars.Faithful := by
  unfold commit
  dsimp only
  split
  · exact faithful
  · have bound := Variables.faithful_bindAll faithful wellFormed now
      (bindingsOf statement product (createTables h.store product.tables).2.1)
    split
    · exact bound
    · intro e entry v member
      exact bound e entry v (List.mem_of_mem_filter member)

/-- In every hunt names stand for nodes that were bound to them. -/
theorem Reachable.faithful (reached : h.Reachable) : h.vars.Faithful := by
  induction reached with
  | start config disk => exact fun _ entry => absurd entry List.not_mem_nil
  | registerConnector _ c ih => exact ih
  | registerModule _ m ih => exact ih
  | @run h before now statement ih =>
    apply run_keeps (fun g => g.vars.Faithful) now statement (fun _ _ => ih)
    intro exchange disk product
    exact faithful_commit (h := { h with exchange := exchange, disk := disk }) ih
      before.sound.wellFormed
  | close _ ih => exact fun _ entry => absurd entry List.not_mem_nil
  | meanwhile _ exchange disk ih => exact ih

/-- Each current node stands for a table under its own name. -/
theorem Reachable.table_of_listed (reached : h.Reachable) {now : Instant}
    {statement : PlacedStatement} {v : Variable} {t : Table} (listed : v ∈ h.vars.list)
    (read : (h.scene now statement).tableOf v = .ok t) : h.table v.name = .ok t := by
  obtain ⟨st, there, rfl⟩ := Scene.tableOf_eq_ok.1 read
  have found := (Variables.mem_list_iff reached.faithful reached.sound.wellFormed).1 listed
  exact table_of_stored found there

end Hunt
end ThreatHunt
