import ThreatHunt.Proofs.Hunt.Committed
import ThreatHunt.Proofs.Hunt.Joined
import ThreatHunt.Proofs.Table.Relations

/-!
Where stored tables come from. A statement stores the tables of its product and no others, each row
with a value under every column; so what holds of all products holds of all that is stored.
-/

namespace ThreatHunt

/-- Whether a module makes tables of a kind only. -/
def Module.Gives (given : Table → Prop) (m : Module) : Prop :=
  ∀ count input made, m.run count input = .given made → ∀ e ∈ made.tables.entries, given e.2

/-- Whether any answer leads to tables of a kind, as long as those that are fetched and those that a
module gives are of kinds of their own. -/
def Plan.Yields (fetched given made : Table → Prop) : Plan → Prop
  | .ready product => ∀ new ∈ product.tables, made new.table
  | .fetch _ _ finish => ∀ answer : Fetched, fetched answer.table →
    ∀ new ∈ (finish answer).tables, made new.table
  | .relate _ _ finish => ∀ related, ∀ new ∈ (finish related).tables, made new.table
  | .invoke module _ finish =>
    module.Gives given ∧ ∀ answer, (∀ o ∈ answer.1, given o.2) →
      ∀ new ∈ (finish answer).tables, made new.table
  | .save _ _ finish => ∀ rows, ∀ new ∈ (finish rows).tables, made new.table

/-- Whether tables of a kind are still of that kind when they are taken for declared outputs. -/
def OutputSpec.Preserve (given : Table → Prop) : Prop :=
  ∀ (spec : OutputSpec) t made, given t → spec.conform t = .ok made → given made

/-- A table that is taken for an output is as it was made, up to its type. -/
theorem OutputSpec.conform_eq_ok {spec : OutputSpec} {t made : Table}
    (conformed : spec.conform t = .ok made) : made = t ∨ ∃ entityType, made = t.retype entityType := by
  simp only [conform, pure_bind] at conformed
  split at conformed
  · split at conformed
    · cases conformed
    · exact .inl (Outcome.pure_eq_ok.1 conformed).symm
  · split at conformed
    · split at conformed
      · cases conformed
      · exact .inr ⟨_, (Outcome.pure_eq_ok.1 conformed).symm⟩
    · split at conformed
      · split at conformed
        · cases conformed
        · exact .inl (Outcome.pure_eq_ok.1 conformed).symm
      · cases conformed

theorem OutputSpec.Preserve.collect {given : Table → Prop} (preserve : Preserve given)
    {outputs : List OutputSpec} {made : Dict Table} {tables : List (OutputSpec × Table)}
    (each : ∀ e ∈ made.entries, given e.2) (collected : OutputSpec.collect outputs made = .ok tables) :
    ∀ o ∈ tables, given o.2 := by
  intro o member
  obtain ⟨_, _, conform⟩ := OutputSpec.collect_eq_ok collected
  obtain ⟨t, found, conformed⟩ := conform o member
  exact preserve o.1 t o.2 (each _ (Dict.mem_of_find? found)) conformed

namespace Hunt

variable {h : Hunt} {product : Product} {t : StoredTable}

theorem mem_tables_of_commit (sound : h.Sound) (derived : product.DerivedIn h.vars) {now : Instant}
    {statement : PlacedStatement} (member : t ∈ (h.commit now statement product).1.store.tables) :
    t ∈ h.store.tables ∨ ∃ new ∈ product.tables, t = Store.stored t.handle new.table := by
  cases outcome : (h.commit now statement product).2 with
  | error error =>
    obtain ⟨created, _, after⟩ := commit_of_error sound.fresh sound.wellFormed derived outcome
    rw [after] at member
    exact .inl member
  | ok completion =>
    obtain ⟨store, made, vars, _, added, stored, _, _, _, after⟩ :=
      commit_of_ok sound.fresh sound.wellFormed derived outcome
    rw [after] at member
    have there : t ∈ store.tables := mem_tables_of_collectGarbage member
    rw [added.tables] at there
    rcases List.mem_append.1 there with old | new
    · exact .inl old
    · exact .inr (Outcome.exists_of_forall₂ stored new)

/-- A table that is stored after a statement was stored before or is one of its product. -/
theorem mem_tables_of_run (reachable : h.Reachable) {now : Moment} {statement : PlacedStatement}
    (member : t ∈ (h.run now statement).1.store.tables) :
    t ∈ h.store.tables ∨ ∃ plan product, (h.scene now.time statement).plan = .ok plan ∧
      (h.perform now plan).2 = .ok product ∧
      ∃ new ∈ product.tables, t = Store.stored t.handle new.table := by
  have stages := h.stages_run now statement
  generalize h.run now statement = result at member stages
  cases stages with
  | senseless planned => exact .inl member
  | unanswered planned performed => exact .inl member
  | @committed plan exchange disk product planned performed =>
    have derived : product.DerivedIn h.vars :=
      perform_derived (Scene.plan_derived planned) (congrArg Prod.snd performed)
    have sound : Sound { h with exchange := exchange, disk := disk } :=
      reachable.sound.congr rfl rfl
    rcases mem_tables_of_commit sound derived member with old | new
    · exact .inl old
    · exact .inr ⟨plan, product, planned, congrArg Prod.snd performed, new⟩

/-- What a plan yields is what it makes when it is carried out. -/
theorem perform_yields {fetched given made : Table → Prop}
    (answers : ∀ times q rs, fetched (Merge.replies times q rs).table)
    (preserve : OutputSpec.Preserve given) {plan : Plan} {now : Moment}
    (yields : plan.Yields fetched given made) (performed : (h.perform now plan).2 = .ok product) :
    ∀ new ∈ product.tables, made new.table := by
  cases plan with
  | ready ready => exact Except.ok.inj performed ▸ yields
  | fetch query connectors finish =>
    exact Except.ok.inj performed ▸ yields _ (answers _ _ _)
  | relate query connectors finish => exact Except.ok.inj performed ▸ yields _
  | invoke module input finish =>
    obtain ⟨gives, finishes⟩ := yields
    obtain ⟨output, tables, answer, collected, rfl⟩ := answered_of_invoke performed
    exact finishes (tables, output.millis) (preserve.collect (gives _ _ output answer) collected)
  | save handle path finish =>
    obtain ⟨rows, _, rfl⟩ := written_of_save performed
    exact yields rows

/-- In every hunt the stored rows have a value under every column. -/
theorem Reachable.filled (reached : h.Reachable) :
    ∀ t ∈ h.store.tables, ∀ row ∈ t.rows, row.Fills t.schema := by
  induction reached with
  | start config disk => exact fun _ member => absurd member List.not_mem_nil
  | registerConnector _ c ih => exact ih
  | registerModule _ m ih => exact ih
  | run before now statement ih =>
    intro t member row inside
    rcases mem_tables_of_run before member with old | ⟨_, _, _, _, new, _, made⟩
    · exact ih t old row inside
    · rw [made] at inside ⊢
      obtain ⟨given, _, rfl⟩ := List.mem_map.1 inside
      exact Entity.fills_conformTo new.table.schema given
  | close _ ih =>
    intro t member
    simp only [Hunt.close, dropTables_eq] at member
    exact ih t (List.mem_of_mem_filter member)
  | meanwhile _ exchange disk ih => exact ih

end Hunt
end ThreatHunt

/-!
Searches along relationships. However edges are collected, a search between two variables keeps just
those rows of the second that an admissible edge joins to the first.
-/

namespace ThreatHunt

namespace Scene

variable {s : Scene}

theorem plan_findBetween {relation first second : String} {span : Option TimeSpan}
    (finds : s.statement.statement.command = .findBetween relation first second span) :
    s.plan = s.planBetween relation first second span := by
  unfold plan
  rw [finds]

end Scene

namespace Hunt

open ThreatHunt.Relation (Admissible Goes Shown linked)

variable {h : Hunt} {now : Moment} {statement : PlacedStatement} {relation : String}
  {source target : Table} {window : Option Window}

/-- The edges that a search from one table to another sees. -/
inductive Sees (h : Hunt) (relation : String) (source target : Table) (window : Option Window)
    (e : Edge) : Prop where
  | recorded (member : e ∈ h.store.edges)
  | shown (shows : Shown relation source target e)
  | answered (answers : h.exchange.Answers ⟨relation, source.ids, window⟩
      (h.connectors.forRelation relation) e)

/-- Whether an admissible edge joins an entity to a row of a table. -/
def Joined (h : Hunt) (relation : String) (source target : Table) (window : Option Window)
    (id : String) : Prop :=
  ∃ e, h.Sees relation source target window e ∧ Admissible relation window e ∧
    Goes relation source.ids id e

theorem mem_knownEdges {time : Instant} {e : Edge} :
    e ∈ ((h.scene time statement).knownEdges relation source target).filter
        (Relation.counts relation window) ↔
      Admissible relation window e ∧ (e ∈ h.store.edges ∨ Shown relation source target e) := by
  rw [List.mem_filter, Relation.counts_iff, and_comm]
  refine and_congr_right (fun admissible => ?_)
  rw [Scene.knownEdges, List.mem_append, Relation.mem_edges]
  refine or_congr ?_ Iff.rfl
  by_cases any : relation = linked
  · simp [any, Store.edgesOf, scene]
  · simp [any, Store.edgesOf, scene, admissible.named.resolve_left any]

/-- The collection of edges ends in a product made of just the admissible edges that are seen. -/
theorem perform_planEdges {finish : List Edge → Product} {product : Product}
    (performed : (h.perform now ((h.scene now.time statement).planEdges relation source target
      window finish)).2 = .ok product) :
    ∃ edges, product.tables = (finish edges).tables ∧
      ∀ e, e ∈ edges ↔ Admissible relation window e ∧ h.Sees relation source target window e := by
  have sees : ∀ e, h.Sees relation source target window e ↔
      (e ∈ h.store.edges ∨ Shown relation source target e) ∨
        h.exchange.Answers ⟨relation, source.ids, window⟩ (h.connectors.forRelation relation) e := by
    intro e
    constructor
    · rintro (recorded | shows | answers)
      · exact .inl (.inl recorded)
      · exact .inl (.inr shows)
      · exact .inr answers
    · rintro ((recorded | shows) | answers)
      · exact .recorded recorded
      · exact .shown shows
      · exact .answered answers
  unfold Scene.planEdges at performed
  dsimp only at performed
  split at performed
  · rename_i alone
    refine ⟨_, congrArg Product.tables (Except.ok.inj performed).symm, fun e => ?_⟩
    have nobody : h.connectors.forRelation relation = [] := List.isEmpty_iff.1 alone
    have silent : ¬h.exchange.Answers ⟨relation, source.ids, window⟩ [] e := by
      rintro ⟨asked, _, _⟩
      simp at asked
    rw [mem_knownEdges, sees, nobody]
    tauto
  · rw [← Except.ok.inj performed]
    refine ⟨_, rfl, fun e => ?_⟩
    rw [List.filter_append, List.mem_append, mem_knownEdges, sees, List.mem_filter,
      Relation.counts_iff, Exchange.mem_relate]
    have of : Admissible relation window e → Exchange.isOf relation e = true := by
      intro admissible
      simpa [Exchange.isOf, linked, or_comm] using admissible.named
    tauto

theorem table_of_operand {time : Instant} {name : String} {v : Variable} {t : Table}
    (found : (h.scene time statement).operand (some name) = .ok v)
    (read : (h.scene time statement).tableOf v = .ok t) : h.table name = .ok t := by
  obtain ⟨st, there, rfl⟩ := Scene.tableOf_eq_ok.1 read
  exact table_of_stored (Variables.resolve_eq_ok.1 found) there

/-- The rows of a variable lack no value under its columns. -/
theorem fills_of_tableOf (reachable : h.Reachable) {time : Instant} {v : Variable} {t : Table}
    (member : v ∈ h.vars.nodes) (read : (h.scene time statement).tableOf v = .ok t) :
    ∀ row ∈ t.rows, row.Fills t.schema := by
  obtain ⟨st, there, schema, rows⟩ := reachable.sound.stored_of_tableOf member read
  rw [← schema, ← rows]
  exact reachable.filled st there

theorem not_joined_of_empty (none : source.rows = []) (id : String) :
    ¬h.Joined relation source target window id := by
  rintro ⟨e, _, _, ⟨within, _⟩ | ⟨_, within, _⟩⟩
  · simp [Table.ids, none] at within
  · simp [Table.ids, none] at within

/-- A search between two variables ends in the rows that are joined, found by some list of edges. -/
theorem perform_planBetween {first second : String} {span : Option TimeSpan} {plan : Plan}
    {product : Product}
    (planned : (h.scene now.time statement).planBetween relation first second span = .ok plan)
    (performed : (h.perform now plan).2 = .ok product) :
    ∃ a b window source target edges,
      (h.scene now.time statement).operand (some first) = .ok a ∧
      (h.scene now.time statement).operand (some second) = .ok b ∧
      (h.scene now.time statement).window span = .ok window ∧
      (h.scene now.time statement).tableOf a = .ok source ∧
      (h.scene now.time statement).tableOf b = .ok target ∧
      product.tables = [⟨(h.scene now.time statement).outputName, Table.ofSchema target.schema
        (Relation.reached relation edges source.ids target.rows), [a.id, b.id], []⟩] ∧
      ∀ row ∈ target.rows, edges.any (Relation.leadsTo relation source.ids row.id) = true ↔
        h.Joined relation source target window row.id := by
  obtain ⟨a, b, window, source, target, named, other, _, _, spanned, left, right, form⟩ :=
    Scene.planBetween_eq_ok planned
  dsimp only at form
  by_cases empty : (source.isEmpty || target.isEmpty) = true
  · rw [if_pos empty] at form
    rw [form] at performed
    rw [← Except.ok.inj performed]
    refine ⟨a, b, window, source, target, [], named, other, spanned, left, right, rfl, ?_⟩
    intro row member
    rcases Bool.or_eq_true_iff.1 empty with none | none
    · simpa using not_joined_of_empty (List.isEmpty_iff.1 none) row.id
    · rw [List.isEmpty_iff.1 none] at member
      exact absurd member List.not_mem_nil
  · rw [if_neg empty] at form
    rw [form] at performed
    obtain ⟨edges, made, collected⟩ := perform_planEdges performed
    refine ⟨a, b, window, source, target, edges, named, other, spanned, left, right, made, ?_⟩
    intro row member
    simp only [List.any_eq_true, Relation.leadsTo_iff, collected, Joined]
    constructor
    · rintro ⟨e, ⟨admissible, seen⟩, goes⟩
      exact ⟨e, seen, admissible, goes⟩
    · rintro ⟨e, seen, admissible, goes⟩
      exact ⟨e, ⟨admissible, seen⟩, goes⟩

/-- A search between two variables that succeeds binds the rows of the second, in their order and
under their schema, to which an admissible edge leads from a row of the first. -/
theorem run_findBetween (reachable : h.Reachable) {first second : String} {span : Option TimeSpan}
    (finds : statement.statement.command = .findBetween relation first second span)
    {completion : Completion} (completed : (h.run now statement).2 = .ok completion) :
    ∃ source target window, ∃ joined : Entity → Bool,
      h.table first = .ok source ∧ h.table second = .ok target ∧
      (h.scene now.time statement).window span = .ok window ∧
      (∀ row ∈ target.rows, joined row = true ↔ h.Joined relation source target window row.id) ∧
      (h.run now statement).1.table (h.scene now.time statement).outputName =
        .ok { target with rows := target.rows.filter joined } ∧
      (source.rows = [] → target.rows.filter joined = []) := by
  have stages := h.stages_run now statement
  generalize h.run now statement = result at completed stages ⊢
  cases stages with
  | senseless planned => nomatch completed
  | unanswered planned performed => nomatch completed
  | @committed plan exchange disk product planned performed =>
    have derived : product.DerivedIn h.vars :=
      perform_derived (Scene.plan_derived planned) (congrArg Prod.snd performed)
    have sound : Sound { h with exchange := exchange, disk := disk } :=
      reachable.sound.congr rfl rfl
    rw [Scene.plan_findBetween finds] at planned
    obtain ⟨a, b, window, source, target, edges, named, other, spanned, left, right, one, leads⟩ :=
      perform_planBetween planned (congrArg Prod.snd performed)
    have accepted := accepts_of_commit sound.fresh one completed
    have bound : (commit { h with exchange := exchange, disk := disk } now.time statement
        product).1.table _ = _ := table_commit sound derived one accepted
    have whole : ∀ row ∈ Relation.reached relation edges source.ids target.rows,
        row.Fills target.schema := by
      intro row member
      exact fills_of_tableOf reachable (Scene.mem_of_operand other) right row
        (List.mem_of_mem_filter member)
    have type : target.entityType = target.schema.entityType := by
      obtain ⟨st, _, rfl⟩ := Scene.tableOf_eq_ok.1 right
      rfl
    refine ⟨source, target, window, _, table_of_operand named left, table_of_operand other right,
      spanned, leads, ?_, fun none => ?_⟩
    · rw [bound]
      simp only [Table.ofSchema, Table.conformRows_of_fills whole, type]
      rfl
    · refine List.filter_eq_nil_iff.2 (fun row member joined => ?_)
      exact not_joined_of_empty none row.id ((leads row member).1 joined)

/-- A connector that saw one process access another. -/
def accessLog : Connector :=
  { name := "edr"
    capabilities := (Capabilities.ofTypes []).withRelations ["accessed"]
    client :=
      { answer := fun _ _ => .given ⟨[], []⟩
        relate := fun _ _ => .given [⟨"accessed", "p1", "q2", none⟩] } }

def findAccessed : PlacedStatement :=
  ⟨"r = FIND accessed BETWEEN a AND b", 1, 1, some "r", .findBetween "accessed" "a" "b" none⟩

theorem run_findBetween_answered :
    ∃ t, ((recorded.registerConnector accessLog).run epoch findAccessed).1.table "r" = .ok t ∧
      "q2" ∈ t.ids := by
  have reached : (recorded.registerConnector accessLog).Reachable :=
    reachable_recorded.registerConnector _
  have completed : ∃ completion,
      ((recorded.registerConnector accessLog).run epoch findAccessed).2 = .ok completion := by
    rw [recorded_eq]
    exact ⟨_, rfl⟩
  obtain ⟨completion, completed⟩ := completed
  obtain ⟨source, target, window, joined, left, right, _, leads, bound, _⟩ :=
    run_findBetween reached rfl completed
  refine ⟨_, bound, ?_⟩
  rw [recorded_eq] at left right leads
  obtain rfl := Except.ok.inj left
  obtain ⟨row, inside, last⟩ : ∃ row ∈ target.rows, row.id = "q2" := by
    rw [← Except.ok.inj right]
    decide +kernel
  have goes : Goes "accessed" _ row.id ⟨"accessed", "p1", "q2", none⟩ :=
    .inl ⟨List.mem_singleton_self "p1", last.symm⟩
  have answers : (start .standard Disk.empty).exchange.Answers ⟨"accessed", ["p1"], window⟩
      [accessLog] ⟨"accessed", "p1", "q2", none⟩ :=
    .intro (i := 0) rfl rfl (List.mem_singleton_self _)
  have joins := (leads row inside).2
    ⟨_, .answered answers, ⟨.inr rfl, fun _ _ _ seen => nomatch seen⟩, goes⟩
  exact List.mem_map.2 ⟨row, List.mem_filter.2 ⟨inside, joins⟩, last⟩

end Hunt
end ThreatHunt
