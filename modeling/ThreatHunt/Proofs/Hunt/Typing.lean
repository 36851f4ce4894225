import ThreatHunt.Proofs.Hunt.Joined
import ThreatHunt.Proofs.Hunt.Connected
import ThreatHunt.Proofs.Storage.Loading

/-!
Types of stored tables. A schema is made anew by each command, and rows take values from other
tables; still a value never stands under a column that does not take its kind, as long as the same
holds of what modules make and of the documents that are loaded.
-/

namespace ThreatHunt

/-- Whether no row of a table shows more than the schema declares. -/
def Table.Honest (t : Table) : Prop := ∀ row ∈ t.rows, row.Shows t.schema

theorem Table.Typed.honest {t : Table} (typed : t.Typed) : t.Honest :=
  fun row member => (typed row member).shows

/-- Whether a module makes none but honest tables. -/
def Module.Honest (m : Module) : Prop :=
  ∀ count input made, m.run count input = .given made → ∀ e ∈ made.tables.entries, e.2.Honest

def Product.Honest (p : Product) : Prop := ∀ new ∈ p.tables, new.table.Honest

/-- Whether any answer leads to honest tables, as long as a module that is asked is honest. -/
def Plan.Honest : Plan → Prop
  | .ready product => product.Honest
  | .fetch _ _ finish => ∀ fetched : Fetched, fetched.table.Typed → (finish fetched).Honest
  | .relate _ _ finish => ∀ related, (finish related).Honest
  | .invoke module _ finish =>
    module.Honest ∧ ∀ made, (∀ o ∈ made.1, o.2.Honest) → (finish made).Honest
  | .save _ _ finish => ∀ rows, (finish rows).Honest

namespace OutputSpec

theorem honest_conform {spec : OutputSpec} {t made : Table} (honest : t.Honest)
    (conformed : spec.conform t = .ok made) : made.Honest := by
  rcases conform_eq_ok conformed with rfl | ⟨entityType, rfl⟩
  · exact honest
  · exact fun row member => ⟨(honest row member).below, (honest row member).identified⟩

end OutputSpec

namespace Scene

variable {s : Scene} {plan : Plan}

/-- What a scene rests on: typed tables, honest modules, and an honest document if one is to be
loaded. -/
structure Honest (s : Scene) : Prop where
  tables : ∀ v ∈ s.vars.nodes, ∀ t, s.tableOf v = .ok t → t.Typed
  modules : ∀ e ∈ s.modules.entries, e.2.Honest
  documents : ∀ target entityType, s.statement.statement.command = .load target entityType →
    ∀ document, TableFile.HoldsDocument s.disk (Path.ofTarget s.config.storeRoot target) document →
      document.Typed

theorem Honest.operand (honest : s.Honest) {name : Option String} {v : Variable} {t : Table}
    (found : s.operand name = .ok v) (read : s.tableOf v = .ok t) : t.Typed :=
  honest.tables v (mem_of_operand found) t read

theorem honest_single {t : Table} {lineage : List Nat} {sources : List String} (typed : t.Typed) :
    (s.single t lineage sources).Honest := by
  intro new member
  rw [List.mem_singleton.1 member]
  exact typed.honest

theorem honest_planEdges {relation : String} {source target : Table} {window : Option Window}
    {finish : List Edge → Product} (honest : ∀ edges, (finish edges).Honest) :
    (s.planEdges relation source target window finish).Honest := by
  unfold planEdges
  dsimp only
  split
  · exact honest _
  · exact fun _ => honest _

theorem Honest.part (honest : s.Honest) {v : Variable} (member : v ∈ s.vars.nodes)
    {p : Option Pattern} {w : Option Window} {part : Table}
    (made : s.variablePart p w v = .ok part) : part.Typed := by
  obtain ⟨t, read, _, _, rfl⟩ := variablePart_eq_ok.1 made
  exact fun row inside => honest.tables v member t read row (List.mem_of_mem_filter inside)

theorem Honest.planGet (honest : s.Honest) {entityType : String} {named : List Source}
    {pattern : Option Pattern} {span : Option TimeSpan} {limit : Option Nat}
    (planned : s.planGet entityType named pattern span limit = .ok plan) : plan.Honest := by
  obtain ⟨sources, _, _, parts, _, found, _, _, _, read, form⟩ := planGet_eq_ok planned
  have typed : ∀ t ∈ parts, t.Typed := by
    intro t member
    obtain ⟨v, there, made⟩ := Outcome.exists_of_forall₂ read member
    exact honest.part (mem_of_sourcesOf found v there) made
  have bound : ∀ fetched : Option Fetched, (∀ f, fetched = some f → f.table.Typed) →
      ∀ lineage, (s.fetchProduct entityType limit sources lineage parts fetched).Honest := by
    intro fetched answered lineage new member
    rw [List.mem_singleton.1 member]
    refine (((typed_unite ?_).limit limit).retype entityType).honest
    intro t part
    rcases List.mem_append.1 part with mine | its
    · exact typed t mine
    · obtain ⟨f, given, rfl⟩ := Option.map_eq_some_iff.1 (Option.mem_toList.1 its)
      exact answered f given
  rcases form with ⟨_, _, rfl⟩ | ⟨_, rfl⟩
  · exact bound none (fun f given => nomatch given) _
  · exact fun fetched answered =>
      bound (some fetched) (fun f given => Option.some.inj given ▸ answered) _

theorem Honest.planBetween (honest : s.Honest) {relation first second : String}
    {span : Option TimeSpan} (planned : s.planBetween relation first second span = .ok plan) :
    plan.Honest := by
  obtain ⟨a, b, window, source, target, _, second, _, _, _, _, read, form⟩ :=
    planBetween_eq_ok planned
  have typed := honest.operand second read
  have bound : ∀ edges : List Edge, (s.single (Table.ofSchema target.schema
      (Relation.reached relation edges source.ids target.rows)) [a.id, b.id] []).Honest :=
    fun edges => honest_single (fun row member => typed row (List.mem_of_mem_filter member))
  rw [form]
  split
  · exact bound []
  · exact honest_planEdges bound

theorem Honest.planRelated (honest : s.Honest) {entityType relation : String} {reversed : Bool}
    {input : String} {pattern : Option Pattern} {span : Option TimeSpan} {limit : Option Nat}
    (planned : s.planRelated entityType relation reversed input pattern span limit = .ok plan) :
    plan.Honest := by
  obtain ⟨center, prepared, window, tables, around, _, _, _, _, _, _, _, read, _, _, form⟩ :=
    planRelated_eq_ok planned
  have typed : (pool entityType tables).Typed := by
    refine typed_pool (fun t member => ?_)
    obtain ⟨v, there, taken⟩ := Outcome.exists_of_forall₂ read member
    exact honest.tables v (List.mem_of_mem_filter (List.mem_of_mem_filter there)) t taken
  have bound : ∀ lineage edges, (s.foundAround relation prepared window limit
      (pool entityType tables) around lineage edges).Honest := by
    intro lineage edges
    refine honest_single (Table.Typed.limit (fun row member => ?_) limit)
    exact typed row (List.mem_of_mem_filter (List.mem_of_mem_filter member))
  rw [form]
  split
  · exact bound _ []
  · split
    · exact honest_planEdges (bound _)
    · exact honest_planEdges (fun edges => bound _ _)

theorem Honest.mergeOperands (honest : s.Honest) {first : String} {inputs : List String}
    {head : Option Table} {operands : List (Variable × Table)}
    (read : s.mergeOperands first head inputs = .ok operands) : ∀ o ∈ operands, o.2.Typed := by
  induction inputs generalizing head operands with
  | nil =>
    rw [← Except.ok.inj read]
    exact fun _ member => absurd member List.not_mem_nil
  | cons name rest ih =>
    obtain ⟨v, found, _, t, taken, others, later, rfl⟩ := mergeOperands_cons_eq_ok.1 read
    exact List.forall_mem_cons.2 ⟨honest.operand found taken, ih later⟩

/-- Every plan leads to honest tables. -/
theorem plan_honest (honest : s.Honest) (planned : s.plan = .ok plan) : plan.Honest := by
  unfold Scene.plan at planned
  have documents := honest.documents
  generalize s.statement.statement.command = command at planned documents
  cases command with
  | get => exact honest.planGet planned
  | findBetween => exact honest.planBetween planned
  | findRelated => exact honest.planRelated planned
  | join =>
    obtain ⟨a, first, b, second, _, l, left, r, right, _, _, _, _, rfl⟩ := planJoin_eq_ok.1 planned
    refine honest_single (t := Table.ofSchema (joinSchema a b l r) _) ?_
    exact Table.fits_joinRows (honest.operand first left) (honest.operand second right)
      (Schema.covers_unify (by simp)) (Schema.covers_unify (by simp))
  | sort =>
    obtain ⟨v, found, t, read, _, _, rfl⟩ := planSort_eq_ok.1 planned
    refine honest_single (fun row member => ?_)
    exact honest.operand found read row (List.mem_mergeSort.1 member)
  | group =>
    obtain ⟨v, _, _, _, _, _, _, _, rfl⟩ := planGroup_eq_ok.1 planned
    exact honest_single (Table.typed_ofRows _ _)
  | refine =>
    obtain ⟨v, found, t, read, _, _, _, refined, rfl⟩ := planRefine_eq_ok.1 planned
    exact honest_single ((honest.operand found read).refine refined)
  | merge =>
    obtain ⟨operands, read, rfl⟩ := planMerge_eq_ok.1 planned
    refine honest_single (t := mergedTable (operands.map Prod.snd)) ?_
    refine Table.fits_unionRows (fun t member => ?_) Table.covers_unify_schemas
    obtain ⟨o, there, rfl⟩ := List.mem_map.1 member
    exact honest.mergeOperands read o there
  | assign =>
    obtain ⟨v, found, t, read, rfl⟩ := planAssign_eq_ok.1 planned
    exact honest_single (honest.operand found read)
  | apply =>
    obtain ⟨m, registered, operands, _, _, _, rfl⟩ := planApply_eq_ok.1 planned
    refine ⟨honest.modules _ (Dict.mem_of_find? registered), fun made each new member => ?_⟩
    obtain ⟨output, zipped, rfl⟩ := List.mem_map.1 member
    exact each output.2 (List.of_mem_zip zipped).2
  | display =>
    obtain ⟨_, _, _, _, _, _, _, _, rfl⟩ := planDisplay_eq_ok.1 planned
    exact fun _ member => absurd member List.not_mem_nil
  | info =>
    obtain ⟨_, _, _, _, _, _, rfl⟩ := planInfo_eq_ok.1 planned
    exact fun _ member => absurd member List.not_mem_nil
  | save =>
    obtain ⟨_, _, rfl⟩ := planSave_eq_ok.1 planned
    exact fun _ _ member => absurd member List.not_mem_nil
  | load target entityType =>
    obtain ⟨t, read, rfl⟩ := planLoad_eq_ok.1 planned
    exact honest_single (TableFile.typed_read read (documents target entityType rfl))
  | create =>
    obtain ⟨_, _, rfl⟩ := planCreate_eq_ok.1 planned
    exact honest_single (Table.typed_ofRows _ _)

end Scene

namespace Hunt

variable {h : Hunt} {now : Moment} {statement : PlacedStatement}

theorem perform_honest {plan : Plan} {product : Product} (honest : plan.Honest)
    (performed : (h.perform now plan).2 = .ok product) : product.Honest := by
  have yields : plan.Yields Table.Typed Table.Honest Table.Honest := by
    cases plan <;> exact honest
  exact perform_yields Merge.typed_replies (fun _ _ _ => OutputSpec.honest_conform) yields performed

/-- The hunts that come about from honest modules and honest documents. -/
inductive Honest : Hunt → Prop where
  | start (config : Config) (disk : Disk) : Honest (start config disk)
  | registerConnector {h : Hunt} (honest : Honest h) (c : Connector) :
      Honest (h.registerConnector c)
  | registerModule {h : Hunt} (honest : Honest h) {m : Module} (module : m.Honest) :
      Honest (h.registerModule m)
  | run {h : Hunt} (honest : Honest h) (now : Moment) (statement : PlacedStatement)
      (documents : ∀ target entityType, statement.statement.command = .load target entityType →
        ∀ document, TableFile.HoldsDocument h.disk (Path.ofTarget h.config.storeRoot target)
          document → document.Typed) :
      Honest (h.run now statement).1
  | close {h : Hunt} (honest : Honest h) : Honest h.close.1
  | meanwhile {h : Hunt} (honest : Honest h) (exchange : Exchange) (disk : Disk) :
      Honest { h with exchange := exchange, disk := disk }

theorem Honest.reachable (honest : h.Honest) : h.Reachable := by
  induction honest with
  | start config disk => exact .start config disk
  | registerConnector _ c ih => exact ih.registerConnector c
  | registerModule _ _ ih => exact ih.registerModule _
  | run _ now statement _ ih => exact ih.run now statement
  | close _ ih => exact ih.close
  | meanwhile _ exchange disk ih => exact ih.meanwhile exchange disk

theorem commit_modules {time : Instant} {product : Product} :
    (h.commit time statement product).1.modules = h.modules := by
  unfold commit
  dsimp only
  split
  · rfl
  · split <;> rfl

theorem run_modules : (h.run now statement).1.modules = h.modules :=
  run_keeps (fun g => g.modules = h.modules) now statement (fun _ _ => rfl)
    (fun _ _ _ => commit_modules)

/-- What holds of an honest hunt at any time. -/
structure Typed (h : Hunt) : Prop where
  tables : ∀ t ∈ h.store.tables, ∀ row ∈ t.rows, row.Fits t.schema
  modules : ∀ e ∈ h.modules.entries, e.2.Honest

theorem Typed.scene (typed : h.Typed) (reachable : h.Reachable)
    (documents : ∀ target entityType, statement.statement.command = .load target entityType →
      ∀ document, TableFile.HoldsDocument h.disk (Path.ofTarget h.config.storeRoot target)
        document → document.Typed) : (h.scene now.time statement).Honest where
  tables := by
    intro v member t read
    obtain ⟨st, there, schema, rows⟩ := reachable.sound.stored_of_tableOf member read
    have fits := typed.tables st there
    rw [schema, rows] at fits
    exact fits
  modules := typed.modules
  documents := documents

/-- A table that was made honestly fits once it is stored. -/
theorem fits_stored {new : Table} {handle : TableHandle} (honest : new.Honest)
    (taken : Store.Accepts new.schema (Store.stored handle new).rows) :
    ∀ row ∈ (Store.stored handle new).rows, row.Fits new.schema := by
  intro row member
  have known := taken.known row member
  obtain ⟨before, there, rfl⟩ := List.mem_map.1 member
  refine Entity.Fits.conformTo ((honest before there).fits (fun name shown => known name ?_))
  exact (Entity.contains_conformTo new.schema before name).2 (.inl shown)

theorem Honest.typed (honest : h.Honest) : h.Typed := by
  induction honest with
  | start config disk =>
    exact ⟨fun _ member => absurd member List.not_mem_nil,
      fun _ entry => absurd entry List.not_mem_nil⟩
  | registerConnector _ c ih => exact ⟨ih.tables, ih.modules⟩
  | registerModule _ module ih =>
    refine ⟨ih.tables, fun e entry => ?_⟩
    rcases Dict.mem_insertEntry entry with rfl | old
    · exact module
    · exact ih.modules e old
  | run before now statement documents ih =>
    refine ⟨fun t member => ?_, fun e entry => ih.modules e (run_modules ▸ entry)⟩
    have taken := (before.reachable.run now statement).tidy t member
    rcases mem_tables_of_run before.reachable member with
      old | ⟨plan, product, planned, performed, new, made, stored⟩
    · exact ih.tables t old
    · have honest := perform_honest
        (Scene.plan_honest (ih.scene before.reachable documents) planned) performed
      rw [stored] at taken ⊢
      exact fits_stored (honest new made) taken
  | close _ ih =>
    refine ⟨fun t member => ?_, fun _ entry => absurd entry List.not_mem_nil⟩
    simp only [Hunt.close, dropTables_eq] at member
    exact ih.tables t (List.mem_of_mem_filter member)
  | meanwhile _ exchange disk ih => exact ⟨ih.tables, ih.modules⟩

end Hunt
end ThreatHunt
