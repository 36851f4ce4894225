import ThreatHunt.Proofs.Hunt.Typing
import ThreatHunt.Proofs.Table.Unrepeated

/-!
Columns of variables. Whatever a statement makes of tables that have each column once has each
column once, as long as no list of attributes to keep names one twice.
-/

namespace ThreatHunt

/-- Whether a command does not list an attribute to keep twice. -/
def Command.NamesOnce : Command → Prop
  | .refine _ r => r.NamesOnce
  | _ => True

theorem OutputSpec.preserve_unrepeated : Preserve Table.Unrepeated := by
  intro spec t made unrepeated conformed
  rcases conform_eq_ok conformed with rfl | ⟨entityType, rfl⟩
  · exact unrepeated
  · exact unrepeated

/-- Whether each answer to a plan leads to tables that have each column once. -/
abbrev Plan.Unrepeated (plan : Plan) : Prop :=
  plan.Yields Table.Unrepeated Table.Unrepeated Table.Unrepeated

namespace Scene

variable {s : Scene} {plan : Plan}

/-- What a scene rests on: columns of variables, of modules and of a document that is to be loaded
stand once each, and the statement does not list an attribute twice. -/
structure Unrepeated (s : Scene) : Prop where
  vars : ∀ v ∈ s.vars.nodes, v.schema.Unrepeated
  modules : ∀ e ∈ s.modules.entries, e.2.Gives Table.Unrepeated
  documents : ∀ target entityType, s.statement.statement.command = .load target entityType →
    ∀ document, TableFile.HoldsDocument s.disk (Path.ofTarget s.config.storeRoot target) document →
      document.Unrepeated
  command : s.statement.statement.command.NamesOnce

theorem Unrepeated.table (unrepeated : s.Unrepeated) {v : Variable} (member : v ∈ s.vars.nodes)
    {t : Table} (read : s.tableOf v = .ok t) : t.Unrepeated := by
  obtain ⟨_, _, rfl⟩ := tableOf_eq_ok.1 read
  exact unrepeated.vars v member

theorem Unrepeated.operand (unrepeated : s.Unrepeated) {name : Option String} {v : Variable}
    {t : Table} (found : s.operand name = .ok v) (read : s.tableOf v = .ok t) : t.Unrepeated :=
  unrepeated.table (mem_of_operand found) read

theorem unrepeated_single {t : Table} {lineage : List Nat} {sources : List String}
    (unrepeated : t.Unrepeated) :
    ∀ new ∈ (s.single t lineage sources).tables, new.table.Unrepeated := by
  intro new member
  rw [List.mem_singleton.1 member]
  exact unrepeated

theorem unrepeated_planEdges {relation : String} {source target : Table} {window : Option Window}
    {finish : List Edge → Product}
    (unrepeated : ∀ edges, ∀ new ∈ (finish edges).tables, new.table.Unrepeated) :
    (s.planEdges relation source target window finish).Unrepeated := by
  unfold planEdges
  dsimp only
  split
  · exact unrepeated _
  · exact fun _ => unrepeated _

theorem Unrepeated.planGet (unrepeated : s.Unrepeated) {entityType : String} {named : List Source}
    {pattern : Option Pattern} {span : Option TimeSpan} {limit : Option Nat}
    (planned : s.planGet entityType named pattern span limit = .ok plan) : plan.Unrepeated := by
  obtain ⟨sources, _, _, parts, _, found, _, _, _, read, form⟩ := planGet_eq_ok planned
  have each : ∀ t ∈ parts, t.Unrepeated := by
    intro part member
    obtain ⟨v, there, made⟩ := Outcome.exists_of_forall₂ read member
    obtain ⟨t, taken, _, _, rfl⟩ := variablePart_eq_ok.1 made
    have own : t.Unrepeated := unrepeated.table (mem_of_sourcesOf found v there) taken
    exact own
  have bound : ∀ fetched : Option Fetched, (∀ f, fetched = some f → f.table.Unrepeated) →
      ∀ lineage, ∀ new ∈ (s.fetchProduct entityType limit sources lineage parts fetched).tables,
        new.table.Unrepeated := by
    intro fetched answered lineage new member
    rw [List.mem_singleton.1 member]
    have united : (unite entityType
        (parts ++ (fetched.map Fetched.table).toList)).1.Unrepeated := by
      apply unrepeated_unite
      intro t part
      rcases List.mem_append.1 part with mine | its
      · exact each t mine
      · obtain ⟨f, given, rfl⟩ := Option.map_eq_some_iff.1 (Option.mem_toList.1 its)
        exact answered f given
    exact united.limit limit
  rcases form with ⟨_, _, rfl⟩ | ⟨_, rfl⟩
  · exact bound none (fun f given => nomatch given) _
  · exact fun fetched answered =>
      bound (some fetched) (fun f given => Option.some.inj given ▸ answered) _

theorem Unrepeated.planBetween (unrepeated : s.Unrepeated) {relation first second : String}
    {span : Option TimeSpan} (planned : s.planBetween relation first second span = .ok plan) :
    plan.Unrepeated := by
  obtain ⟨a, b, window, source, target, _, second, _, _, _, _, read, form⟩ :=
    planBetween_eq_ok planned
  have own : target.Unrepeated := unrepeated.operand second read
  have bound : ∀ edges : List Edge, ∀ new ∈ (s.single (Table.ofSchema target.schema
      (Relation.reached relation edges source.ids target.rows)) [a.id, b.id] []).tables,
      new.table.Unrepeated :=
    fun edges => unrepeated_single own
  rw [form]
  split
  · exact bound []
  · exact unrepeated_planEdges bound

theorem unrepeated_planRelated {entityType relation : String} {reversed : Bool} {input : String}
    {pattern : Option Pattern} {span : Option TimeSpan} {limit : Option Nat}
    (planned : s.planRelated entityType relation reversed input pattern span limit = .ok plan) :
    plan.Unrepeated := by
  obtain ⟨center, prepared, window, tables, around, _, _, _, _, _, _, _, _, _, _, form⟩ :=
    planRelated_eq_ok planned
  have pooled : (pool entityType tables).Unrepeated := Schema.unrepeated_unify _
  have bound : ∀ lineage edges, ∀ new ∈ (s.foundAround relation prepared window limit
      (pool entityType tables) around lineage edges).tables, new.table.Unrepeated := by
    intro lineage edges
    apply unrepeated_single
    apply Table.Unrepeated.limit
    exact pooled
  rw [form]
  split
  · exact bound _ []
  · split
    · exact unrepeated_planEdges (bound _)
    · exact unrepeated_planEdges (fun edges => bound _ _)

/-- Every plan leads to tables that have each column once. -/
theorem plan_unrepeated (unrepeated : s.Unrepeated) (planned : s.plan = .ok plan) :
    plan.Unrepeated := by
  unfold Scene.plan at planned
  have documents := unrepeated.documents
  have once := unrepeated.command
  generalize s.statement.statement.command = command at planned documents once
  cases command with
  | get => exact unrepeated.planGet planned
  | findBetween => exact unrepeated.planBetween planned
  | findRelated => exact unrepeated_planRelated planned
  | join =>
    obtain ⟨_, _, _, _, _, _, _, _, _, _, _, _, _, rfl⟩ := planJoin_eq_ok.1 planned
    exact unrepeated_single (Schema.unrepeated_unify _)
  | sort =>
    obtain ⟨v, found, t, read, _, _, rfl⟩ := planSort_eq_ok.1 planned
    have own : t.Unrepeated := unrepeated.operand found read
    exact unrepeated_single own
  | group =>
    obtain ⟨_, _, _, _, _, _, _, _, rfl⟩ := planGroup_eq_ok.1 planned
    exact unrepeated_single (Table.unrepeated_ofRows _ _)
  | refine input r =>
    obtain ⟨v, found, t, read, prepared, ready, _, refined, rfl⟩ := planRefine_eq_ok.1 planned
    obtain ⟨pattern, _, rfl⟩ := prepareRefinement_eq_ok.1 ready
    have own : t.Unrepeated := unrepeated.operand found read
    have same : Refinement.NamesOnce { r with pattern := pattern } := once
    exact unrepeated_single (Table.unrepeated_refine own same refined)
  | merge =>
    obtain ⟨_, _, rfl⟩ := planMerge_eq_ok.1 planned
    exact unrepeated_single (Schema.unrepeated_unify _)
  | assign =>
    obtain ⟨v, found, t, read, rfl⟩ := planAssign_eq_ok.1 planned
    exact unrepeated_single (unrepeated.operand found read)
  | apply =>
    obtain ⟨m, registered, _, _, _, _, rfl⟩ := planApply_eq_ok.1 planned
    refine ⟨unrepeated.modules _ (Dict.mem_of_find? registered), ?_⟩
    intro made each new member
    obtain ⟨output, zipped, rfl⟩ := List.mem_map.1 member
    exact each output.2 (List.of_mem_zip zipped).2
  | display =>
    obtain ⟨_, _, _, _, _, _, _, _, rfl⟩ := planDisplay_eq_ok.1 planned
    exact fun _ member => absurd member List.not_mem_nil
  | info =>
    obtain ⟨_, _, _, _, _, _, rfl⟩ := planInfo_eq_ok.1 planned
    exact fun _ member => absurd member List.not_mem_nil
  | save =>
    obtain ⟨_, _, rfl⟩ := planSave_eq_ok.1 planned
    exact fun _ _ member => absurd member List.not_mem_nil
  | load target entityType =>
    obtain ⟨t, read, rfl⟩ := planLoad_eq_ok.1 planned
    exact unrepeated_single (TableFile.unrepeated_read read (documents target entityType rfl))
  | create =>
    obtain ⟨_, _, rfl⟩ := planCreate_eq_ok.1 planned
    exact unrepeated_single (Table.unrepeated_ofRows _ _)

end Scene

namespace Hunt

variable {permits : Command → Prop} {h : Hunt}

/-- The hunts that come about, by commands of some kind, from modules and documents whose schemas
list each column once. -/
inductive Supplied (permits : Command → Prop) : Hunt → Prop where
  | start (config : Config) (disk : Disk) : Supplied permits (start config disk)
  | registerConnector {h : Hunt} (supplied : Supplied permits h) (c : Connector) :
      Supplied permits (h.registerConnector c)
  | registerModule {h : Hunt} (supplied : Supplied permits h) {m : Module}
      (module : m.Gives Table.Unrepeated) : Supplied permits (h.registerModule m)
  | run {h : Hunt} (supplied : Supplied permits h) (now : Moment) (statement : PlacedStatement)
      (permitted : permits statement.statement.command)
      (documents : ∀ target entityType, statement.statement.command = .load target entityType →
        ∀ document, TableFile.HoldsDocument h.disk (Path.ofTarget h.config.storeRoot target)
          document → document.Unrepeated) :
      Supplied permits (h.run now statement).1
  | close {h : Hunt} (supplied : Supplied permits h) : Supplied permits h.close.1
  | meanwhile {h : Hunt} (supplied : Supplied permits h) (exchange : Exchange) (disk : Disk) :
      Supplied permits { h with exchange := exchange, disk := disk }

theorem Supplied.reachable (supplied : h.Supplied permits) : h.Reachable := by
  induction supplied with
  | start config disk => exact .start config disk
  | registerConnector _ c ih => exact ih.registerConnector c
  | registerModule _ _ ih => exact ih.registerModule _
  | run _ now statement _ _ ih => exact ih.run now statement
  | close _ ih => exact ih.close
  | meanwhile _ exchange disk ih => exact ih.meanwhile exchange disk

/-- What such a hunt holds if its statements list no attribute twice. -/
structure Unrepeated (h : Hunt) : Prop where
  tables : ∀ t ∈ h.store.tables, t.schema.Unrepeated
  modules : ∀ e ∈ h.modules.entries, e.2.Gives Table.Unrepeated

theorem Unrepeated.vars (unrepeated : h.Unrepeated) (reachable : h.Reachable) :
    ∀ v ∈ h.vars.nodes, v.schema.Unrepeated := by
  intro v member
  obtain ⟨t, found, stands⟩ := reachable.sound.stored member
  exact stands.schema ▸ unrepeated.tables t (List.mem_of_find?_eq_some found)

theorem Supplied.unrepeated (supplied : h.Supplied Command.NamesOnce) : h.Unrepeated := by
  induction supplied with
  | start config disk =>
    exact ⟨fun _ member => absurd member List.not_mem_nil,
      fun _ entry => absurd entry List.not_mem_nil⟩
  | registerConnector _ c ih => exact ⟨ih.tables, ih.modules⟩
  | registerModule _ module ih =>
    refine ⟨ih.tables, fun e entry => ?_⟩
    rcases Dict.mem_insertEntry entry with rfl | old
    · exact module
    · exact ih.modules e old
  | run before now statement permitted documents ih =>
    refine ⟨fun t member => ?_, fun e entry => ih.modules e (run_modules ▸ entry)⟩
    rcases mem_tables_of_run before.reachable member with
      old | ⟨plan, product, planned, performed, new, made, stored⟩
    · exact ih.tables t old
    · have scene : Scene.Unrepeated (Hunt.scene _ now.time statement) :=
        ⟨ih.vars before.reachable, ih.modules, documents, permitted⟩
      have yields := Scene.plan_unrepeated scene planned
      have each := perform_yields Merge.unrepeated_replies OutputSpec.preserve_unrepeated yields
        performed
      rw [stored]
      exact each new made
  | close _ ih =>
    refine ⟨fun t member => ?_, fun _ entry => absurd entry List.not_mem_nil⟩
    simp only [Hunt.close, dropTables_eq] at member
    exact ih.tables t (List.mem_of_mem_filter member)
  | meanwhile _ exchange disk ih => exact ⟨ih.tables, ih.modules⟩

/-- In every hunt that comes about from modules and documents whose schemas list each column once,
by statements that list no attribute to keep twice, each variable lists each column once. -/
theorem nodup_names_of_supplied (supplied : h.Supplied Command.NamesOnce) :
    ∀ v ∈ h.vars.nodes, v.schema.names.Nodup :=
  supplied.unrepeated.vars supplied.reachable

def keepAttributes (attrs : List String) : PlacedStatement :=
  ⟨"b = a ATTR " ++ ", ".intercalate attrs, 2, 1, some "b",
    .refine "a" { Refinement.none with attrs := some attrs }⟩

/-- A hunt with a process under `a`, and under `b` what is kept of it. -/
def narrowed (attrs : List String) : Hunt :=
  (((start .standard Disk.empty).run epoch newShell).1.run epoch (keepAttributes attrs)).1

theorem supplied_narrowed {attrs : List String} (creates : permits newShell.statement.command)
    (keeps : permits (keepAttributes attrs).statement.command) :
    (narrowed attrs).Supplied permits :=
  .run (.run (.start _ _) _ _ creates (fun _ _ load => Command.noConfusion load)) _ _ keeps
    (fun _ _ load => Command.noConfusion load)

theorem names_narrowed {attrs : List String}
    (kept : attrs = ["id", "name", "id"] ∨ attrs = ["name", "name"]) :
    ∃ v ∈ (narrowed attrs).vars.nodes, v.name = "b" ∧
      v.schema.names = attrs.filter (fun a => a != "id") := by
  have empty : Reachable (start .standard Disk.empty) := .start _ _
  have first := (run_of_current empty epoch newShell rfl rfl rfl (by decide +kernel)
    (by decide +kernel)).1
  have reached := empty.run epoch newShell
  rw [first] at reached
  rcases kept with rfl | rfl
  · have second := (run_of_current reached epoch (keepAttributes ["id", "name", "id"]) rfl rfl rfl
      (by decide +kernel) (by decide +kernel)).1
    rw [narrowed, first, second]
    exact ⟨_, .tail _ (.head _), rfl, rfl⟩
  · have second := (run_of_current reached epoch (keepAttributes ["name", "name"]) rfl rfl rfl
      (by decide +kernel) (by decide +kernel)).1
    rw [narrowed, first, second]
    exact ⟨_, .tail _ (.head _), rfl, rfl⟩

/-- The identifier may be named twice. -/
theorem nodup_names_of_supplied_narrowed :
    (narrowed ["id", "name", "id"]).Supplied Command.NamesOnce ∧
      ∃ v ∈ (narrowed ["id", "name", "id"]).vars.nodes,
        v.name = "b" ∧ v.schema.names = ["name"] ∧ v.schema.names.Nodup := by
  have supplied : (narrowed ["id", "name", "id"]).Supplied Command.NamesOnce := by
    apply supplied_narrowed
    · exact trivial
    · intro attrs given
      exact .inr (Option.some.inj given ▸ by decide)
  obtain ⟨v, member, name, names⟩ := names_narrowed (.inl rfl)
  exact ⟨supplied, v, member, name, names, nodup_names_of_supplied supplied v member⟩

/-- Whatever a list of attributes names twice, the variable has twice. -/
theorem nodup_names_of_supplied_fails :
    (narrowed ["name", "name"]).Supplied (fun _ => True) ∧
      ∃ v ∈ (narrowed ["name", "name"]).vars.nodes,
        v.name = "b" ∧ v.schema.names = ["name", "name"] ∧ ¬v.schema.names.Nodup := by
  obtain ⟨v, member, name, names⟩ := names_narrowed (.inr rfl)
  refine ⟨supplied_narrowed trivial trivial, v, member, name, names, ?_⟩
  rw [names]
  decide

end Hunt
end ThreatHunt
