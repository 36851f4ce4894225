import ThreatHunt.Proofs.Hunt.Connected
import ThreatHunt.Proofs.Hunt.Fetched
import ThreatHunt.Proofs.Table.Relations

/-!
Sightings of edges. Whatever connectors answer to the statements that complete is recorded in the
order in which it comes, and of the sightings of a relationship only the first is kept.
-/

namespace ThreatHunt

/-- Whether any answer leads to a product with just the edges of the answer. -/
def Plan.Reports : Plan → Prop
  | .ready product => product.edges = []
  | .fetch _ _ finish => ∀ fetched, (finish fetched).edges = fetched.edges
  | .relate _ _ finish => ∀ related, (finish related).edges = related.edges
  | .invoke _ _ finish => ∀ made, (finish made).edges = []
  | .save _ _ finish => ∀ rows, (finish rows).edges = []

namespace Scene

variable {s : Scene} {plan : Plan}

theorem planEdges_reports {relation : String} {source target : Table} {window : Option Window}
    {finish : List Edge → Product} (plain : ∀ edges, (finish edges).edges = []) :
    (s.planEdges relation source target window finish).Reports := by
  unfold planEdges
  dsimp only
  split
  · exact plain _
  · intro related
    rfl

/-- Every plan reports the edges that it is answered. -/
theorem plan_reports (planned : s.plan = .ok plan) : plan.Reports := by
  unfold Scene.plan at planned
  generalize s.statement.statement.command = command at planned
  cases command with
  | get =>
    obtain ⟨_, _, _, _, _, _, _, _, _, _, form⟩ := planGet_eq_ok planned
    rcases form with ⟨_, _, rfl⟩ | ⟨_, rfl⟩
    · rfl
    · intro fetched
      rfl
  | findBetween =>
    obtain ⟨_, _, _, _, _, _, _, _, _, _, _, _, form⟩ := planBetween_eq_ok planned
    rw [form]
    split
    · rfl
    · exact planEdges_reports (fun edges => rfl)
  | findRelated =>
    obtain ⟨_, _, _, _, _, _, _, _, _, _, _, _, _, _, _, form⟩ := planRelated_eq_ok planned
    rw [form]
    split
    · rfl
    · split
      · exact planEdges_reports (fun edges => rfl)
      · exact planEdges_reports (fun edges => rfl)
  | join =>
    obtain ⟨_, _, _, _, _, _, _, _, _, _, _, _, _, rfl⟩ := planJoin_eq_ok.1 planned
    rfl
  | sort =>
    obtain ⟨_, _, _, _, _, _, rfl⟩ := planSort_eq_ok.1 planned
    rfl
  | group =>
    obtain ⟨_, _, _, _, _, _, _, _, rfl⟩ := planGroup_eq_ok.1 planned
    rfl
  | refine =>
    obtain ⟨_, _, _, _, _, _, _, _, rfl⟩ := planRefine_eq_ok.1 planned
    rfl
  | merge =>
    obtain ⟨_, _, rfl⟩ := planMerge_eq_ok.1 planned
    rfl
  | assign =>
    obtain ⟨_, _, _, _, rfl⟩ := planAssign_eq_ok.1 planned
    rfl
  | apply =>
    obtain ⟨_, _, _, _, _, _, rfl⟩ := planApply_eq_ok.1 planned
    intro made
    rfl
  | display =>
    obtain ⟨_, _, _, _, _, _, _, _, rfl⟩ := planDisplay_eq_ok.1 planned
    rfl
  | info =>
    obtain ⟨_, _, _, _, _, _, rfl⟩ := planInfo_eq_ok.1 planned
    rfl
  | save =>
    obtain ⟨_, _, rfl⟩ := planSave_eq_ok.1 planned
    intro rows
    rfl
  | load =>
    obtain ⟨_, _, rfl⟩ := planLoad_eq_ok.1 planned
    rfl
  | create =>
    obtain ⟨_, _, rfl⟩ := planCreate_eq_ok.1 planned
    rfl

end Scene

namespace Hunt

open ThreatHunt.Relation (Admissible Goes Shown)

variable {h : Hunt} {now : Moment} {statement : PlacedStatement} {sightings : List Edge}

/-- The edges that connectors answer while a plan is performed, as they come. -/
def observed (h : Hunt) (now : Moment) : Plan → List Edge
  | .fetch query connectors _ => (h.replies now query connectors).flatMap Reply.edges
  | .relate query connectors _ =>
    (h.exchange.relate h.config.connectorMillis query connectors).2.edges
  | _ => []

/-- The hunts that a host can bring about, each with all that was observed by the statements that
completed, in the order in which it came. -/
inductive Observes : Hunt → List Edge → Prop where
  | start (config : Config) (disk : Disk) : Observes (start config disk) []
  | registerConnector {h : Hunt} {sightings : List Edge} (before : Observes h sightings)
      (c : Connector) : Observes (h.registerConnector c) sightings
  | registerModule {h : Hunt} {sightings : List Edge} (before : Observes h sightings) (m : Module) :
      Observes (h.registerModule m) sightings
  | completed {h : Hunt} {sightings : List Edge} (before : Observes h sightings) {now : Moment}
      {statement : PlacedStatement} {plan : Plan} {completion : Completion}
      (planned : (h.scene now.time statement).plan = .ok plan)
      (ends : (h.run now statement).2 = .ok completion) :
      Observes (h.run now statement).1 (sightings ++ h.observed now plan)
  | failed {h : Hunt} {sightings : List Edge} (before : Observes h sightings) {now : Moment}
      {statement : PlacedStatement} {error : HuntError}
      (ends : (h.run now statement).2 = .error error) : Observes (h.run now statement).1 sightings
  | close {h : Hunt} {sightings : List Edge} (before : Observes h sightings) :
      Observes h.close.1 sightings
  | meanwhile {h : Hunt} {sightings : List Edge} (before : Observes h sightings)
      (exchange : Exchange) (disk : Disk) :
      Observes { h with exchange := exchange, disk := disk } sightings

theorem Observes.reachable (observes : h.Observes sightings) : h.Reachable := by
  induction observes with
  | start config disk => exact .start config disk
  | registerConnector _ c ih => exact ih.registerConnector c
  | registerModule _ m ih => exact ih.registerModule m
  | completed _ _ _ ih => exact ih.run _ _
  | failed _ _ ih => exact ih.run _ _
  | close _ ih => exact ih.close
  | meanwhile _ exchange disk ih => exact ih.meanwhile exchange disk

/-- Every hunt that can come about has observed something, be it nothing. -/
theorem Reachable.observes (reached : h.Reachable) : ∃ sightings, h.Observes sightings := by
  induction reached with
  | start config disk => exact ⟨_, .start config disk⟩
  | registerConnector _ c ih =>
    obtain ⟨sightings, before⟩ := ih
    exact ⟨_, before.registerConnector c⟩
  | registerModule _ m ih =>
    obtain ⟨sightings, before⟩ := ih
    exact ⟨_, before.registerModule m⟩
  | @run h _ now statement ih =>
    obtain ⟨sightings, before⟩ := ih
    cases ends : (h.run now statement).2 with
    | error error => exact ⟨_, before.failed ends⟩
    | ok completion =>
      cases planned : (h.scene now.time statement).plan with
      | error error => simp [Hunt.run, planned] at ends
      | ok plan => exact ⟨_, before.completed planned ends⟩
  | close _ ih =>
    obtain ⟨sightings, before⟩ := ih
    exact ⟨_, before.close⟩
  | meanwhile _ exchange disk ih =>
    obtain ⟨sightings, before⟩ := ih
    exact ⟨_, before.meanwhile exchange disk⟩

/-- The edges of a product are recorded as if they were recorded one by one as they came. -/
theorem recordAll_of_performed {plan : Plan} {product : Product} (reports : plan.Reports)
    (performed : (h.perform now plan).2 = .ok product) (known : List Edge) :
    Edge.recordAll known product.edges = Edge.recordAll known (h.observed now plan) := by
  cases plan with
  | ready given =>
    rw [← Except.ok.inj performed, reports]
    rfl
  | fetch query connectors finish =>
    rw [← Except.ok.inj performed, reports]
    exact Edge.recordAll_recordAll known _
  | relate query connectors finish =>
    rw [← Except.ok.inj performed, reports]
    rfl
  | invoke module input finish =>
    obtain ⟨_, _, _, _, rfl⟩ := answered_of_invoke performed
    rw [reports]
    rfl
  | save handle path finish =>
    obtain ⟨rows, _, rfl⟩ := written_of_save performed
    rw [reports]
    rfl

theorem edges_of_completed (reachable : h.Reachable) {plan : Plan} {completion : Completion}
    (planned : (h.scene now.time statement).plan = .ok plan)
    (ends : (h.run now statement).2 = .ok completion) :
    (h.run now statement).1.store.edges =
      Edge.recordAll h.store.edges (h.observed now plan) := by
  obtain ⟨other, product, _, _, first, answered, derived, sound, run⟩ :=
    commit_of_completed reachable.sound ends
  obtain rfl := Except.ok.inj (planned.symm.trans first)
  rw [run] at ends ⊢
  obtain ⟨made, new, c⟩ := committed_of_ok sound.fresh sound.wellFormed derived ends
  rw [c.after, ← recordAll_of_performed (Scene.plan_reports planned) answered]
  simp only [collectGarbage, dropTables_eq, Store.recordEdges, c.added.edges]

/-- The recorded edges are the first sightings. -/
theorem Observes.edges (observes : h.Observes sightings) :
    h.store.edges = Edge.recordAll [] sightings := by
  induction observes with
  | start config disk => rfl
  | registerConnector _ c ih => exact ih
  | registerModule _ m ih => exact ih
  | completed before planned ends ih =>
    rw [edges_of_completed before.reachable planned ends, ih, Edge.recordAll_append]
  | failed before ends ih =>
    obtain ⟨_, _, _, _, after⟩ := run_of_error_of_sound before.reachable.sound ends
    rw [after]
    exact ih
  | close _ ih =>
    simp only [Hunt.close, dropTables_eq]
    exact ih
  | meanwhile _ exchange disk ih => exact ih

/-- Of all that was observed a search sees the first sightings. -/
theorem Observes.sees_iff (observes : h.Observes sightings) {relation : String}
    {source target : Table} {window : Option Window} {e : Edge} :
    h.Sees relation source target window e ↔ e.First sightings ∨ Shown relation source target e ∨
      h.exchange.Answers ⟨relation, source.ids, window⟩ (h.connectors.forRelation relation) e := by
  have recorded : e ∈ h.store.edges ↔ e.First sightings := by
    rw [observes.edges]
    exact Edge.mem_recordAll
  constructor
  · rintro (member | shows | answers)
    · exact .inl (recorded.1 member)
    · exact .inr (.inl shows)
    · exact .inr (.inr answers)
  · rintro (first | shows | answers)
    · exact .recorded (recorded.2 first)
    · exact .shown shows
    · exact .answered answers

theorem Observes.find?_edges (observes : h.Observes sightings) (key : String × String × String) :
    h.store.edges.find? (fun e => e.key == key) = sightings.find? (fun e => e.key == key) := by
  rw [observes.edges, Edge.find?_recordAll, List.nil_append]

theorem Observes.distinct_edges (observes : h.Observes sightings) :
    (h.store.edges.map Edge.key).Nodup := by
  rw [observes.edges]
  exact Edge.distinct_recordAll sightings

/-- A search between two variables binds the rows of the second that are joined to the first. -/
theorem joined_of_completed (reachable : h.Reachable) {relation first second : String}
    {span : Option TimeSpan} {completion : Completion}
    (finds : statement.statement.command = .findBetween relation first second span)
    (completed : (h.run now statement).2 = .ok completion) :
    ∃ source target window, ∃ joined : Entity → Bool,
      h.table first = .ok source ∧ h.table second = .ok target ∧
      (h.scene now.time statement).window span = .ok window ∧
      (∀ row ∈ target.rows, joined row = true ↔ h.Joined relation source target window row.id) ∧
      (h.run now statement).1.table (h.scene now.time statement).outputName =
        .ok { target with rows := target.rows.filter joined } := by
  obtain ⟨plan, product, planned, performed, bound⟩ := table_of_completed reachable completed
  rw [Scene.plan_findBetween finds] at planned
  obtain ⟨a, b, window, source, target, edges, named, other, spanned, left, right, one, leads⟩ :=
    perform_planBetween planned performed
  have whole : ∀ row ∈ Relation.reached relation edges source.ids target.rows,
      row.Fills target.schema := by
    intro row member
    exact fills_of_tableOf reachable (Scene.mem_of_operand other) right row
      (List.mem_of_mem_filter member)
  have type : target.entityType = target.schema.entityType := by
    obtain ⟨st, _, rfl⟩ := Scene.tableOf_eq_ok.1 right
    rfl
  refine ⟨source, target, window,
    fun row => edges.any (Relation.leadsTo relation source.ids row.id),
    table_of_operand named left, table_of_operand other right, spanned, leads, ?_⟩
  rw [bound _ one]
  simp only [Table.ofSchema, Table.conformRows_of_fills whole, type]
  rfl

/-- The relationships that are recorded for a window are those whose first sighting has no time or
was inside. So a search between two variables binds the rows that such a sighting joins, or an edge
that references show or that connectors answer then. -/
theorem connected_of_first_sighting (observes : h.Observes sightings) :
    (∀ (window : Option Window) (key : String × String × String),
      (∃ e ∈ h.store.edges, e.key = key ∧ e.within window = true) ↔
        ∃ e, sightings.find? (fun s => s.key == key) = some e ∧ e.within window = true) ∧
    (∀ (now : Moment) (statement : PlacedStatement) (relation first second : String)
      (span : Option TimeSpan) (completion : Completion),
      statement.statement.command = .findBetween relation first second span →
      (h.run now statement).2 = .ok completion →
      ∃ source target window, ∃ joined : Entity → Bool,
        h.table first = .ok source ∧ h.table second = .ok target ∧
        (h.scene now.time statement).window span = .ok window ∧
        (∀ row ∈ target.rows, joined row = true ↔
          ∃ e : Edge, (e.First sightings ∨ Shown relation source target e ∨
              h.exchange.Answers ⟨relation, source.ids, window⟩
                (h.connectors.forRelation relation) e) ∧
            Admissible relation window e ∧ Goes relation source.ids row.id e) ∧
        (h.run now statement).1.table (h.scene now.time statement).outputName =
          .ok { target with rows := target.rows.filter joined }) := by
  constructor
  · intro window key
    rw [← observes.find?_edges]
    constructor
    · rintro ⟨e, member, rfl, inside⟩
      exact ⟨e, Keyed.find?_eq_some observes.distinct_edges member (fun _ _ => beq_iff_eq), inside⟩
    · rintro ⟨e, found, inside⟩
      have named : e.key = key := by simpa using List.find?_some found
      exact ⟨e, List.mem_of_find?_eq_some found, named, inside⟩
  · intro now statement relation first second span completion finds completed
    obtain ⟨source, target, window, joined, left, right, spanned, joins, bound⟩ :=
      joined_of_completed observes.reachable finds completed
    refine ⟨source, target, window, joined, left, right, spanned, ?_, bound⟩
    intro row member
    rw [joins row member]
    simp only [Joined, observes.sees_iff]

/-- A connector that answers with two files and with edges that it saw. -/
def reporter (edges : List Edge) : Connector :=
  { name := "sensor"
    capabilities := .ofTypes ["file"]
    client :=
      { answer := fun _ _ => .given ⟨[⟨"f1", Dict.empty⟩, ⟨"f2", Dict.empty⟩], edges⟩
        relate := fun _ _ => .given [] } }

def unreported (edges : List Edge) : Hunt :=
  (start .standard Disk.empty).registerConnector (reporter edges)

/-- A hunt in which a connector answered with two files and with edges. -/
def reported (edges : List Edge) : Hunt := ((unreported edges).run epoch getFiles).1

/-- The statement binds two files and records the edges. -/
theorem reported_completes (edges : List Edge) :
    reported edges =
      { (unreported edges).bound epoch.time getFiles { edges := Edge.recordAll [] edges }
          ⟨"a", .ofRows "file" [⟨"f1", Dict.empty⟩, ⟨"f2", Dict.empty⟩], [], ["sensor"]⟩ with
        exchange := (reported edges).exchange } ∧
      ∃ completion, ((unreported edges).run epoch getFiles).2 = .ok completion := by
  have reached : (unreported edges).Reachable := .registerConnector (.start _ _) _
  obtain ⟨after, completed⟩ := run_of_current reached epoch getFiles rfl rfl rfl rfl
    (fun v member => by
      obtain rfl := List.mem_singleton.1 member
      rfl)
  have same : reported edges = _ := after
  have whole : reported edges =
      { (unreported edges).bound epoch.time getFiles { edges := Edge.recordAll [] (edges ++ []) }
          ⟨"a", .ofRows "file" [⟨"f1", Dict.empty⟩, ⟨"f2", Dict.empty⟩], [], ["sensor"]⟩ with
        exchange := (reported edges).exchange } := by
    rw [same]
    rfl
  rw [List.append_nil] at whole
  exact ⟨whole, completed⟩

theorem reported_observes (edges : List Edge) : (reported edges).Observes edges := by
  have before : (unreported edges).Observes [] := .registerConnector (.start _ _) _
  obtain ⟨completion, completed⟩ := (reported_completes edges).2
  have after := before.completed rfl completed
  change (reported edges).Observes (edges ++ []) at after
  rwa [List.append_nil] at after

/-- A file that is seen to be accessed from another, at a time in seconds. -/
def accessAt (second : Int) : Edge := ⟨"accessed", "f1", "f2", some ⟨second, 0⟩⟩

def accessLogs (first second : Int) : Connector :=
  { name := "sensor"
    capabilities := .ofTypes ["file"]
    client :=
      { answer := fun _ _ => .given
          ⟨[⟨"f1", Dict.empty⟩, ⟨"f2", Dict.empty⟩], [accessAt first, accessAt second]⟩
        relate := fun _ _ => .given [] } }

def unlogged (first second : Int) : Hunt :=
  (start .standard Disk.empty).registerConnector (accessLogs first second)

/-- A hunt in which a connector answered with two files and two sightings of an access. -/
def logged (first second : Int) : Hunt := ((unlogged first second).run epoch getFiles).1

/-- The statement binds two files and records both sightings. -/
theorem logged_completes (first second : Int) :
    logged first second =
      { (unlogged first second).bound epoch.time getFiles
          { edges := [accessAt first, accessAt second] }
          ⟨"a", .ofRows "file" [⟨"f1", Dict.empty⟩, ⟨"f2", Dict.empty⟩], [], ["sensor"]⟩ with
        exchange := (logged first second).exchange } ∧
      ∃ completion, ((unlogged first second).run epoch getFiles).2 = .ok completion := by
  exact reported_completes [accessAt first, accessAt second]

theorem logged_observes (first second : Int) :
    (logged first second).Observes [accessAt first, accessAt second] :=
  reported_observes [accessAt first, accessAt second]

/-- Searches for accesses from the hundredth second on. -/
def findLate : PlacedStatement :=
  ⟨"r = FIND accessed BETWEEN a AND a START t'1970-01-01T00:01:40Z' STOP t'1970-01-01T00:03:20Z'",
    1, 1, some "r", .findBetween "accessed" "a" "a" (some (.absolute ⟨⟨100, 0⟩, ⟨200, 0⟩⟩))⟩

/-- A first sighting inside the window counts, whatever comes behind it. -/
theorem connected_of_first_sighting_inside :
    ∃ t, ((logged 150 50).run epoch findLate).1.table "r" = .ok t ∧ "f2" ∈ t.ids := by
  have completed : ∃ completion, ((logged 150 50).run epoch findLate).2 = .ok completion := by
    rw [(logged_completes 150 50).1]
    exact ⟨_, rfl⟩
  obtain ⟨completion, completed⟩ := completed
  obtain ⟨source, target, window, joined, left, right, spanned, joins, bound⟩ :=
    (connected_of_first_sighting (logged_observes 150 50)).2 epoch findLate "accessed" "a" "a" _
      completion rfl completed
  refine ⟨_, bound, ?_⟩
  rw [(logged_completes 150 50).1] at left right
  obtain rfl := Except.ok.inj spanned
  have origin : "f1" ∈ source.ids := by
    rw [← Except.ok.inj left]
    decide +kernel
  obtain ⟨row, inside, last⟩ : ∃ row ∈ target.rows, row.id = "f2" := by
    rw [← Except.ok.inj right]
    decide +kernel
  have admissible : Admissible "accessed" (some ⟨⟨100, 0⟩, ⟨200, 0⟩⟩) (accessAt 150) :=
    Relation.counts_iff.1 (by decide +kernel)
  have goes : Goes "accessed" source.ids row.id (accessAt 150) := .inl ⟨origin, last.symm⟩
  have met := (joins row inside).2 ⟨accessAt 150, .inl rfl, admissible, goes⟩
  exact List.mem_map.2 ⟨row, List.mem_filter.2 ⟨inside, met⟩, last⟩

/-- A sighting inside the window behind one outside is lost, and the search finds nothing. -/
theorem connected_of_later_sighting_fails :
    (logged 50 150).Observes [accessAt 50, accessAt 150] ∧
      (accessAt 150).within (some ⟨⟨100, 0⟩, ⟨200, 0⟩⟩) = true ∧
      (¬∃ e ∈ (logged 50 150).store.edges,
        e.key = (accessAt 150).key ∧ e.within (some ⟨⟨100, 0⟩, ⟨200, 0⟩⟩) = true) ∧
      ∃ completion t, ((logged 50 150).run epoch findLate).2 = .ok completion ∧
        ((logged 50 150).run epoch findLate).1.table "r" = .ok t ∧ t.rows = [] := by
  have observes := logged_observes 50 150
  have recorded : (logged 50 150).store.edges = [accessAt 50] := by
    rw [observes.edges]
    decide +kernel
  refine ⟨observes, by decide +kernel, ?_, ?_⟩
  · rw [recorded]
    decide +kernel
  · have reached := observes.reachable
    rw [(logged_completes 50 150).1] at reached ⊢
    obtain ⟨after, completion, completed⟩ := run_of_current reached epoch findLate rfl rfl rfl
      (by decide +kernel) (by decide +kernel)
    rw [after]
    exact ⟨completion, _, completed, rfl, rfl⟩

end Hunt
end ThreatHunt
