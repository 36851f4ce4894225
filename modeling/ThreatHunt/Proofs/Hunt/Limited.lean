import ThreatHunt.Proofs.Fetch.Limits
import ThreatHunt.Proofs.Hunt.Fetched
import ThreatHunt.Proofs.Hunt.Sources
import ThreatHunt.Proofs.Table.Typing

/-!
Limits of fetches from bundles. Bundles cut their answers to the limit before the engine merges them
to rows, and the engine cuts the rows once more. What is bound is the beginning of what is bound
without a limit as long as the bundles leave enough rows.
-/

namespace ThreatHunt

/-- A connector that answers from a bundle. -/
def Connector.IsBundle (c : Connector) : Prop :=
  ∃ timeAttributes b, c.client = Bundle.client timeAttributes b

namespace Connector.IsBundle

variable {c : Connector} {q : EntityQuery}

theorem answer_eq {timeAttributes : List String} {b : Bundle}
    (checked : Pattern.check? q.pattern = .ok ()) (count : Nat) :
    (b.client timeAttributes).answer count q = .given (b.answer timeAttributes q) := by
  have answered : Bundle.answer? timeAttributes b q = .ok (b.answer timeAttributes q) := by
    simp only [Bundle.answer?, checked]
    split <;> rfl
  simp only [Bundle.client, answered]

theorem steady (bundle : c.IsBundle) (checked : Pattern.check? q.pattern = .ok ()) :
    c.Steady q := by
  obtain ⟨timeAttributes, b, client⟩ := bundle
  intro count
  rw [Connector.answerTo, client, answer_eq checked, answer_eq checked]

theorem entities_of_limit (bundle : c.IsBundle) (checked : Pattern.check? q.pattern = .ok ())
    (all : q.limit = none) (n : Nat) :
    (c.answerTo { q with limit := some n }).entities = (c.answerTo q).entities.take n := by
  obtain ⟨timeAttributes, b, client⟩ := bundle
  have first (asked : EntityQuery) (same : asked.pattern = q.pattern) :
      c.answerTo asked = b.answer timeAttributes asked := by
    rw [Connector.answerTo, client, answer_eq (same ▸ checked)]
  rw [first { q with limit := some n } rfl, first q rfl, Bundle.answer, Bundle.answer]
  cases b.tables.find? q.entityType with
  | none => exact List.take_nil.symm
  | some rows => rw [all]

end Connector.IsBundle

namespace Merge

variable {timeAttributes : List String} {q : EntityQuery} {rs : List Reply}

def wanted (limit : Option Nat) (ids : List String) : List String :=
  match limit with
  | some n => ids.take n
  | none => ids

theorem wanted_wanted (limit : Option Nat) (ids : List String) :
    wanted limit (wanted limit ids) = wanted limit ids := by
  cases limit with
  | none => rfl
  | some n => rw [wanted, wanted, List.take_take, Nat.min_self]

theorem ids_replies :
    ((replies timeAttributes q rs).table.rows).map Entity.id =
      wanted q.limit ((rows q.entityType (sightings timeAttributes q rs)).map Entity.id) := by
  simp only [replies, Table.ofSchema, Table.conformRows, List.map_map]
  cases q.limit with
  | none => rfl
  | some n => exact List.map_take

/-- The table that a fetch from connectors alone is to bind. -/
def boundTable (timeAttributes : List String) (q : EntityQuery) (rs : List Reply) : Table :=
  Scene.fetchedTable q.entityType q.limit [] (some (replies timeAttributes q rs))

theorem boundTable_eq : boundTable timeAttributes q rs =
    ((replies timeAttributes q rs).table.limit q.limit).retype q.entityType := rfl

theorem ids_boundTable :
    (boundTable timeAttributes q rs).rows.map Entity.id =
      wanted q.limit ((rows q.entityType (sightings timeAttributes q rs)).map Entity.id) := by
  rw [← wanted_wanted, ← ids_replies, boundTable_eq]
  cases q.limit with
  | none => rfl
  | some n => exact List.map_take

theorem distinct_boundTable : ((boundTable timeAttributes q rs).rows.map Entity.id).Nodup := by
  have distinct : ((rows q.entityType (sightings timeAttributes q rs)).map Entity.id).Nodup :=
    ids_rows _
  rw [ids_boundTable]
  cases q.limit with
  | none => exact distinct
  | some n => exact distinct.sublist (List.take_sublist n _)

/-- The store takes a fetch just if no row lacks an identifier: all else is seen to by merging. -/
theorem accepts_boundTable_iff :
    Store.Accepts (boundTable timeAttributes q rs).schema (boundTable timeAttributes q rs).rows ↔
      ∀ id ∈ (boundTable timeAttributes q rs).rows.map Entity.id, id ≠ "" := by
  have typed : (boundTable timeAttributes q rs).Typed :=
    ((typed_replies timeAttributes q rs).limit q.limit).retype q.entityType
  constructor
  · intro accepts id member
    obtain ⟨row, there, rfl⟩ := List.mem_map.1 member
    exact accepts.named row there
  · intro named
    refine ⟨fun row member => named row.id (List.mem_map_of_mem member), distinct_boundTable, ?_⟩
    intro row member name shown
    obtain ⟨value, found⟩ := Option.isSome_iff_exists.1 shown
    have column : name ∈ (boundTable timeAttributes q rs).schema.names :=
      (typed row member name value found).named
    simp [Schema.has, column]

end Merge

def EntityQuery.keeps (timeAttributes : List String) (q : EntityQuery) (e : Entity) : Bool :=
  Pattern.admits? q.pattern e && Window.admits? timeAttributes q.window e

theorem Reply.kept_of_result {timeAttributes : List String} {q : EntityQuery} {rs : List Reply}
    {connectors : List Connector}
    (answered : rs.map Reply.result = connectors.map (fun c => .ok (c.answerTo q))) :
    rs.map (kept timeAttributes q) =
      connectors.map (fun c => (c.answerTo q).entities.filter (q.keeps timeAttributes)) := by
  have own : kept timeAttributes q =
      (fun result => kept timeAttributes q ⟨"", result, .fetched⟩) ∘ Reply.result := rfl
  rw [own, ← List.map_map, answered, List.map_map]
  rfl

namespace Hunt

open Scene

variable {h : Hunt} {now : Moment} {statement : PlacedStatement} {named : List Source}
  {asked : Option Pattern} {span : Option TimeSpan} {connectors opened : List Connector}
  {q : EntityQuery}

/-- A statement that fetches from bundles, for which nothing but their answers is kept. -/
structure FetchesBundles (h : Hunt) (now : Moment) (statement : PlacedStatement)
    (named : List Source) (asked : Option Pattern) (span : Option TimeSpan)
    (q : EntityQuery) (connectors : List Connector) : Prop where
  gets : statement.statement.command = .get q.entityType named asked span q.limit
  sources : ∃ opened, (h.scene now.time statement).sourcesOf q.entityType named =
    .ok ⟨connectors, [], opened⟩
  pattern : (h.scene now.time statement).preparePattern q.entityType asked = .ok q.pattern
  window : (h.scene now.time statement).window span = .ok q.window
  bundles : ∀ c ∈ connectors, c.IsBundle
  current : Exchange.Current h.exchange.cache q connectors

theorem FetchesBundles.plan
    (fetches : h.FetchesBundles now statement named asked span q connectors)
    (limited : checkLimit q.limit = .ok ()) (asks : connectors ≠ [])
    (checked : Pattern.check? q.pattern = .ok ()) :
    ∃ opened lineage, (h.scene now.time statement).plan = .ok (.fetch q connectors
      (fun fetched => (h.scene now.time statement).fetchProduct q.entityType q.limit
        ⟨connectors, [], opened⟩ lineage [] (some fetched))) := by
  obtain ⟨opened, found⟩ := fetches.sources
  have nonempty : connectors.isEmpty = false := by simpa using asks
  refine ⟨opened, addNodes ((h.scene now.time statement).referencedNodes? asked) [], ?_⟩
  rw [Scene.plan_get fetches.gets, planGet]
  simp only [limited, found, fetches.pattern, checked, fetches.window, bind, Except.bind,
    List.mapM_nil, pure, Except.pure, nonempty, Bool.false_and, Bool.false_eq_true, if_false]
  rfl

/-- A fetch from connectors alone completes just if its table is taken, and then has bound it. -/
theorem run_of_fetch (reachable : h.Reachable) {lineage : List Nat}
    (planned : (h.scene now.time statement).plan = .ok (.fetch q connectors
      (fun fetched => (h.scene now.time statement).fetchProduct q.entityType q.limit
        ⟨connectors, [], opened⟩ lineage [] (some fetched)))) :
    let t := Merge.boundTable h.config.timeAttributes q (h.replies now q connectors)
    ((∃ completion, (h.run now statement).2 = .ok completion) ↔ Store.Accepts t.schema t.rows) ∧
      (Store.Accepts t.schema t.rows →
        (h.run now statement).1.table (h.scene now.time statement).outputName =
          .ok (Table.ofSchema t.schema (Table.conformRows t.schema t.rows))) := by
  intro t
  have run : h.run now statement =
      commit { h with exchange := (h.exchange.fetch h.config.timeAttributes now.millis
        h.config.connectorMillis q connectors).1 } now.time statement
        ((h.scene now.time statement).fetchProduct q.entityType q.limit
          ⟨connectors, [], opened⟩ lineage [] (some (Merge.replies h.config.timeAttributes q
            (h.replies now q connectors)))) := by
    simp only [Hunt.run, planned, perform]
    rfl
  generalize exchanged : { h with exchange := (h.exchange.fetch h.config.timeAttributes now.millis
    h.config.connectorMillis q connectors).1 } = after at run
  have sound : after.Sound := exchanged ▸ reachable.sound.congr rfl rfl
  have derived : ((h.scene now.time statement).fetchProduct q.entityType q.limit
      ⟨connectors, [], opened⟩ lineage [] (some (Merge.replies h.config.timeAttributes q
        (h.replies now q connectors)))).DerivedIn after.vars := by
    rw [← exchanged]
    exact Scene.plan_derived planned _
  rw [run]
  refine ⟨⟨?_, fun accepted => ?_⟩, fun accepted => table_commit sound derived rfl accepted⟩
  · rintro ⟨completion, completed⟩
    exact accepts_of_commit sound.fresh rfl completed
  · obtain ⟨completion, committed⟩ :=
      commit_accepted now.time statement sound.fresh derived rfl accepted
    exact ⟨completion, congrArg Prod.snd committed⟩

/-- The identifiers that a fetch from bundles is to bind. -/
def idsFrom (h : Hunt) (q : EntityQuery) (connectors : List Connector) : List String :=
  Merge.wanted q.limit ((Merge.rows q.entityType (connectors.map (fun c =>
    (c.answerTo q).entities.filter (q.keeps h.config.timeAttributes))).flatten).map Entity.id)

theorem run_fetchesBundles (reachable : h.Reachable)
    (fetches : h.FetchesBundles now statement named asked span q connectors)
    (limited : checkLimit q.limit = .ok ()) (asks : connectors ≠ [])
    (checked : Pattern.check? q.pattern = .ok ()) :
    ((∃ completion, (h.run now statement).2 = .ok completion) ↔
        ∀ id ∈ h.idsFrom q connectors, id ≠ "") ∧
      ((∀ id ∈ h.idsFrom q connectors, id ≠ "") → ∃ t,
        (h.run now statement).1.table (h.scene now.time statement).outputName = .ok t ∧
          t.rows.map Entity.id = h.idsFrom q connectors) := by
  obtain ⟨opened, lineage, planned⟩ := fetches.plan limited asks checked
  obtain ⟨completes, binds⟩ := run_of_fetch reachable planned
  obtain ⟨_, found⟩ := fetches.sources
  have answered : (h.replies now q connectors).map Reply.result =
      connectors.map (fun c => .ok (c.answerTo q)) :=
    Exchange.ask_of_steady (apart_of_sourcesOf reachable.named found)
      (fun c member => (fetches.bundles c member).steady checked) fetches.current
  have ids : (Merge.boundTable h.config.timeAttributes q (h.replies now q connectors)).rows.map
      Entity.id = h.idsFrom q connectors := by
    rw [Merge.ids_boundTable, Merge.sightings, Reply.kept_of_result answered]
    rfl
  rw [Merge.accepts_boundTable_iff, ids] at completes binds
  refine ⟨completes, fun given => ⟨_, binds given, ?_⟩⟩
  rw [← ids]
  simp only [Table.ofSchema, Table.conformRows, List.map_map]
  rfl

theorem FetchesBundles.limited {whole cut : PlacedStatement}
    (fetches : h.FetchesBundles now whole named asked span q connectors) {n : Nat}
    (first : cut.statement.command = .get q.entityType named asked span (some n))
    (current : Exchange.Current h.exchange.cache { q with limit := some n } connectors) :
    h.FetchesBundles now cut named asked span { q with limit := some n } connectors where
  gets := first
  sources := fetches.sources
  pattern := fetches.pattern
  window := fetches.window
  bundles := fetches.bundles
  current := current

def answers (q : EntityQuery) (connectors : List Connector) : List (List Entity) :=
  connectors.map (fun c => (c.answerTo q).entities)

theorem idsFrom_whole (all : q.limit = none) :
    h.idsFrom q connectors = (Merge.rows q.entityType
      (Merge.uncutOf (q.keeps h.config.timeAttributes) (answers q connectors))).map Entity.id := by
  rw [idsFrom, all, Merge.uncutOf, answers, List.map_map]
  rfl

theorem idsFrom_cut (all : q.limit = none) (bundles : ∀ c ∈ connectors, c.IsBundle)
    (checked : Pattern.check? q.pattern = .ok ()) (n : Nat) :
    h.idsFrom { q with limit := some n } connectors = ((Merge.rows q.entityType
      (Merge.cutTo (q.keeps h.config.timeAttributes) n (answers q connectors))).map
        Entity.id).take n := by
  have each : connectors.map (fun c => (c.answerTo { q with limit := some n }).entities.filter
        (q.keeps h.config.timeAttributes)) =
      (answers q connectors).map (fun answer =>
        (answer.take n).filter (q.keeps h.config.timeAttributes)) := by
    rw [answers, List.map_map]
    refine List.map_congr_left (fun c member => ?_)
    rw [(bundles c member).entities_of_limit checked all n]
    rfl
  rw [Merge.cutTo, ← each]
  rfl

theorem asked_of_completed (fetches : h.FetchesBundles now statement named asked span q connectors)
    {completion : Completion} (completed : (h.run now statement).2 = .ok completion) :
    connectors ≠ [] ∧ Pattern.check? q.pattern = .ok () := by
  have stages := h.stages_run now statement
  generalize h.run now statement = result at completed stages
  cases stages with
  | senseless planned => nomatch completed
  | unanswered planned performed => nomatch completed
  | committed planned performed =>
    rw [Scene.plan_get fetches.gets] at planned
    obtain ⟨sources, prepared, _, _, _, found, ready, checked, _, _, form⟩ := planGet_eq_ok planned
    obtain ⟨opened, same⟩ := fetches.sources
    obtain rfl := Except.ok.inj (same.symm.trans found)
    obtain rfl := Except.ok.inj (fetches.pattern.symm.trans ready)
    refine ⟨?_, checked⟩
    rcases form with ⟨_, vars, _⟩ | ⟨asks, _⟩
    · exact absurd rfl vars
    · exact asks

/-- Where a statement completes, so does the same with a limit under which no other identifiers
come. -/
theorem run_both (reachable : h.Reachable) {whole cut : PlacedStatement} {n : Nat}
    (positive : 0 < n) (fetches : h.FetchesBundles now whole named asked span q connectors)
    (all : q.limit = none)
    (first : cut.statement.command = .get q.entityType named asked span (some n))
    (into : cut.statement.output = whole.statement.output)
    (current : Exchange.Current h.exchange.cache { q with limit := some n } connectors)
    {completion : Completion} (completed : (h.run now whole).2 = .ok completion)
    (fewer : h.idsFrom { q with limit := some n } connectors ⊆ h.idsFrom q connectors) :
    ∃ other t u, (h.run now cut).2 = .ok other ∧
      (h.run now whole).1.table (h.scene now.time whole).outputName = .ok t ∧
      (h.run now cut).1.table (h.scene now.time whole).outputName = .ok u ∧
      t.rows.map Entity.id = h.idsFrom q connectors ∧
      u.rows.map Entity.id = h.idsFrom { q with limit := some n } connectors := by
  obtain ⟨asks, checked⟩ := asked_of_completed fetches completed
  have unlimited : checkLimit q.limit = .ok () := by rw [all]; rfl
  have limited : checkLimit (some n) = .ok () :=
    if_neg (fun zero => absurd (Option.some.inj zero) (Nat.ne_of_gt positive))
  obtain ⟨completes, binds⟩ := run_fetchesBundles reachable fetches unlimited asks checked
  obtain ⟨completesToo, bindsToo⟩ :=
    run_fetchesBundles reachable (fetches.limited first current) limited asks checked
  have given := completes.1 ⟨completion, completed⟩
  have givenToo : ∀ id ∈ h.idsFrom { q with limit := some n } connectors, id ≠ "" :=
    fun id member => given id (fewer member)
  obtain ⟨t, bound, ids⟩ := binds given
  obtain ⟨u, boundToo, idsToo⟩ := bindsToo givenToo
  obtain ⟨other, completedToo⟩ := completesToo.2 givenToo
  have name : (h.scene now.time cut).outputName = (h.scene now.time whole).outputName :=
    congrArg (fun output => output.getD h.config.defaultVariable) into
  exact ⟨other, t, u, completedToo, bound, name ▸ boundToo, ids, idsToo⟩

/-- A fetch from bundles with a limit binds the first identifiers that the same fetch binds without
it, as long as the cut answers of the bundles still give enough rows. -/
theorem run_get_limit (reachable : h.Reachable) {whole cut : PlacedStatement} {n : Nat}
    (positive : 0 < n) (fetches : h.FetchesBundles now whole named asked span q connectors)
    (all : q.limit = none)
    (first : cut.statement.command = .get q.entityType named asked span (some n))
    (into : cut.statement.output = whole.statement.output)
    (current : Exchange.Current h.exchange.cache { q with limit := some n } connectors)
    (enough : Merge.Sufficient q.entityType (q.keeps h.config.timeAttributes) n []
      (answers q connectors))
    {completion : Completion} (completed : (h.run now whole).2 = .ok completion) :
    ∃ other t u, (h.run now cut).2 = .ok other ∧
      (h.run now whole).1.table (h.scene now.time whole).outputName = .ok t ∧
      (h.run now cut).1.table (h.scene now.time whole).outputName = .ok u ∧
      u.rows.map Entity.id = (t.rows.map Entity.id).take n := by
  obtain ⟨_, checked⟩ := asked_of_completed fetches completed
  have law : h.idsFrom { q with limit := some n } connectors =
      (h.idsFrom q connectors).take n := by
    rw [idsFrom_cut all fetches.bundles checked, idsFrom_whole all]
    exact Merge.take_ids_cutTo enough
  obtain ⟨other, t, u, completedToo, bound, boundToo, ids, idsToo⟩ :=
    run_both reachable positive fetches all first into current completed
      (law ▸ List.take_subset n _)
  exact ⟨other, t, u, completedToo, bound, boundToo, idsToo.trans (law.trans (ids ▸ rfl))⟩

/-- With a single bundle it binds them only then. -/
theorem run_get_limit_iff (reachable : h.Reachable) {whole cut : PlacedStatement} {n : Nat}
    (positive : 0 < n) {c : Connector}
    (fetches : h.FetchesBundles now whole named asked span q [c]) (all : q.limit = none)
    (first : cut.statement.command = .get q.entityType named asked span (some n))
    (into : cut.statement.output = whole.statement.output)
    (current : Exchange.Current h.exchange.cache { q with limit := some n } [c])
    {completion : Completion} (completed : (h.run now whole).2 = .ok completion) :
    ∃ t u, (h.run now whole).1.table (h.scene now.time whole).outputName = .ok t ∧
      (h.run now cut).1.table (h.scene now.time whole).outputName = .ok u ∧
      (u.rows.map Entity.id = (t.rows.map Entity.id).take n ↔
        Merge.Sufficient q.entityType (q.keeps h.config.timeAttributes) n [] (answers q [c])) := by
  obtain ⟨_, checked⟩ := asked_of_completed fetches completed
  have cutIds := idsFrom_cut (h := h) all fetches.bundles checked n
  have wholeIds : h.idsFrom q [c] = _ := idsFrom_whole all
  have fewer : h.idsFrom { q with limit := some n } [c] ⊆ h.idsFrom q [c] := by
    rw [cutIds, wholeIds]
    exact fun id member => (Merge.prefix_ids_cutTo _).subset (List.mem_of_mem_take member)
  obtain ⟨_, t, u, _, bound, boundToo, ids, idsToo⟩ :=
    run_both reachable positive fetches all first into current completed fewer
  refine ⟨t, u, bound, boundToo, ?_⟩
  rw [ids, idsToo, cutIds, wholeIds]
  exact Merge.sufficient_singleton_iff.symm

def processNamed (id name : String) : Entity := ⟨id, Dict.ofList [("name", .str name)]⟩

/-- A bundle that holds a process twice. -/
def hostBundle : Connector :=
  Bundle.connector "host" Config.standard.timeAttributes (Bundle.empty.add "process"
    [processNamed "p1" "a", processNamed "p1" "a", processNamed "p2" "b"])

def sensorBundle : Connector :=
  Bundle.connector "sensor" Config.standard.timeAttributes (Bundle.empty.add "process"
    [processNamed "p3" "c", processNamed "p4" "d", processNamed "p5" "e", processNamed "p6" "f"])

def bundled : Hunt :=
  ((start .standard Disk.empty).registerConnector hostBundle).registerConnector sensorBundle

theorem reachable_bundled : bundled.Reachable :=
  .registerConnector (.registerConnector (.start _ _) _) _

def getFirst (named : List Source) (limit : Option Nat) : PlacedStatement :=
  ⟨"a = GET process", 1, 1, some "a", .get "process" named none none limit⟩

theorem fetches_bundled (named : List Source) (connectors : List Connector)
    (found : (bundled.scene ⟨0, 0⟩ (getFirst named none)).sourcesOf "process" named =
      .ok ⟨connectors, [], []⟩)
    (bundles : ∀ c ∈ connectors, c.IsBundle) :
    bundled.FetchesBundles ⟨⟨0, 0⟩, 0⟩ (getFirst named none) named none none
      ⟨"process", none, none, none⟩ connectors where
  gets := rfl
  sources := ⟨[], found⟩
  pattern := rfl
  window := rfl
  bundles := bundles
  current := Exchange.current_empty _ _ _ _

/-- All of the first bundle and the first half of the second give enough rows. -/
theorem run_get_limit_three :
    ∃ other t u, (bundled.run ⟨⟨0, 0⟩, 0⟩ (getFirst [] (some 3))).2 = .ok other ∧
      (bundled.run ⟨⟨0, 0⟩, 0⟩ (getFirst [] none)).1.table "a" = .ok t ∧
      (bundled.run ⟨⟨0, 0⟩, 0⟩ (getFirst [] (some 3))).1.table "a" = .ok u ∧
      u.rows.map Entity.id = (t.rows.map Entity.id).take 3 := by
  have fetches := fetches_bundled [] [hostBundle, sensorBundle] rfl (by
    intro c member
    rcases List.mem_pair.1 member with rfl | rfl <;> exact ⟨_, _, rfl⟩)
  obtain ⟨completes, _⟩ := run_fetchesBundles reachable_bundled fetches rfl
    (List.cons_ne_nil _ _) rfl
  obtain ⟨_, completed⟩ := completes.2 (by decide +kernel)
  exact run_get_limit reachable_bundled (by decide) fetches rfl rfl rfl
    (Exchange.current_empty _ _ _ _) (by decide +kernel) completed

/-- The first two of the entities that the first bundle holds make one row, all of them two. -/
theorem run_get_limit_repeated :
    ∃ t u, (bundled.run ⟨⟨0, 0⟩, 0⟩ (getFirst [.named "host"] none)).1.table "a" = .ok t ∧
      (bundled.run ⟨⟨0, 0⟩, 0⟩ (getFirst [.named "host"] (some 2))).1.table "a" = .ok u ∧
      t.rows.map Entity.id = ["p1", "p2"] ∧ u.rows.map Entity.id = ["p1"] := by
  have fetches := fetches_bundled [.named "host"] [hostBundle] rfl (by
    intro c member
    rw [List.mem_singleton.1 member]
    exact ⟨_, _, rfl⟩)
  obtain ⟨completes, _⟩ := run_fetchesBundles reachable_bundled fetches rfl
    (List.cons_ne_nil _ _) rfl
  obtain ⟨_, completed⟩ := completes.2 (by decide +kernel)
  have limited : (getFirst [.named "host"] (some 2)).statement.command =
      .get "process" [.named "host"] none none (some 2) := rfl
  obtain ⟨_, t, u, _, bound, boundToo, ids, idsToo⟩ :=
    run_both reachable_bundled Nat.two_pos fetches rfl limited rfl (Exchange.current_empty _ _ _ _)
      completed (by decide +kernel)
  exact ⟨t, u, bound, boundToo, ids.trans (by decide +kernel), idsToo.trans (by decide +kernel)⟩

end Hunt
end ThreatHunt
