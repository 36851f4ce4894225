import ThreatHunt.Proofs.Fetch.Deduplication
import ThreatHunt.Proofs.Fetch.Exchanging
import ThreatHunt.Proofs.Hunt.Committed
import ThreatHunt.Proofs.Hunt.Joined
import ThreatHunt.Proofs.Pattern.Lasting

/-!
What a fetch binds. The rows come from variables and connectors, and each source is held against the
pattern and the window before rows are merged. So every row is made of sightings that match; whether
it matches itself depends on the pattern.
-/

namespace ThreatHunt

theorem Scene.plan_get {s : Scene} {entityType : String} {named : List Source}
    {asked : Option Pattern} {span : Option TimeSpan} {limit : Option Nat}
    (gets : s.statement.statement.command = .get entityType named asked span limit) :
    s.plan = s.planGet entityType named asked span limit := by
  unfold plan
  rw [gets]

/-- What a fetch is made from: the rows of variables, and the entities that connectors answer. -/
inductive Scene.Offers (s : Scene) (sources : Scene.Sources) (replies : List Reply)
    (e : Entity) : Prop where
  | row {v : Variable} {t : Table} (named : v ∈ sources.vars) (read : s.tableOf v = .ok t)
      (member : e ∈ t.rows)
  | answer {reply : Reply} {response : Response} (asked : reply ∈ replies)
      (answered : reply.result = .ok response) (member : e ∈ response.entities)

/-- A sighting that matches a query. -/
structure Matches (timeAttributes : List String) (pattern : Option Pattern)
    (window : Option Window) (e : Entity) : Prop where
  pattern : Pattern.admits? pattern e = true
  window : Window.admits? timeAttributes window e = true

/-- Whether a pattern outlasts merging, if there is one. -/
def Pattern.Lasting? (p : Option Pattern) : Prop := ∀ q, p = some q → q.Lasting

/-- Whether a pattern reads an attribute, if there is one. -/
def Pattern.Reads? (p : Option Pattern) (attr : String) : Prop := ∃ q, p = some q ∧ q.Reads attr

variable {timeAttributes : List String} {pattern : Option Pattern} {window : Option Window}
  {row first : Entity} {others : List Entity}

/-- A merged row meets the pattern itself if it is of one sighting or the pattern is lasting. -/
theorem Pattern.admits?_of_merged (merged : row.MergedFrom first others)
    (each : ∀ e ∈ first :: others, admits? pattern e = true)
    (lasting : others = [] ∨ Lasting? pattern)
    (plain : Reads? pattern "id" → row.attributes.contains "id" = false) :
    admits? pattern row = true := by
  cases pattern with
  | none => rfl
  | some p =>
    have own : p.Reads "id" → row.attributes.contains "id" = false :=
      fun reads => plain ⟨p, rfl, reads⟩
    rcases lasting with rfl | lasting
    · exact admits_of_single merged own (each first (List.mem_cons_self ..))
    · exact (lasting p rfl).admits_of_merged merged own each

namespace Scene

variable {s : Scene} {sources : Sources} {replies : List Reply} {q : EntityQuery}

/-- A sighting that is offered and matches. -/
def Found (s : Scene) (sources : Sources) (replies : List Reply) (q : EntityQuery)
    (e : Entity) : Prop :=
  s.Offers sources replies e ∧ Matches s.config.timeAttributes q.pattern q.window e

theorem matches_of_mem_matching {rows : List Entity} {e : Entity}
    (member : e ∈ Table.matching timeAttributes pattern window rows) :
    e ∈ rows ∧ Matches timeAttributes pattern window e := by
  obtain ⟨there, holds⟩ := List.mem_filter.1 member
  obtain ⟨matching, inside⟩ := Bool.and_eq_true_iff.1 holds
  exact ⟨there, matching, inside⟩

theorem found_of_part {parts : List Table}
    (read : List.Forall₂ (fun v t => s.variablePart q.pattern q.window v = .ok t)
      sources.vars parts) :
    ∀ t ∈ parts, ∀ e ∈ t.rows, s.Found sources replies q e := by
  intro part member e there
  obtain ⟨v, named, made⟩ := Outcome.of_mem_mapM (Outcome.mapM_eq_ok.2 read) member
  obtain ⟨t, taken, _, _, rfl⟩ := Scene.variablePart_eq_ok.1 made
  obtain ⟨present, holds⟩ := matches_of_mem_matching there
  exact ⟨.row named taken present, holds⟩

theorem found_of_kept {reply : Reply} (asked : reply ∈ replies) {e : Entity}
    (member : e ∈ reply.kept s.config.timeAttributes q) : s.Found sources replies q e := by
  unfold Reply.kept at member
  split at member
  · rename_i response answered
    obtain ⟨present, holds⟩ := matches_of_mem_matching member
    exact ⟨.answer asked answered present, holds⟩
  · exact absurd member List.not_mem_nil

/-- The rows of a merged fetch are made of sightings that were found. -/
theorem merged_of_replies :
    ∀ row ∈ (Merge.replies s.config.timeAttributes q replies).table.rows,
      Entity.MergedOf (s.Found sources replies q) row := by
  have sighted : ∀ e ∈ Merge.sightings s.config.timeAttributes q replies,
      Entity.MergedOf (s.Found sources replies q) e := by
    intro e member
    obtain ⟨kept, of, inside⟩ := List.mem_flatten.1 member
    obtain ⟨reply, asked, rfl⟩ := List.mem_map.1 of
    exact .self (found_of_kept asked inside)
  have rows : ∀ row ∈ Merge.rows q.entityType (Merge.sightings s.config.timeAttributes q replies),
      Entity.MergedOf (s.Found sources replies q) row :=
    Merge.rows_keep (fun _ _ mine its => mine.absorb its) sighted
  obtain ⟨schema, merged, taken, all⟩ := Merge.replies_rows s.config.timeAttributes q replies
  rw [all]
  intro row member
  obtain ⟨before, there, rfl⟩ := List.mem_map.1 member
  exact (rows before (taken.subset there)).conformTo schema

/-- What uniting parts keeps. -/
theorem merged_of_unite {Kind : Entity → Prop} {entityType : String} {parts : List Table}
    (each : ∀ t ∈ parts, ∀ row ∈ t.rows, Entity.MergedOf Kind row) :
    ∀ row ∈ (unite entityType parts).1.rows, Entity.MergedOf Kind row := by
  unfold unite
  split
  · rename_i part
    exact each part (List.mem_singleton_self part)
  · have rows : ∀ row ∈ Table.unionRows parts, Entity.MergedOf Kind row :=
      Table.mergeRows_keep (fun _ _ mine its => mine.absorb its) (fun e sighted => by
        obtain ⟨t, part, inside⟩ := List.mem_flatMap.1 sighted
        exact each t part e inside)
    intro row member
    obtain ⟨before, there, rfl⟩ := List.mem_map.1 member
    exact (rows before there).conformTo _

/-- The table that a fetch is to bind. -/
def fetchedTable (entityType : String) (limit : Option Nat) (parts : List Table)
    (fetched : Option Fetched) : Table :=
  ((unite entityType (parts ++ (fetched.map Fetched.table).toList)).1.limit limit).retype entityType

theorem merged_of_fetchedTable {Kind : Entity → Prop} {entityType : String} {limit : Option Nat}
    {parts : List Table} {fetched : Option Fetched}
    (known : ∀ t ∈ parts, ∀ row ∈ t.rows, Entity.MergedOf Kind row)
    (answered : ∀ f, fetched = some f → ∀ row ∈ f.table.rows, Entity.MergedOf Kind row) :
    ∀ row ∈ (fetchedTable entityType limit parts fetched).rows, Entity.MergedOf Kind row := by
  have all : ∀ row ∈ (unite entityType (parts ++ (fetched.map Fetched.table).toList)).1.rows,
      Entity.MergedOf Kind row := merged_of_unite (fun t member => by
    rcases List.mem_append.1 member with part | answer
    · exact known t part
    · obtain ⟨f, given, rfl⟩ := Option.map_eq_some_iff.1 (Option.mem_toList.1 answer)
      exact answered f given)
  intro row member
  refine all row ?_
  simp only [fetchedTable, Table.retype, Table.limit] at member
  split at member
  · exact List.mem_of_mem_take member
  · exact member

/-- A fetch makes one table, of rows that are made of what its parts are made of. -/
theorem fetchProduct_merged {Kind : Entity → Prop} {entityType : String} {limit : Option Nat}
    {lineage : List Nat} {parts : List Table} {fetched : Option Fetched}
    (known : ∀ t ∈ parts, ∀ row ∈ t.rows, Entity.MergedOf Kind row)
    (answered : ∀ f, fetched = some f → ∀ row ∈ f.table.rows, Entity.MergedOf Kind row) :
    ∃ new : NewTable,
      (s.fetchProduct entityType limit sources lineage parts fetched).tables = [new] ∧
      new.name = s.outputName ∧ ∀ row ∈ new.table.rows, Entity.MergedOf Kind row :=
  ⟨⟨s.outputName, fetchedTable entityType limit parts fetched, lineage, _⟩, rfl, rfl,
    merged_of_fetchedTable known answered⟩

end Scene

namespace Hunt

open Scene

variable {h : Hunt} {now : Moment} {statement : PlacedStatement} {entityType : String}
  {named : List Source} {asked : Option Pattern} {span : Option TimeSpan} {limit : Option Nat}

/-- The replies to a query when a statement runs. -/
def replies (h : Hunt) (now : Moment) (q : EntityQuery) (connectors : List Connector) :
    List Reply :=
  (h.exchange.ask now.millis h.config.connectorMillis q connectors).2

/-- A plan to fetch ends in one table, made of what was found in the sources. -/
theorem fetched_of_performed {s : Scene} (config : s.config = h.config) {sources : Sources}
    {parts : List Table} {lineage : List Nat} {q : EntityQuery} {plan : Plan} {product : Product}
    (read : List.Forall₂ (fun v t => s.variablePart q.pattern q.window v = .ok t)
      sources.vars parts)
    (form : plan = .ready (s.fetchProduct q.entityType q.limit sources lineage parts none) ∨
      plan = .fetch q sources.connectors (fun fetched =>
        s.fetchProduct q.entityType q.limit sources lineage parts (some fetched)))
    (performed : (h.perform now plan).2 = .ok product) :
    ∃ new : NewTable, product.tables = [new] ∧ new.name = s.outputName ∧
      ∀ row ∈ new.table.rows,
        Entity.MergedOf (s.Found sources (h.replies now q sources.connectors) q) row := by
  have known : ∀ t ∈ parts, ∀ row ∈ t.rows,
      Entity.MergedOf (s.Found sources (h.replies now q sources.connectors) q) row :=
    fun t member row there => .self (found_of_part read t member row there)
  rcases form with rfl | rfl
  · rw [← Except.ok.inj performed]
    exact fetchProduct_merged known (fun f given => nomatch given)
  · rw [← Except.ok.inj performed]
    refine fetchProduct_merged known (fun f given => ?_)
    have merge : f = Merge.replies h.config.timeAttributes q (h.replies now q sources.connectors) :=
      (Option.some.inj given).symm
    rw [merge, ← config]
    exact merged_of_replies

/-- How a row answers a statement that fetches: it is made of sightings that its sources offer and
that match, and it matches itself unless it puts several sightings together and the pattern does not
last, or what they have for instants are not instants. -/
structure Answers (h : Hunt) (now : Moment) (s : Scene) (sources : Sources) (q : EntityQuery)
    (row first : Entity) (others : List Entity) : Prop where
  merged : row.MergedFrom first others
  offered : ∀ e ∈ first :: others, s.Offers sources (h.replies now q sources.connectors) e
  matching : ∀ e ∈ first :: others, Matches h.config.timeAttributes q.pattern q.window e
  pattern : others = [] ∨ Pattern.Lasting? q.pattern →
    (Pattern.Reads? q.pattern "id" → row.attributes.contains "id" = false) →
    Pattern.admits? q.pattern row = true
  window : (others = [] ∨ ∀ e ∈ first :: others, Window.Timed h.config.timeAttributes e) →
    Window.admits? h.config.timeAttributes q.window row = true

theorem answers_of_merged {s : Scene} (config : s.config = h.config) {sources : Sources}
    {q : EntityQuery} {row : Entity}
    (merged : Entity.MergedOf (s.Found sources (h.replies now q sources.connectors) q) row) :
    ∃ first others, h.Answers now s sources q row first others := by
  obtain ⟨first, others, merged, each⟩ := merged
  have matching : ∀ e ∈ first :: others, Matches h.config.timeAttributes q.pattern q.window e :=
    fun e member => config ▸ (each e member).2
  refine ⟨first, others, merged, fun e member => (each e member).1, matching, ?_, ?_⟩
  · exact Pattern.admits?_of_merged merged (fun e member => (matching e member).pattern)
  · have inside := fun e member => (matching e member).window
    rintro (rfl | timed)
    · exact Window.admits?_of_single merged (inside first (List.mem_cons_self ..))
    · exact Window.admits?_of_merged merged timed inside

/-- A fetch that succeeds has bound rows each of which is made of one or more sightings in its
sources that match the pattern and are admitted by the window. -/
theorem run_get (reachable : h.Reachable)
    (gets : statement.statement.command = .get entityType named asked span limit)
    {completion : Completion} (completed : (h.run now statement).2 = .ok completion) :
    ∃ sources prepared window t,
      (h.scene now.time statement).sourcesOf entityType named = .ok sources ∧
      (h.scene now.time statement).preparePattern entityType asked = .ok prepared ∧
      (h.scene now.time statement).window span = .ok window ∧
      (h.run now statement).1.table (h.scene now.time statement).outputName = .ok t ∧
      ∀ row ∈ t.rows, ∃ first others, h.Answers now (h.scene now.time statement) sources
        ⟨entityType, prepared, window, limit⟩ row first others := by
  have stages := h.stages_run now statement
  generalize h.run now statement = result at completed stages ⊢
  cases stages with
  | senseless planned => nomatch completed
  | unanswered planned performed => nomatch completed
  | @committed plan exchange disk product planned performed =>
    have derived : product.DerivedIn h.vars :=
      perform_derived (Scene.plan_derived planned) (congrArg Prod.snd performed)
    have sound : Sound { h with exchange := exchange, disk := disk } :=
      reachable.sound.congr rfl rfl
    have fetches : (h.scene now.time statement).planGet entityType named asked span limit =
        .ok plan := by
      rw [← Scene.plan_get gets, planned]
    obtain ⟨sources, prepared, window, parts, _, found, ready, _, spanned, read, form⟩ :=
      Scene.planGet_eq_ok fetches
    obtain ⟨new, one, name, merged⟩ := fetched_of_performed
      (q := ⟨entityType, prepared, window, limit⟩) rfl read
      (form.imp (fun ready => ready.2.2) And.right) (congrArg Prod.snd performed)
    have accepted := accepts_of_commit sound.fresh one completed
    refine ⟨sources, prepared, window, _, found, ready, spanned,
      name ▸ table_commit sound derived one accepted, fun row member => ?_⟩
    obtain ⟨before, there, rfl⟩ := List.mem_map.1 member
    exact answers_of_merged rfl ((merged before there).conformTo _)

/-- A hunt with two connectors that saw one process; one knows its user, the other its port. -/
def watched : Hunt :=
  ((start .standard Disk.empty).registerConnector (.answering "edr" ["process"]
      [⟨"p1", Dict.ofList [("name", .str "cmd"), ("pid", .int 4), ("user", .str "bob")]⟩]))
    |>.registerConnector (.answering "siem" ["process"]
      [⟨"p1", Dict.ofList [("name", .str "cmd"), ("pid", .int 4), ("port", .int 443)]⟩])

theorem reachable_watched : watched.Reachable :=
  .registerConnector (.registerConnector (.start _ _) _) _

/-- Binds the processes that match a pattern. -/
def getProcesses (text : String) (p : Pattern) : PlacedStatement :=
  ⟨"a = GET process WHERE " ++ text, 1, 1, some "a", .get "process" [] (some p) none none⟩

def nameIsCmd : Pattern := .test ⟨"name", none, .equal, .value (.str "cmd")⟩

def bobOnPort : Pattern :=
  .all [.test ⟨"user", none, .equal, .value (.str "bob")⟩,
    .test ⟨"port", none, .equal, .value (.int 443)⟩]

/-- Both sightings have the name, so the row has it. -/
theorem run_get_lasting :
    let ran := watched.run ⟨⟨0, 0⟩, 0⟩ (getProcesses "name = 'cmd'" nameIsCmd)
    ∃ completion t, ran.2 = .ok completion ∧ ran.1.table "a" = .ok t ∧
      ∀ row ∈ t.rows, Pattern.admits row nameIsCmd = true := by
  have lasting : nameIsCmd.Lasting := .growing (.test (by decide))
  obtain ⟨_, completion, completed⟩ := run_of_current reachable_watched ⟨⟨0, 0⟩, 0⟩
    (getProcesses "name = 'cmd'" nameIsCmd) rfl rfl rfl (by decide +kernel) (by decide +kernel)
  obtain ⟨sources, prepared, window, t, _, ready, _, bound, each⟩ :=
    run_get reachable_watched rfl completed
  have same : prepared = some nameIsCmd := (Except.ok.inj ready).symm
  refine ⟨completion, t, completed, bound, fun row member => ?_⟩
  obtain ⟨first, others, answers⟩ := each row member
  rw [same] at answers
  refine answers.pattern (.inr (fun p this => Option.some.inj this ▸ lasting)) ?_
  rintro ⟨p, this, c, member, identifier⟩
  obtain rfl := Option.some.inj this
  obtain rfl := List.mem_singleton.1 member
  exact absurd identifier (by decide)

/-- Neither sighting shows both the user and the port, but the row does. -/
theorem run_get_unmatched :
    let ran := watched.run ⟨⟨0, 0⟩, 0⟩
      (getProcesses "NOT (user = 'bob' AND port = 443)" (.negation bobOnPort))
    ∃ completion t row, ran.2 = .ok completion ∧ ran.1.table "a" = .ok t ∧ row ∈ t.rows ∧
      Pattern.admits row (.negation bobOnPort) = false := by
  obtain ⟨after, completion, completed⟩ := run_of_current reachable_watched ⟨⟨0, 0⟩, 0⟩
    (getProcesses "NOT (user = 'bob' AND port = 443)" (.negation bobOnPort)) rfl rfl rfl
    (by decide +kernel) (by decide +kernel)
  simp only [after]
  exact ⟨completion, _, _, completed, rfl, List.mem_singleton_self _, by decide +kernel⟩

end Hunt
end ThreatHunt

/-!
Fetches with failures among the connectors. A statement that makes sense is answered whatever the
connectors do, and its product is made of the responses that came.
-/

namespace ThreatHunt

namespace Scene

open Outcome

variable {s : Scene} {entityType : String} {named : List Source} {asked prepared : Option Pattern}
  {span : Option TimeSpan} {window : Option Window} {limit : Option Nat} {sources : Sources}
  {parts : List Table}

/-- What a statement passes that fetches from connectors: its limit, its sources and its pattern
make sense, and its variables are read. -/
structure Fetches (s : Scene) (entityType : String) (named : List Source) (asked : Option Pattern)
    (span : Option TimeSpan) (limit : Option Nat) (sources : Sources) (prepared : Option Pattern)
    (window : Option Window) (parts : List Table) : Prop where
  gets : s.statement.statement.command = .get entityType named asked span limit
  limited : checkLimit limit = .ok ()
  found : s.sourcesOf entityType named = .ok sources
  present : sources.connectors ≠ []
  ready : s.preparePattern entityType asked = .ok prepared
  compiles : Pattern.check? prepared = .ok ()
  spanned : s.window span = .ok window
  read : List.Forall₂ (fun v t => s.variablePart prepared window v = .ok t) sources.vars parts

theorem Fetches.plan_eq
    (fetches : s.Fetches entityType named asked span limit sources prepared window parts) :
    s.plan = .ok (.fetch ⟨entityType, prepared, window, limit⟩ sources.connectors (fun fetched =>
      s.fetchProduct entityType limit sources
        (addNodes (s.referencedNodes? asked) (sources.vars.map Variable.id)) parts
        (some fetched))) := by
  have some : sources.connectors.isEmpty = false := by simpa using fetches.present
  rw [plan_get fetches.gets, planGet, bind_eq_ok]
  refine ⟨_, fetches.limited, bind_eq_ok.2 ⟨_, fetches.found, bind_eq_ok.2 ⟨_, fetches.ready,
    bind_eq_ok.2 ⟨_, fetches.compiles, bind_eq_ok.2 ⟨_, fetches.spanned,
      bind_eq_ok.2 ⟨_, mapM_eq_ok.2 fetches.read, ?_⟩⟩⟩⟩⟩⟩
  simp only [some, Bool.false_and, Bool.false_eq_true, if_false, pure_eq_ok]

end Scene

namespace Hunt

/-- A query of connectors succeeds, whatever these come to. It merges the responses alone, in their
order, and its report has one outcome for each connector, degraded and without entities just where
the result was no response. A statement that makes sense leads to such a query. -/
theorem perform_fetch (h : Hunt) (now : Moment) (q : EntityQuery) (connectors : List Connector)
    (finish : Fetched → Product) :
    (∃ fetched, (h.perform now (.fetch q connectors finish)).2 = .ok (finish fetched) ∧
      List.Forall₂ (fun c r => r.connector = c.name ∧ h.exchange.Comes now.millis
        h.config.connectorMillis q connectors c r.result) connectors (h.replies now q connectors) ∧
      Merge.Isolates h.config.timeAttributes q (h.replies now q connectors) fetched ∧
      fetched.report.outcomes.map Outcome.connector = connectors.map Connector.name) ∧
    (∀ statement named asked span sources parts,
      (h.scene now.time statement).Fetches q.entityType named asked span q.limit sources q.pattern
        q.window parts →
      ∃ finish, (h.scene now.time statement).plan = .ok (.fetch q sources.connectors finish)) := by
  constructor
  · have isolates := Merge.isolates_replies h.config.timeAttributes q (h.replies now q connectors)
    have come := Exchange.comes_ask now.millis h.config.connectorMillis q connectors h.exchange
    have named := Outcome.map_eq_of_forall₂ come (fun _ _ both => both.1)
    have listed := Outcome.map_eq_of_forall₂ isolates.outcomes (fun _ _ both => both.1)
    exact ⟨_, rfl, come, isolates, listed.trans named⟩
  · intro statement named asked span sources parts fetches
    exact ⟨_, fetches.plan_eq⟩

/-- A hunt with a connector that knows a process and one that never answers. -/
def impaired : Hunt :=
  ((start .standard Disk.empty).registerConnector (.answering "edr" ["process"]
      [⟨"p1", Dict.ofList [("name", .str "cmd")]⟩])).registerConnector
    { name := "siem"
      capabilities := .ofTypes ["process"]
      client :=
        { answer := fun _ _ => .silent
          relate := fun _ _ => .silent } }

/-- The silent connector is told of, and the process is found. -/
theorem perform_fetch_impaired :
    ∃ q connectors finish fetched,
      (impaired.scene epoch.time (getProcesses "name = 'cmd'" nameIsCmd)).plan =
        .ok (.fetch q connectors finish) ∧
      (impaired.perform epoch (.fetch q connectors finish)).2 = .ok (finish fetched) ∧
      fetched.table.ids = ["p1"] ∧
      fetched.report.outcomes.map Outcome.connector = ["edr", "siem"] ∧
      fetched.report.outcomes.map Outcome.isDegraded = [false, true] := by
  have fetches : (impaired.scene epoch.time (getProcesses "name = 'cmd'" nameIsCmd)).Fetches
      "process" [] (some nameIsCmd) none none _ _ _ [] :=
    ⟨rfl, rfl, rfl, List.cons_ne_nil _ _, rfl, rfl, rfl, .nil⟩
  obtain ⟨finish, planned⟩ := (perform_fetch impaired epoch ⟨"process", some nameIsCmd, none, none⟩
    [] (fun _ => {})).2 _ _ _ _ _ _ fetches
  obtain ⟨fetched, performed, come, isolates, listed⟩ := (perform_fetch impaired epoch
    ⟨"process", some nameIsCmd, none, none⟩ _ finish).1
  refine ⟨_, _, finish, fetched, planned, performed, ?_, listed, ?_⟩
  · rw [isolates.table]
    decide +kernel
  · have fared := isolates.outcomes
    generalize fetched.report.outcomes = outcomes at fared ⊢
    obtain _ | ⟨⟨_, first, _⟩, _ | ⟨⟨_, second, _⟩, ⟨⟩⟩⟩ := fared
    have given := Bool.eq_false_iff.2 (fun degraded => nomatch first.1 degraded)
    have missing := second.2 ⟨_, rfl⟩
    rw [List.map_cons, List.map_cons, given, missing]
    rfl

end Hunt
end ThreatHunt
