import ThreatHunt.Proofs.Hunt.Connected
import ThreatHunt.Proofs.Hunt.Fetched
import ThreatHunt.Proofs.Hunt.Committed
import ThreatHunt.Proofs.Table.Union

/-!
Searches around a variable. The entities that are known of a type are pooled, and of the pool those
are found that match and that an admissible edge leads from to the variable, or to which one leads
from there.
-/

namespace ThreatHunt

namespace Relation

/-- Whether an edge leads from an entity to one of some others; one of `linked` may come from
there. -/
def Enters (relation : String) (targets : List String) (id : String) (e : Edge) : Prop :=
  (e.source = id ∧ e.target ∈ targets) ∨
    (relation = linked ∧ e.target = id ∧ e.source ∈ targets)

theorem goes_reverse {relation : String} {targets : List String} {id : String} {e : Edge} :
    Goes relation targets id (reverse e) ↔ Enters relation targets id e := by
  simp only [Goes, Enters, reverse]
  tauto

end Relation

namespace Scene

variable {s : Scene}

theorem plan_findRelated {entityType relation input : String} {reversed : Bool}
    {asked : Option Pattern} {span : Option TimeSpan} {limit : Option Nat}
    (finds : s.statement.statement.command =
      .findRelated entityType relation reversed input asked span limit) :
    s.plan = s.planRelated entityType relation reversed input asked span limit := by
  unfold plan
  rw [finds]

theorem entityType_pool (entityType : String) (tables : List Table) :
    (pool entityType tables).entityType = entityType := rfl

theorem unionOf_pool (entityType : String) (tables : List Table) :
    Table.UnionOf (tables.flatMap Table.rows) (pool entityType tables).rows :=
  (Table.unionOf_mergeRows _).conformRows _

theorem fills_pool {entityType : String} {tables : List Table} {row : Entity}
    (member : row ∈ (pool entityType tables).rows) :
    row.Fills (pool entityType tables).schema := by
  obtain ⟨before, _, rfl⟩ := List.mem_map.1 member
  exact Entity.fills_conformTo _ before

end Scene

namespace Hunt

open ThreatHunt.Relation (Admissible Enters linked)

variable {h : Hunt} {now : Moment} {statement : PlacedStatement} {entityType relation : String}
  {reversed : Bool} {pool around : Table} {window : Option Window}

/-- Whether an admissible edge leads from an entity of a pool to a row of a table, or from there to
the entity if the search is reversed. -/
def Related (h : Hunt) (relation : String) (reversed : Bool) (pool around : Table)
    (window : Option Window) (id : String) : Prop :=
  if reversed then h.Joined relation around pool window id
  else ∃ e, h.Sees relation pool around window e ∧ Admissible relation window e ∧
    Enters relation around.ids id e

theorem not_related_of_empty (none : around.rows = []) (id : String) :
    ¬h.Related relation reversed pool around window id := by
  unfold Related
  split
  · exact not_joined_of_empty none id
  · rintro ⟨e, _, _, ⟨_, within⟩ | ⟨_, _, within⟩⟩
    · simp [Table.ids, none] at within
    · simp [Table.ids, none] at within

/-- The edges that a search collects, turned round unless it is reversed, lead from the variable to
the entities that are related to it. -/
theorem perform_around {finish : List Edge → Product} {product : Product}
    (performed : (h.perform now (
      if pool.isEmpty || around.isEmpty then .ready (finish [])
      else if reversed then
        (h.scene now.time statement).planEdges relation around pool window finish
      else (h.scene now.time statement).planEdges relation pool around window
        (fun edges => finish (edges.map Relation.reverse)))).2 = .ok product) :
    ∃ edges, product.tables = (finish edges).tables ∧ ∀ row ∈ pool.rows,
      edges.any (Relation.leadsTo relation around.ids row.id) = true ↔
        h.Related relation reversed pool around window row.id := by
  by_cases empty : (pool.isEmpty || around.isEmpty) = true
  · rw [if_pos empty] at performed
    refine ⟨[], congrArg Product.tables (Except.ok.inj performed).symm, ?_⟩
    intro row member
    rcases Bool.or_eq_true_iff.1 empty with none | none
    · rw [List.isEmpty_iff.1 none] at member
      exact absurd member List.not_mem_nil
    · simpa using not_related_of_empty (List.isEmpty_iff.1 none) row.id
  · rw [if_neg empty] at performed
    cases reversed with
    | true =>
      rw [if_pos rfl] at performed
      obtain ⟨edges, made, collected⟩ := perform_planEdges performed
      refine ⟨edges, made, ?_⟩
      intro row _
      simp only [List.any_eq_true, Relation.leadsTo_iff, collected, Related, if_true, Joined]
      constructor
      · rintro ⟨e, ⟨admissible, seen⟩, goes⟩
        exact ⟨e, seen, admissible, goes⟩
      · rintro ⟨e, seen, admissible, goes⟩
        exact ⟨e, ⟨admissible, seen⟩, goes⟩
    | false =>
      rw [if_neg Bool.false_ne_true] at performed
      obtain ⟨edges, made, collected⟩ := perform_planEdges performed
      refine ⟨edges.map Relation.reverse, made, ?_⟩
      intro row _
      simp only [List.any_map, List.any_eq_true, Function.comp_apply, Relation.leadsTo_iff,
        Relation.goes_reverse, collected, Related, Bool.false_eq_true, if_false]
      constructor
      · rintro ⟨e, ⟨admissible, seen⟩, enters⟩
        exact ⟨e, seen, admissible, enters⟩
      · rintro ⟨e, seen, admissible, enters⟩
        exact ⟨e, ⟨admissible, seen⟩, enters⟩

theorem tables_of_listed (reachable : h.Reachable) {time : Instant} {tables : List Table}
    (read : List.Forall₂ (fun v t => (h.scene time statement).tableOf v = .ok t)
      ((h.scene time statement).variablesOfType entityType) tables) :
    List.Forall₂ (fun v t => h.table v.name = .ok t)
      (h.vars.list.filter (fun v => v.entityType == entityType)) tables := by
  have listed : ∀ v ∈ (h.scene time statement).variablesOfType entityType, v ∈ h.vars.list :=
    fun v member => List.mem_of_mem_filter member
  have both := (List.forall₂_and_left _ _).2 ⟨listed, read⟩
  exact both.imp (fun v t holds => reachable.table_of_listed holds.1 holds.2)

theorem rows_found {timeAttributes : List String} {prepared : Option Pattern} {edges : List Edge} :
    Table.matching timeAttributes prepared window
        (Relation.reached relation edges around.ids pool.rows) =
      pool.rows.filter (fun row =>
        (Pattern.admits? prepared row && Window.admits? timeAttributes window row) &&
          edges.any (Relation.leadsTo relation around.ids row.id)) := by
  rw [Table.matching, Relation.reached, List.filter_filter]

/-- A search around a variable that succeeds binds the first rows of the pool that match the pattern
and the window and are related to the variable. -/
theorem found_of_completed (reachable : h.Reachable) {input : String} {asked : Option Pattern}
    {span : Option TimeSpan} {limit : Option Nat}
    (finds : statement.statement.command =
      .findRelated entityType relation reversed input asked span limit)
    {completion : Completion} (completed : (h.run now statement).2 = .ok completion) :
    ∃ tables around prepared window, ∃ found : Entity → Bool,
      List.Forall₂ (fun v t => h.table v.name = .ok t)
        (h.vars.list.filter (fun v => v.entityType == entityType)) tables ∧
      h.table input = .ok around ∧
      (h.scene now.time statement).preparePattern entityType asked = .ok prepared ∧
      (h.scene now.time statement).window span = .ok window ∧
      (∀ row ∈ (Scene.pool entityType tables).rows, found row = true ↔
        Matches h.config.timeAttributes prepared window row ∧
          h.Related relation reversed (Scene.pool entityType tables) around window row.id) ∧
      (h.run now statement).1.table (h.scene now.time statement).outputName =
        .ok (Table.limit limit { Scene.pool entityType tables with
          rows := (Scene.pool entityType tables).rows.filter found }) := by
  obtain ⟨plan, product, planned, performed, bound⟩ := table_of_completed reachable completed
  rw [Scene.plan_findRelated finds] at planned
  obtain ⟨center, prepared, window, tables, around, _, named, _, _, ready, _, spanned, read, _,
    there, form⟩ := Scene.planRelated_eq_ok planned
  dsimp only at form
  rw [form] at performed
  obtain ⟨edges, one, leads⟩ := perform_around performed
  refine ⟨tables, around, prepared, window,
    fun row => (Pattern.admits? prepared row &&
      Window.admits? h.config.timeAttributes window row) &&
        edges.any (Relation.leadsTo relation around.ids row.id),
    tables_of_listed reachable read, table_of_operand named there, ready, spanned, ?_, ?_⟩
  · intro row member
    rw [Bool.and_eq_true, Bool.and_eq_true, leads row member]
    constructor
    · rintro ⟨⟨matching, inside⟩, related⟩
      exact ⟨⟨matching, inside⟩, related⟩
    · rintro ⟨⟨matching, inside⟩, related⟩
      exact ⟨⟨matching, inside⟩, related⟩
  · rw [bound _ one, rows_found]
    have whole : ∀ row ∈ (Scene.pool entityType tables).rows,
        row.Fills (Scene.pool entityType tables).schema := fun row => Scene.fills_pool
    cases limit with
    | none =>
      simp only [Table.limit, Table.ofSchema]
      rw [Table.conformRows_of_fills (fun row member => whole row (List.mem_of_mem_filter member))]
      rfl
    | some n =>
      simp only [Table.limit, Table.ofSchema]
      rw [Table.conformRows_of_fills (fun row member =>
        whole row (List.mem_of_mem_filter (List.mem_of_mem_take member)))]
      rfl

/-- A search around a variable that succeeds binds the first rows of the pool, in its order, that
match the pattern and the window and are related to the variable. The pool is the union of all
bound variables of the type, in the order of their binding. -/
theorem run_findRelated (reachable : h.Reachable) {input : String} {asked : Option Pattern}
    {span : Option TimeSpan} {limit : Option Nat}
    (finds : statement.statement.command =
      .findRelated entityType relation reversed input asked span limit)
    {completion : Completion} (completed : (h.run now statement).2 = .ok completion) :
    ∃ tables pool around prepared window, ∃ found : Entity → Bool,
      List.Forall₂ (fun v t => h.table v.name = .ok t)
        (h.vars.list.filter (fun v => v.entityType == entityType)) tables ∧
      pool = Scene.pool entityType tables ∧
      Table.UnionOf (tables.flatMap Table.rows) pool.rows ∧
      h.table input = .ok around ∧
      (h.scene now.time statement).preparePattern entityType asked = .ok prepared ∧
      (h.scene now.time statement).window span = .ok window ∧
      (∀ row ∈ pool.rows, found row = true ↔
        Matches h.config.timeAttributes prepared window row ∧
          h.Related relation reversed pool around window row.id) ∧
      (h.run now statement).1.table (h.scene now.time statement).outputName =
        .ok (Table.limit limit { pool with rows := pool.rows.filter found }) := by
  obtain ⟨tables, around, prepared, window, found, listed, center, ready, spanned, finds, bound⟩ :=
    found_of_completed reachable finds completed
  exact ⟨tables, _, around, prepared, window, found, listed, rfl,
    Scene.unionOf_pool entityType tables, center, ready, spanned, finds, bound⟩

/-- Searches the processes around those under `b`. -/
def findAround : PlacedStatement :=
  ⟨"r = FIND process accessed b WHERE name = 'cmd' LIMIT 1", 1, 1, some "r",
    .findRelated "process" "accessed" false "b" (some nameIsCmd) none (some 1)⟩

theorem run_findRelated_answered :
    ∃ t, ((recorded.registerConnector accessLog).run epoch findAround).1.table "r" = .ok t ∧
      t.ids = ["p1"] := by
  have reached : (recorded.registerConnector accessLog).Reachable :=
    reachable_recorded.registerConnector _
  have completed : ∃ completion,
      ((recorded.registerConnector accessLog).run epoch findAround).2 = .ok completion := by
    rw [recorded_eq]
    exact ⟨_, rfl⟩
  obtain ⟨completion, completed⟩ := completed
  obtain ⟨tables, pool, around, prepared, window, found, listed, pooled, _, center, ready,
    spanned, finds, bound⟩ := run_findRelated reached rfl completed
  refine ⟨_, bound, ?_⟩
  rw [recorded_eq] at listed center ready spanned finds
  obtain _ | ⟨first, _ | ⟨second, ⟨⟩⟩⟩ := listed
  obtain rfl := Except.ok.inj first
  obtain rfl := Except.ok.inj second
  have within : "q2" ∈ around.ids := by
    rw [← Except.ok.inj center]
    decide +kernel
  obtain rfl := Except.ok.inj ready
  obtain rfl := Except.ok.inj spanned
  obtain ⟨row, others, whole, id, named⟩ : ∃ row others, pool.rows = row :: others ∧
      row.id = "p1" ∧ nameIsCmd.admits row = true := by
    rw [pooled]
    exact ⟨_, _, rfl, rfl, by decide +kernel⟩
  have enters : Enters "accessed" around.ids row.id ⟨"accessed", "p1", "q2", none⟩ :=
    .inl ⟨id.symm, within⟩
  have answers : (start .standard Disk.empty).exchange.Answers ⟨"accessed", pool.ids, none⟩
      [accessLog] ⟨"accessed", "p1", "q2", none⟩ :=
    .intro (i := 0) rfl rfl (List.mem_singleton_self _)
  have met := (finds row (whole ▸ List.mem_cons_self ..)).2 ⟨⟨named, rfl⟩,
    ⟨_, .answered answers, ⟨.inr rfl, fun _ _ _ seen => nomatch seen⟩, enters⟩⟩
  simp only [Table.limit, Table.ids, whole, List.filter_cons_of_pos met, List.take_succ_cons,
    List.take_zero, List.map_cons, List.map_nil, id]

end Hunt
end ThreatHunt
