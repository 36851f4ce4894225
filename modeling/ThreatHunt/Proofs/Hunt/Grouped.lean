import ThreatHunt.Proofs.Command.Reading
import ThreatHunt.Proofs.Hunt.Unrepeated
import ThreatHunt.Proofs.Table.Partition

/-!
Groups of stored tables. A statement that groups rows by attributes that are there is carried out
unless two keys have one digest, and binds one row for each group. Such a row shows the attributes
of the groups and the aggregates under their names; where a name stands for several of these, the
last aggregation counts.
-/

namespace ThreatHunt

namespace Table

variable {keys : List String} {aggregations : List Aggregation} {rows : List Entity}
  {entityType : String}

/-- The schema that rows show knows their attributes. -/
theorem known_ofRows :
    ∀ row ∈ rows, ∀ name, row.attributes.contains name = true →
      (ofRows entityType rows).schema.has name = true := by
  intro row member name shown
  apply Schema.has_iff.2
  right
  exact Schema.mem_names_infer.2 ⟨row.attributes, List.mem_map_of_mem member, shown⟩

/-- The schema that rows of groups show knows what they show. -/
theorem fills_groupRows :
    ∀ row ∈ groupRows keys aggregations rows,
      row.Fills (ofRows entityType (groupRows keys aggregations rows)).schema := by
  intro row member name column
  obtain ⟨attributes, among, shown⟩ := Schema.mem_names_infer.1 column
  obtain ⟨other, inside, rfl⟩ := List.mem_map.1 among
  obtain ⟨g, -, rfl⟩ := List.mem_map.1 member
  obtain ⟨g', -, rfl⟩ := List.mem_map.1 inside
  exact contains_groupRow.2 (contains_groupRow.1 shown)

theorem accepts_groupRows (apart : NoCollision keys rows) :
    Store.Accepts (ofRows entityType (groupRows keys aggregations rows)).schema
      (groupRows keys aggregations rows) where
  named := by
    intro row member empty
    obtain ⟨g, -, rfl⟩ := List.mem_map.1 member
    have chars := congrArg String.toList empty
    simp [groupRow] at chars
  distinct := nodup_ids_groupRows apart
  known := known_ofRows

/-- What a row of a group shows: an attribute of the groups as it is in the first member, unless an
aggregation has its name, and the aggregates of the group, unless another aggregation that comes
later has the name. -/
structure Shows (keys : List String) (aggregations : List Aggregation)
    (g : String × List Entity) (row : Entity) : Prop where
  key : ∀ name ∈ keys, (∀ b ∈ aggregations, b.name ≠ name) →
    ∃ first rest, g.2 = first :: rest ∧ row.attributes.find? name = some (first.valueOf name)
  result : ∀ before a after, aggregations = before ++ a :: after →
    (∀ b ∈ after, b.name = a.name → b = a) →
    row.attributes.find? a.name = some (a.func.evaluate a.attr g.2)

theorem shows_groupRow {g : String × List Entity} (member : g ∈ groups keys rows) :
    Shows keys aggregations g (groupRow keys aggregations g) where
  key := by
    intro name among free
    obtain ⟨first, rest, starts⟩ := List.exists_cons_of_ne_nil (group_ne_nil member)
    exact ⟨first, rest, starts, find?_groupRow_key among free starts⟩
  result := fun _ _ _ split last => find?_groupRow_result split last g

end Table

namespace Scene

variable {s : Scene} {input : Option String} {keys : List String}
  {aggregations : List Aggregation} {plan : Plan} {v : Variable} {t : Table}

/-- A variable whose table has the attributes that a statement groups by and aggregates. -/
structure Groups (s : Scene) (input : Option String) (keys : List String)
    (aggregations : List Aggregation) (v : Variable) (t : Table) : Prop where
  operand : s.operand input = .ok v
  table : s.tableOf v = .ok t
  keys : t.schema.checkAttributes keys "GROUP BY" = .ok ()
  results : Aggregation.checkAll t.schema (Table.aggregationsOrCount aggregations) = .ok ()

/-- The table that a grouping is to bind. -/
def groupedTable (keys : List String) (aggregations : List Aggregation) (v : Variable) (t : Table) :
    Table :=
  Table.ofRows v.entityType (Table.groupRows keys aggregations t.rows)

/-- The rows of a grouping lack nothing that its schema knows. -/
theorem conform_groupedTable :
    Table.ofSchema (groupedTable keys aggregations v t).schema
        (Table.conformRows (groupedTable keys aggregations v t).schema
          (groupedTable keys aggregations v t).rows) =
      groupedTable keys aggregations v t := by
  have whole : Table.conformRows (groupedTable keys aggregations v t).schema
      (groupedTable keys aggregations v t).rows = (groupedTable keys aggregations v t).rows :=
    Table.conformRows_of_fills Table.fills_groupRows
  rw [whole]
  rfl

theorem plan_group (command : s.statement.statement.command = .group input keys aggregations) :
    s.plan = s.planGroup input keys aggregations := by
  unfold Scene.plan
  rw [command]

theorem planGroup_of_groups (groups : s.Groups input keys aggregations v t) :
    s.planGroup input keys aggregations =
      .ok (.ready (s.single (groupedTable keys aggregations v t) [v.id] [])) :=
  planGroup_eq_ok.2
    ⟨v, groups.operand, t, groups.table, (), groups.keys, (), groups.results, rfl⟩

theorem groups_of_planGroup (planned : s.planGroup input keys aggregations = .ok plan) :
    ∃ v t, s.Groups input keys aggregations v t ∧
      plan = .ready (s.single (groupedTable keys aggregations v t) [v.id] []) := by
  obtain ⟨v, operand, t, table, _, attributes, _, results, rfl⟩ := planGroup_eq_ok.1 planned
  exact ⟨v, t, ⟨operand, table, attributes, results⟩, rfl⟩

end Scene

namespace Hunt

open Scene (groupedTable)

variable {h : Hunt} {now : Moment} {statement : PlacedStatement} {input : Option String}
  {keys : List String} {aggregations : List Aggregation} {v : Variable} {t : Table}

/-- The rows of groups are bound as they are made. -/
theorem table_of_grouped (reachable : h.Reachable)
    (command : statement.statement.command = .group input keys aggregations)
    {completion : Completion} (completed : (h.run now statement).2 = .ok completion) :
    ∃ v t, (h.scene now.time statement).Groups input keys aggregations v t ∧
      (h.run now statement).1.table (h.scene now.time statement).outputName =
        .ok (groupedTable keys aggregations v t) := by
  obtain ⟨plan, product, planned, performed, bound⟩ := table_of_completed reachable completed
  rw [Scene.plan_group command] at planned
  obtain ⟨v, t, groups, rfl⟩ := Scene.groups_of_planGroup planned
  obtain rfl := Except.ok.inj performed
  exact ⟨v, t, groups, (bound _ rfl).trans (congrArg Except.ok Scene.conform_groupedTable)⟩

/-- A grouping of attributes that are there is carried out if no two keys have one digest. -/
theorem run_of_groups (reachable : h.Reachable)
    (command : statement.statement.command = .group input keys aggregations)
    (groups : (h.scene now.time statement).Groups input keys aggregations v t)
    (apart : Table.NoCollision keys t.rows) :
    ∃ completion, (h.run now statement).2 = .ok completion := by
  have planned := Scene.planGroup_of_groups groups
  rw [← Scene.plan_group command] at planned
  exact completes_of_ready reachable planned rfl (Table.accepts_groupRows apart)

/-- A grouping partitions the rows of its operand. -/
theorem run_group_partitions (reachable : h.Reachable)
    (command : statement.statement.command = .group input keys aggregations)
    (groups : (h.scene now.time statement).Groups input keys aggregations v t)
    (apart : Table.NoCollision keys t.rows) :
    ∃ completion result, (h.run now statement).2 = .ok completion ∧
      (h.run now statement).1.table (h.scene now.time statement).outputName =
        .ok (Table.ofRows v.entityType result) ∧
      Table.Partitions keys aggregations t.rows result := by
  obtain ⟨completion, completed⟩ := run_of_groups reachable command groups apart
  obtain ⟨v', t', groups', bound⟩ := table_of_grouped reachable command completed
  obtain rfl := Except.ok.inj (groups.operand.symm.trans groups'.operand)
  obtain rfl := Except.ok.inj (groups.table.symm.trans groups'.table)
  exact ⟨completion, _, completed, bound, Table.partitions_groupRows apart⟩

def newCounted : PlacedStatement :=
  newProcesses "a"
    ("[\x7b\"id\": \"p1\", \"name\": \"cmd\", \"pid\": 4, \"count\": \"high\"\x7d, " ++
      "\x7b\"id\": \"p2\", \"name\": \"sh\", \"count\": \"low\"\x7d, " ++
      "\x7b\"id\": \"p3\", \"name\": \"cmd\", \"pid\": 3, \"count\": \"low\"\x7d]")
    [.obj [("count", .str "high"), ("id", .str "p1"), ("name", .str "cmd"), ("pid", .int 4)],
      .obj [("count", .str "low"), ("id", .str "p2"), ("name", .str "sh")],
      .obj [("count", .str "low"), ("id", .str "p3"), ("name", .str "cmd"), ("pid", .int 3)]]

/-- A hunt with three processes under `a`. -/
def counted : Hunt := ((start .standard Disk.empty).run epoch newCounted).1

theorem reachable_counted : counted.Reachable := .run (.start _ _) _ _

theorem counted_eq : counted =
    (start .standard Disk.empty).withProcesses newCounted
      [⟨"p1", Dict.ofList [("count", .str "high"), ("name", .str "cmd"), ("pid", .int 4)]⟩,
        ⟨"p2", Dict.ofList [("count", .str "low"), ("name", .str "sh")]⟩,
        ⟨"p3", Dict.ofList [("count", .str "low"), ("name", .str "cmd"), ("pid", .int 3)]⟩] :=
  (run_of_current (.start _ _) epoch newCounted rfl rfl rfl (by decide +kernel)
    (by decide +kernel)).1

def groupNames : PlacedStatement :=
  ⟨"g = GROUP a BY name WITH COUNT(*), SUM(pid)", 1, 1, some "g",
    .group (some "a") ["name"] [⟨.count, "*", "count"⟩, ⟨.sum, "pid", "sum_pid"⟩]⟩

theorem groups_counted :
    ∃ v t, (counted.scene epoch.time groupNames).Groups (some "a") ["name"]
      [⟨.count, "*", "count"⟩, ⟨.sum, "pid", "sum_pid"⟩] v t ∧ Table.NoCollision ["name"] t.rows ∧
      t.ids = ["p1", "p2", "p3"] := by
  rw [counted_eq]
  exact ⟨_, _, ⟨rfl, rfl, rfl, rfl⟩, by decide +kernel, rfl⟩

theorem run_group_partitions_counted :
    ∃ (v : Variable) (t : Table) (completion : Completion) (result : List Entity),
      t.ids = ["p1", "p2", "p3"] ∧ (counted.run epoch groupNames).2 = .ok completion ∧
      (counted.run epoch groupNames).1.table "g" = .ok (Table.ofRows v.entityType result) ∧
      Table.Partitions ["name"] [⟨.count, "*", "count"⟩, ⟨.sum, "pid", "sum_pid"⟩] t.rows
        result := by
  obtain ⟨v, t, groups, apart, ids⟩ := groups_counted
  obtain ⟨completion, result, completed, bound, partitions⟩ :=
    run_group_partitions reachable_counted rfl groups apart
  exact ⟨v, t, completion, result, ids, completed, bound, partitions⟩

/-- Each row of a grouping shows the attributes and the aggregates of its group. -/
theorem run_group_shows (reachable : h.Reachable)
    (command : statement.statement.command = .group input keys aggregations)
    {completion : Completion} (completed : (h.run now statement).2 = .ok completion) :
    ∃ v t result, (h.scene now.time statement).Groups input keys aggregations v t ∧
      (h.run now statement).1.table (h.scene now.time statement).outputName =
        .ok (Table.ofRows v.entityType result) ∧
      List.Forall₂ (Table.Shows keys (Table.aggregationsOrCount aggregations))
        (Table.groups keys t.rows) result := by
  obtain ⟨v, t, groups, bound⟩ := table_of_grouped reachable command completed
  refine ⟨v, t, _, groups, bound, ?_⟩
  rw [Table.groupRows, List.forall₂_map_right_iff, List.forall₂_same]
  exact fun g member => Table.shows_groupRow member

theorem run_group_shows_counted :
    ∃ (v : Variable) (t : Table) (result : List Entity),
      (counted.scene epoch.time groupNames).Groups (some "a") ["name"]
        [⟨.count, "*", "count"⟩, ⟨.sum, "pid", "sum_pid"⟩] v t ∧
      (counted.run epoch groupNames).1.table "g" = .ok (Table.ofRows v.entityType result) ∧
      List.Forall₂ (Table.Shows ["name"] [⟨.count, "*", "count"⟩, ⟨.sum, "pid", "sum_pid"⟩])
        (Table.groups ["name"] t.rows) result := by
  obtain ⟨_, _, groups, apart, _⟩ := groups_counted
  obtain ⟨completion, completed⟩ := run_of_groups reachable_counted rfl groups apart
  exact run_group_shows reachable_counted rfl completed

/-- A count replaces an attribute of its name, by which the rows are grouped. -/
theorem run_group_shows_replaced :
    ¬∀ (h : Hunt) (now : Moment) (text : String) (statement : PlacedStatement)
      (input : Option String) (keys : List String) (aggregations : List Aggregation)
      (completion : Completion), h.Reachable → .ok statement ∈ Script.read text →
      statement.statement.command = .group input keys aggregations →
      (h.run now statement).2 = .ok completion →
      ∃ (v : Variable) (t : Table) (result : List Entity),
        (h.scene now.time statement).Groups input keys aggregations v t ∧
        (h.run now statement).1.table (h.scene now.time statement).outputName =
          .ok (Table.ofRows v.entityType result) ∧
        List.Forall₂ (fun g row =>
          (∀ name ∈ keys, ∃ first rest, g.2 = first :: rest ∧
            row.attributes.find? name = some (first.valueOf name)) ∧
          ∀ a ∈ Table.aggregationsOrCount aggregations,
            row.attributes.find? a.name = some (a.func.evaluate a.attr g.2))
          (Table.groups keys t.rows) result := by
  intro exact
  have written : ∃ placed, .ok placed ∈ Script.read "g = GROUP a BY count" ∧
      placed.statement = ⟨some "g", .group (some "a") ["count"] []⟩ :=
    Script.mem_read (show Source.stripComments "g = GROUP a BY count" = _ by decide +kernel)
      (show _ = [⟨0, 20⟩] by decide +kernel)
      (show _ = some [⟨.word "g", 0⟩, ⟨.mark .equal, 2⟩, ⟨.word "GROUP", 4⟩, ⟨.word "a", 10⟩,
        ⟨.word "BY", 12⟩, ⟨.word "count", 15⟩] by decide +kernel)
      rfl
  obtain ⟨placed, read, statement⟩ := written
  have command : placed.statement.command = .group (some "a") ["count"] [] := by
    rw [statement]
  have groups : ∃ v t, (counted.scene epoch.time placed).Groups (some "a") ["count"] [] v t ∧
      Table.NoCollision ["count"] t.rows ∧
      t.rows.map (fun row => row.valueOf "count") = [.str "high", .str "low", .str "low"] := by
    rw [counted_eq]
    exact ⟨_, _, ⟨rfl, rfl, rfl, rfl⟩, by decide +kernel, rfl⟩
  obtain ⟨v, t, groups, apart, values⟩ := groups
  obtain ⟨completion, completed⟩ := run_of_groups reachable_counted command groups apart
  obtain ⟨v', t', result, groups', -, shows⟩ :=
    exact counted epoch _ placed _ _ _ completion reachable_counted read command completed
  obtain rfl := Except.ok.inj (groups.operand.symm.trans groups'.operand)
  obtain rfl := Except.ok.inj (groups.table.symm.trans groups'.table)
  generalize made : Table.groups ["count"] t.rows = gs at shows
  cases shows with
  | nil =>
    have long := congrArg List.length values
    have none := (Table.perm_groups ["count"] t.rows).length_eq
    rw [made] at none
    rw [List.length_map, ← none] at long
    exact absurd long (by decide)
  | @cons g row _ _ first others =>
    -- Under the one name stand a text and a number.
    obtain ⟨member, rest, starts, text⟩ := first.1 "count" (List.mem_singleton_self _)
    have number := first.2 ⟨.count, "*", "count"⟩ (List.mem_singleton_self _)
    have group : g ∈ Table.groups ["count"] t.rows := made ▸ List.mem_cons_self ..
    have inside : member ∈ t.rows :=
      ((Table.mem_group group).1 (starts ▸ List.mem_cons_self ..)).1
    have value : member.valueOf "count" ∈ [Value.str "high", .str "low", .str "low"] :=
      values ▸ List.mem_map_of_mem inside
    have same := Option.some.inj (text.symm.trans number)
    rw [same] at value
    simp [Aggregate.evaluate] at value

end Hunt
end ThreatHunt
