import ThreatHunt.Proofs.Hunt.Committed
import ThreatHunt.Proofs.Table.Joining

/-!
Joins of stored tables. The tables that a statement joins have distinct identifiers, and everything
about the joined rows is in order but for identifiers that clash. So a join that makes sense is
refused by the store just if there is a clash.
-/

namespace ThreatHunt

/-- An error that tells of a row identifier that comes twice. -/
def HuntError.TellsOfRepetition (e : HuntError) : Prop :=
  ∃ id handle, e = .store (.repeatedId id handle)

namespace Scene

open Outcome

variable {s : Scene} {left right : String} {keys : Option (String × String)} {plan : Plan}

theorem plan_join (joins : s.statement.statement.command = .join left right keys) :
    s.plan = s.planJoin left right keys := by
  unfold Scene.plan
  rw [joins]

/-- Two variables of compatible types whose tables have the attributes of a join. -/
structure Joins (s : Scene) (left right : String) (keys : Option (String × String))
    (a b : Variable) (l r : Table) : Prop where
  first : s.operand (some left) = .ok a
  second : s.operand (some right) = .ok b
  compatible : compatibleTypes a.entityType b.entityType = true
  leftTable : s.tableOf a = .ok l
  rightTable : s.tableOf b = .ok r
  leftKey : l.schema.checkAttributes [(joinKeys keys).1] "JOIN" = .ok ()
  rightKey : r.schema.checkAttributes [(joinKeys keys).2] "JOIN" = .ok ()

/-- The table that a join is to bind. -/
def joinedTable (keys : Option (String × String)) (a b : Variable) (l r : Table) : Table :=
  Table.ofSchema (joinSchema a b l r) (Table.conformRows (joinSchema a b l r)
    (Table.joinRows l r (joinKeys keys).1 (joinKeys keys).2))

theorem planJoin_of_joins {a b : Variable} {l r : Table} (joins : s.Joins left right keys a b l r) :
    ∃ product : Product, s.planJoin left right keys = .ok (.ready product) ∧
      product.tables = [⟨s.outputName, joinedTable keys a b l r, [a.id, b.id], []⟩] :=
  ⟨_, planJoin_eq_ok.2 ⟨a, joins.first, b, joins.second, by simp [joins.compatible], l,
    joins.leftTable, r, joins.rightTable, (), joins.leftKey, (), joins.rightKey, rfl⟩, rfl⟩

theorem joins_of_planJoin (planned : s.planJoin left right keys = .ok plan) :
    ∃ a b l r, s.Joins left right keys a b l r := by
  obtain ⟨a, first, b, second, fits, l, leftTable, r, rightTable, _, leftKey, _, rightKey, _⟩ :=
    planJoin_eq_ok.1 planned
  exact ⟨a, b, l, r, first, second, by simpa using fits, leftTable, rightTable, leftKey, rightKey⟩

theorem not_tellsOfRepetition_of_clause {α : Type} {x : Except HuntError α}
    (fails : ∀ e, x = .error e → e.OfClause) : ∀ e, x = .error e → ¬e.TellsOfRepetition := by
  rintro e failed ⟨id, handle, rfl⟩
  nomatch fails _ failed

/-- A join that makes no sense is not told of as a repetition. -/
theorem planJoin_fails : ∀ e, s.planJoin left right keys = .error e → ¬e.TellsOfRepetition := by
  unfold planJoin
  apply fails_bind (not_tellsOfRepetition_of_clause (operand_fails _))
  intro a
  apply fails_bind (not_tellsOfRepetition_of_clause (operand_fails _))
  intro b
  refine fails_guard ?_ ?_
  · rintro ⟨id, handle, same⟩
    cases same
  · apply fails_bind (not_tellsOfRepetition_of_clause (tableOf_fails a))
    intro l
    apply fails_bind (not_tellsOfRepetition_of_clause (tableOf_fails b))
    intro r
    apply fails_bind (not_tellsOfRepetition_of_clause (l.schema.checkAttributes_fails _ _))
    intro _
    apply fails_bind (not_tellsOfRepetition_of_clause (r.schema.checkAttributes_fails _ _))
    exact fun _ e failed => nomatch failed

theorem joinSchema_has {a b : Variable} {l r : Table} {name : String}
    (shown : l.schema.has name = true ∨ r.schema.has name = true) :
    (joinSchema a b l r).has name = true := by
  have named : name ∈ l.schema.names ∨ name ∈ r.schema.names →
      name ∈ (joinSchema a b l r).names := by
    rintro (mine | its)
    · exact Schema.mem_names_unify.2 ⟨l.schema, by simp, mine⟩
    · exact Schema.mem_names_unify.2 ⟨r.schema, by simp, its⟩
  simp only [Schema.has, Bool.or_eq_true, List.contains_iff_mem] at shown ⊢
  tauto

/-- Joined rows have identifiers, and attributes that the schema of the join knows. -/
theorem joinedTable_rows {a b : Variable} {l r : Table} (lefts : Store.Accepts l.schema l.rows)
    (rights : Store.Accepts r.schema r.rows) :
    ∀ row ∈ (joinedTable keys a b l r).rows, row.id ≠ "" ∧
      ∀ name, row.attributes.contains name = true → (joinSchema a b l r).has name = true := by
  intro row member
  obtain ⟨before, there, rfl⟩ := List.mem_map.1 member
  obtain ⟨x, first, y, second, attributes, id⟩ := Table.mem_joinRows there
  refine ⟨?_, fun name shown => ?_⟩
  · change before.id ≠ ""
    rcases id with id | id
    · exact id ▸ lefts.named x first
    · intro empty
      have chars := congrArg String.toList (id.symm.trans empty)
      simp at chars
  · rcases (Entity.contains_conformTo _ before name).1 shown with own | column
    · rw [attributes] at own
      refine joinSchema_has (((Entity.contains_absorb x y name).1 own).imp ?_ ?_)
      · exact lefts.known x first name
      · exact rights.known y second name
    · simp [Schema.has, column]

theorem ids_joinedTable {a b : Variable} {l r : Table} :
    (joinedTable keys a b l r).rows.map Entity.id =
      (Table.joinRows l r (joinKeys keys).1 (joinKeys keys).2).map Entity.id := by
  simp only [joinedTable, Table.ofSchema, Table.conformRows, List.map_map]
  rfl

end Scene

namespace Hunt

open Scene (Joins joinKeys joinedTable)

variable {h : Hunt} {now : Moment} {statement : PlacedStatement} {left right : String}
  {keys : Option (String × String)} {a b : Variable} {l r : Table}

/-- The table of a variable holds rows that its schema takes. -/
theorem accepts_of_tableOf (reachable : h.Reachable) {time : Instant} {v : Variable} {t : Table}
    (member : v ∈ h.vars.nodes) (read : (h.scene time statement).tableOf v = .ok t) :
    Store.Accepts t.schema t.rows := by
  obtain ⟨st, there, schema, rows⟩ := reachable.sound.stored_of_tableOf member read
  rw [← schema, ← rows]
  exact reachable.tidy st there

/-- A join that makes sense is carried out if no identifiers clash, and refused for a repeated one
if some do. -/
theorem run_of_joins (reachable : h.Reachable)
    (command : statement.statement.command = .join left right keys)
    (joins : (h.scene now.time statement).Joins left right keys a b l r) :
    (Table.Clash l r (joinKeys keys).1 (joinKeys keys).2 →
      ∃ id handle, (h.run now statement).2 = .error (.store (.repeatedId id handle))) ∧
    (¬Table.Clash l r (joinKeys keys).1 (joinKeys keys).2 →
      ∃ completion, (h.run now statement).2 = .ok completion) := by
  obtain ⟨product, planned, one⟩ := Scene.planJoin_of_joins joins
  rw [← Scene.plan_join command] at planned
  have lefts := accepts_of_tableOf reachable (Scene.mem_of_operand joins.first) joins.leftTable
  have rights := accepts_of_tableOf reachable (Scene.mem_of_operand joins.second) joins.rightTable
  have rows : ∀ row ∈ (joinedTable keys a b l r).rows, row.id ≠ "" ∧
      ∀ name, row.attributes.contains name = true → (Scene.joinSchema a b l r).has name = true :=
    Scene.joinedTable_rows lefts rights
  have distinct : ((joinedTable keys a b l r).rows.map Entity.id).Nodup ↔
      ¬Table.Clash l r (joinKeys keys).1 (joinKeys keys).2 := by
    rw [Scene.ids_joinedTable]
    exact Table.nodup_ids_joinRows lefts.distinct rights.distinct
  have accepted : Store.Accepts (Scene.joinSchema a b l r) (joinedTable keys a b l r).rows ↔
      ¬Table.Clash l r (joinKeys keys).1 (joinKeys keys).2 :=
    ⟨fun accepts => distinct.1 accepts.distinct, fun clear =>
      ⟨fun row member => (rows row member).1, distinct.2 clear,
        fun row member => (rows row member).2⟩⟩
  constructor
  · intro clash
    rw [run_of_ready planned]
    cases outcome : Store.batchTrouble? ⟨h.store.nextHandle, Scene.joinSchema a b l r, [], []⟩ []
        (joinedTable keys a b l r).rows with
    | none => exact absurd clash (accepted.1 (Store.accepts_iff.1 outcome))
    | some trouble =>
      obtain ⟨id, rfl⟩ := Store.repeatedId_of_trouble (fun row member => (rows row member).1)
        (fun row member => (rows row member).2) outcome
      exact ⟨id, _, commit_refused reachable.sound.fresh one outcome⟩
  · exact fun clear => completes_of_ready reachable planned one (accepted.2 clear)

/-- The rows of a join of tables with distinct identifiers have distinct identifiers unless combined
ones clash. The tables that a statement joins have distinct identifiers; without a clash the join is
carried out, and it is refused for a repeated identifier only because of a clash. -/
theorem run_join (reachable : h.Reachable)
    (command : statement.statement.command = .join left right keys) :
    (∀ (l r : Table) (leftAttr rightAttr : String), l.ids.Nodup → r.ids.Nodup →
      (((Table.joinRows l r leftAttr rightAttr).map Entity.id).Nodup ↔
        ¬Table.Clash l r leftAttr rightAttr)) ∧
    (∀ a b l r, (h.scene now.time statement).Joins left right keys a b l r →
      l.ids.Nodup ∧ r.ids.Nodup ∧ (¬Table.Clash l r (joinKeys keys).1 (joinKeys keys).2 →
        ∃ completion, (h.run now statement).2 = .ok completion)) ∧
    ((∃ id handle, (h.run now statement).2 = .error (.store (.repeatedId id handle))) ↔
      ∃ a b l r, (h.scene now.time statement).Joins left right keys a b l r ∧
        Table.Clash l r (joinKeys keys).1 (joinKeys keys).2) := by
  refine ⟨fun l r _ _ lefts rights => Table.nodup_ids_joinRows lefts rights, ?_, ?_, ?_⟩
  · intro a b l r joins
    have lefts := accepts_of_tableOf reachable (Scene.mem_of_operand joins.first) joins.leftTable
    have rights := accepts_of_tableOf reachable (Scene.mem_of_operand joins.second) joins.rightTable
    exact ⟨lefts.distinct, rights.distinct, (run_of_joins reachable command joins).2⟩
  · rintro ⟨id, handle, refused⟩
    cases planned : (h.scene now.time statement).plan with
    | error e =>
      simp only [Hunt.run, planned] at refused
      rw [Scene.plan_join command] at planned
      exact absurd ⟨id, handle, Except.error.inj refused⟩ (Scene.planJoin_fails e planned)
    | ok plan =>
      rw [Scene.plan_join command] at planned
      obtain ⟨a, b, l, r, joins⟩ := Scene.joins_of_planJoin planned
      refine ⟨a, b, l, r, joins, ?_⟩
      by_contra clear
      obtain ⟨completion, completed⟩ := (run_of_joins reachable command joins).2 clear
      rw [completed] at refused
      cases refused
  · rintro ⟨a, b, l, r, joins, clash⟩
    exact (run_of_joins reachable command joins).1 clash

def epoch : Moment := ⟨⟨0, 0⟩, 0⟩

/-- Binds processes that the statement writes down. -/
def newProcesses (name text : String) (records : List Json) : PlacedStatement :=
  ⟨name ++ " = NEW process " ++ text, 1, 1, some name, .create (some "process") records⟩

def joinByName (name left right : String) : PlacedStatement :=
  ⟨name ++ " = JOIN " ++ left ++ ", " ++ right ++ " BY name", 1, 1, some name,
    .join left right (some ("name", "name"))⟩

def newShell : PlacedStatement :=
  newProcesses "a" "[\x7b\"id\": \"p1\", \"name\": \"cmd\"\x7d]"
    [.obj [("id", .str "p1"), ("name", .str "cmd")]]

def newUsers : PlacedStatement :=
  newProcesses "b"
    ("[\x7b\"id\": \"q1\", \"name\": \"cmd\", \"user\": \"x\"\x7d, " ++
      "\x7b\"id\": \"q2\", \"name\": \"cmd\", \"user\": \"y\"\x7d]")
    [.obj [("id", .str "q1"), ("name", .str "cmd"), ("user", .str "x")],
      .obj [("id", .str "q2"), ("name", .str "cmd"), ("user", .str "y")]]

/-- A hunt with a process under `a`, and under `b` two processes of its name. -/
def recorded : Hunt :=
  (((start .standard Disk.empty).run epoch newShell).1.run epoch newUsers).1

theorem reachable_recorded : recorded.Reachable := .run (.run (.start _ _) _ _) _ _

/-- The hunt after processes are bound, if nothing becomes garbage. -/
def withProcesses (h : Hunt) (statement : PlacedStatement) (rows : List Entity) : Hunt :=
  let table := Table.ofRows "process" rows
  h.bound epoch.time statement ((h.scene epoch.time statement).single table [] [])
    ⟨(h.scene epoch.time statement).outputName, table, [], []⟩

theorem recorded_eq : recorded =
    ((start .standard Disk.empty).withProcesses newShell
        [⟨"p1", Dict.ofList [("name", .str "cmd")]⟩]).withProcesses newUsers
      [⟨"q1", Dict.ofList [("name", .str "cmd"), ("user", .str "x")]⟩,
        ⟨"q2", Dict.ofList [("name", .str "cmd"), ("user", .str "y")]⟩] := by
  have empty : Reachable (start .standard Disk.empty) := .start _ _
  have first := (run_of_current empty epoch newShell rfl rfl rfl (by decide +kernel)
    (by decide +kernel)).1
  have reached := empty.run epoch newShell
  rw [first] at reached
  have second := (run_of_current reached epoch newUsers rfl rfl rfl (by decide +kernel)
    (by decide +kernel)).1
  rw [recorded, first, second]
  rfl

/-- Identifiers without the sign between halves do not clash. -/
theorem run_join_plain :
    ∃ completion, (recorded.run epoch (joinByName "j" "a" "b")).2 = .ok completion := by
  have joins : ∃ a b l r, (recorded.scene epoch.time (joinByName "j" "a" "b")).Joins "a" "b"
      (some ("name", "name")) a b l r ∧ ∀ e ∈ l.rows, '+' ∉ e.id.toList := by
    rw [recorded_eq]
    exact ⟨_, _, _, _, ⟨rfl, rfl, by decide +kernel, rfl, rfl, rfl, rfl⟩, by decide +kernel⟩
  obtain ⟨a, b, l, r, joins, plain⟩ := joins
  exact ((run_join reachable_recorded rfl).2.1 a b l r joins).2.2 (Table.not_clash_of_plain plain)

/-- A join with a table that was joined before meets the combined identifiers of the first time. -/
theorem run_join_refused :
    let again := (recorded.run epoch (joinByName "j" "a" "b")).1
    again.Reachable ∧ (again.run epoch (joinByName "k" "j" "b")).2 =
      .error (.store (.repeatedId "p1+q2" ⟨4⟩)) := by
  have reached := reachable_recorded
  refine ⟨reached.run _ _, ?_⟩
  rw [recorded_eq] at reached ⊢
  have joined := (run_of_current reached epoch (joinByName "j" "a" "b") rfl rfl rfl
    (by decide +kernel) (by decide +kernel)).1
  rw [joined]
  rfl

end Hunt
end ThreatHunt
