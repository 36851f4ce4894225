import ThreatHunt.Proofs.Hunt.Around
import ThreatHunt.Proofs.Hunt.Requests

/-!
Refused relations. A search is refused if nothing knows its relation, or if only rules know it and
none of them connects the types. Since rules connect just the types between which they can show an
edge, no search is refused between tables for which they show one.
-/

namespace ThreatHunt

open Outcome

/-- Whether an error refuses a relation: nothing knows it, or it does not connect two types. -/
inductive HuntError.RefusesRelation : HuntError → Prop where
  | unknown (relation : String) : RefusesRelation (.senseless (.unknownRelation relation))
  | unrelated (relation source target : String) :
    RefusesRelation (.typeMismatch (.unrelated relation source target))

namespace HuntError

variable {e : HuntError}

theorem RefusesRelation.isEarly (refuses : e.RefusesRelation) : e.IsEarly := by
  cases refuses <;> exact .inl rfl

theorem OfClause.not_refusesRelation (told : e.OfClause) : ¬e.RefusesRelation := by
  cases told <;> exact fun refuses => nomatch refuses

end HuntError

theorem Pattern.check?_fails (p : Option Pattern) :
    ∀ e, check? p = .error e → ¬e.RefusesRelation := by
  intro e failed refuses
  cases p with
  | none => nomatch failed
  | some p =>
    simp only [check?, check] at failed
    split at failed
    · rename_i error found
      obtain ⟨c, _, fault⟩ := List.exists_of_findSome?_eq_some found
      obtain rfl := Except.error.inj failed
      rcases fault?_eq_some fault with ⟨_, _, rfl⟩ | ⟨_, rfl⟩ | ⟨_, _, _, rfl⟩ <;> nomatch refuses
    · nomatch failed

namespace Scene

variable {s : Scene} {relation source target : String}

theorem checkRelation_of_connects (accepted : Relation.connects relation source target = true) :
    s.checkRelation relation = .ok () := by
  simp [checkRelation, Relation.isBuiltin_of_connects accepted]

theorem checkConnects_of_connects (accepted : Relation.connects relation source target = true) :
    s.checkConnects relation source target = .ok () := by
  simp [checkConnects, accepted]

theorem not_refusesRelation_of_clause {α : Type} {x : Except HuntError α}
    (fails : ∀ e, x = .error e → e.OfClause) : ∀ e, x = .error e → ¬e.RefusesRelation :=
  fun e failed => (fails e failed).not_refusesRelation

/-- A search between variables whose types are connected is not refused for its relation. -/
theorem planBetween_fails {first second : String} {span : Option TimeSpan}
    (accepted : ∀ a b, s.operand (some first) = .ok a → s.operand (some second) = .ok b →
      Relation.connects relation a.entityType b.entityType = true) :
    ∀ e, s.planBetween relation first second span = .error e → ¬e.RefusesRelation := by
  unfold planBetween
  apply fails_bind_of (not_refusesRelation_of_clause (operand_fails _))
  intro a named
  apply fails_bind_of (not_refusesRelation_of_clause (operand_fails _))
  intro b other
  rw [checkRelation_of_connects (accepted a b named other),
    checkConnects_of_connects (accepted a b named other)]
  apply fails_bind (not_refusesRelation_of_clause (window_fails span))
  intro window
  apply fails_bind (not_refusesRelation_of_clause (tableOf_fails a))
  intro source
  apply fails_bind (not_refusesRelation_of_clause (tableOf_fails b))
  intro target e failed
  dsimp only at failed
  split at failed <;> nomatch failed

/-- A search around a variable is not refused for its relation if the types are connected in the
direction of the search. -/
theorem planRelated_fails {entityType input : String} {reversed : Bool} {pattern : Option Pattern}
    {span : Option TimeSpan} {limit : Option Nat}
    (accepted : ∀ center, s.operand (some input) = .ok center →
      (if reversed then Relation.connects relation center.entityType entityType
        else Relation.connects relation entityType center.entityType) = true) :
    ∀ e, s.planRelated entityType relation reversed input pattern span limit = .error e →
      ¬e.RefusesRelation := by
  rw [planRelated_eq]
  apply fails_bind (not_refusesRelation_of_clause (checkLimit_fails limit))
  intro _
  apply fails_bind_of (not_refusesRelation_of_clause (operand_fails _))
  intro center named
  have passes : s.checkRelation relation = .ok () ∧
      s.checkDirection relation reversed entityType center.entityType = .ok () := by
    have accepts := accepted center named
    cases reversed with
    | true => exact ⟨checkRelation_of_connects accepts, checkConnects_of_connects accepts⟩
    | false => exact ⟨checkRelation_of_connects accepts, checkConnects_of_connects accepts⟩
  rw [passes.1, passes.2]
  apply fails_bind (not_refusesRelation_of_clause (preparePattern_fails entityType pattern))
  intro prepared
  apply fails_bind (Pattern.check?_fails prepared)
  intro _
  apply fails_bind (not_refusesRelation_of_clause (window_fails span))
  intro window
  apply fails_bind (fails_mapM (fun v _ => not_refusesRelation_of_clause (tableOf_fails v)))
  intro tables
  apply fails_bind (not_refusesRelation_of_clause (checkKinds?_fails _ prepared))
  intro _
  apply fails_bind (not_refusesRelation_of_clause (tableOf_fails center))
  exact fun _ _ failed => nomatch failed

end Scene

namespace Hunt

open ThreatHunt.Relation (linked)

variable {h : Hunt} {now : Moment} {statement : PlacedStatement}

/-- Searches between tables for which the rules show an edge, in the direction of the search. The
pool of a search around a variable may be made of any tables, so also of those that are bound. -/
inductive RulesFind (h : Hunt) : Command → Prop where
  | between {relation first second : String} {span : Option TimeSpan} {source target : Table}
      (left : h.table first = .ok source) (right : h.table second = .ok target)
      (found : Relation.edges relation source target ≠ []) :
    RulesFind h (.findBetween relation first second span)
  | towards {entityType relation input : String} {pattern : Option Pattern}
      {span : Option TimeSpan} {limit : Option Nat} {tables : List Table} {around : Table}
      (center : h.table input = .ok around)
      (found : Relation.edges relation (Scene.pool entityType tables) around ≠ []) :
    RulesFind h (.findRelated entityType relation false input pattern span limit)
  | away {entityType relation input : String} {pattern : Option Pattern}
      {span : Option TimeSpan} {limit : Option Nat} {tables : List Table} {around : Table}
      (center : h.table input = .ok around)
      (found : Relation.edges relation around (Scene.pool entityType tables) ≠ []) :
    RulesFind h (.findRelated entityType relation true input pattern span limit)

/-- A table has the type of the variable that it is stored under. -/
theorem entityType_of_operand {time : Instant} {name : String} {v : Variable} {t : Table}
    (found : (h.scene time statement).operand (some name) = .ok v) (read : h.table name = .ok t) :
    t.entityType = v.entityType := by
  have resolved : h.vars.resolve name = .ok v := found
  simp only [table, resolved, bind, Except.bind] at read
  split at read
  · exact Except.ok.inj read ▸ rfl
  · cases read

/-- Planning does not refuse a search for its relation if the rules show an edge. -/
theorem plan_of_rulesFind {time : Instant} (finds : h.RulesFind statement.statement.command) :
    ∀ e, (h.scene time statement).plan = .error e → ¬e.RefusesRelation := by
  have connected : ∀ {relation : String} {source target : Table},
      Relation.edges relation source target ≠ [] →
        Relation.connects relation source.entityType target.entityType = true :=
    fun found => Relation.connects_iff.2 ⟨_, _, rfl, rfl, found⟩
  generalize command : statement.statement.command = searched at finds
  cases finds with
  | between left right found =>
    rw [Scene.plan_findBetween command]
    apply Scene.planBetween_fails
    intro a b named other
    rw [← entityType_of_operand named left, ← entityType_of_operand other right]
    exact connected found
  | towards center found =>
    rw [Scene.plan_findRelated command]
    apply Scene.planRelated_fails
    intro v named
    have accepts := connected found
    rw [Scene.entityType_pool, entityType_of_operand named center] at accepts
    rwa [if_neg Bool.false_ne_true]
  | away center found =>
    rw [Scene.plan_findRelated command]
    apply Scene.planRelated_fails
    intro v named
    have accepts := connected found
    rw [Scene.entityType_pool, entityType_of_operand named center] at accepts
    rwa [if_pos rfl]

/-- The check of types agrees with the rules. It accepts a relation between two types just if the
rules derive an edge between some tables of these types, so wherever they derive one; an edge of a
relation other than `linked` runs from a row of the first table to one of the second, of which one
refers to the other. So no search is refused for its relation whose tables the rules relate. -/
theorem run_find_connects (h : Hunt) (now : Moment) (statement : PlacedStatement) :
    (∀ relation first second : String, Relation.connects relation first second = true ↔
      ∃ source target : Table, source.entityType = first ∧ target.entityType = second ∧
        Relation.edges relation source target ≠ []) ∧
    (∀ (relation : String) (source target : Table), ∀ e ∈ Relation.edges relation source target,
      Relation.connects relation source.entityType target.entityType = true ∧
      (relation ≠ linked → e.source ∈ source.ids ∧ e.target ∈ target.ids ∧
        ∃ r ∈ Relation.rules, r.relation = relation ∧ r.Shows source.rows target.rows e)) ∧
    (h.RulesFind statement.statement.command →
      ∀ e, (h.run now statement).2 = .error e → ¬e.RefusesRelation) := by
  refine ⟨fun relation first second => Relation.connects_iff, ?_, ?_⟩
  · intro relation source target e member
    refine ⟨Relation.connects_of_mem_edges member, fun other => ?_⟩
    obtain ⟨r, rule, named, _, shows⟩ := (Relation.mem_edges_of_ne other).1 member
    exact ⟨shows.ends.1, shows.ends.2, r, rule, named, shows⟩
  · intro finds e failed refuses
    obtain ⟨planned, _⟩ := run_of_early failed refuses.isEarly
    exact plan_of_rulesFind finds e planned refuses

/-- Binds a process with a reference to the one that started it. -/
def newChild : PlacedStatement :=
  newProcesses "b" "[\x7b\"id\": \"p2\", \"parent_ref\": \"p1\"\x7d]"
    [.obj [("id", .str "p2"), ("parent_ref", .str "p1")]]

/-- A hunt with a process under `a`, and under `b` one that it started. -/
def spawned : Hunt := (((start .standard Disk.empty).run epoch newShell).1.run epoch newChild).1

theorem spawned_eq : spawned =
    ((start .standard Disk.empty).withProcesses newShell
        [⟨"p1", Dict.ofList [("name", .str "cmd")]⟩]).withProcesses newChild
      [⟨"p2", Dict.ofList [("parent_ref", .str "p1")]⟩] := by
  have empty : Reachable (start .standard Disk.empty) := .start _ _
  have first := (run_of_current empty epoch newShell rfl rfl rfl (by decide +kernel)
    (by decide +kernel)).1
  have reached := empty.run epoch newShell
  rw [first] at reached
  have second := (run_of_current reached epoch newChild rfl rfl rfl (by decide +kernel)
    (by decide +kernel)).1
  rw [spawned, first, second]
  rfl

def findProcesses (relation : String) : PlacedStatement :=
  ⟨"r = FIND " ++ relation ++ " BETWEEN a AND b", 1, 1, some "r",
    .findBetween relation "a" "b" none⟩

/-- The search for what created what is not refused; that for what was loaded is, for no rule loads
a process. -/
theorem run_find_connects_created :
    (∃ source target, spawned.table "a" = .ok source ∧ spawned.table "b" = .ok target ∧
      ⟨"created", "p1", "p2", none⟩ ∈ Relation.edges "created" source target ∧
      Relation.connects "created" source.entityType target.entityType = true) ∧
    (∀ e, (spawned.run epoch (findProcesses "created")).2 = .error e → ¬e.RefusesRelation) ∧
    (spawned.run epoch (findProcesses "loaded")).2 =
      .error (.typeMismatch (.unrelated "loaded" "process" "process")) := by
  have tables : ∃ source target, spawned.table "a" = .ok source ∧
      spawned.table "b" = .ok target ∧
      ⟨"created", "p1", "p2", none⟩ ∈ Relation.edges "created" source target := by
    rw [spawned_eq]
    exact ⟨_, _, rfl, rfl, by decide +kernel⟩
  obtain ⟨source, target, left, right, member⟩ := tables
  obtain ⟨_, rules, accepts⟩ := run_find_connects spawned epoch (findProcesses "created")
  refine ⟨⟨source, target, left, right, member, (rules _ _ _ _ member).1⟩, accepts ?_, ?_⟩
  · exact .between left right (List.ne_nil_of_mem member)
  · rw [spawned_eq]
    rfl

end Hunt
end ThreatHunt
