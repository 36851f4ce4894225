import ThreatHunt.Proofs.Hunt.Fetched
import ThreatHunt.Proofs.Hunt.Projected
import ThreatHunt.Proofs.Pattern.Resolved

/-!
Two ways to filter a variable: as the only source of a fetch, and by a refinement. Both bind the same
table. A fetch puts up with attributes that no column has, and a refinement with a limit of zero;
apart from that both complete or neither does.
-/

namespace ThreatHunt

namespace Table

variable {t : Table} {limit : Option Nat}

/-- The first rows that match a pattern, up to a number. -/
def firstMatching (t : Table) (pattern : Option Pattern) (limit : Option Nat) : Table :=
  ⟨t.entityType, { t.schema with entityType := t.entityType },
    pageRows none limit (t.rows.filter (Pattern.admits? pattern))⟩

theorem accepts_firstMatching (accepts : Store.Accepts t.schema t.rows) (pattern : Option Pattern)
    (limit : Option Nat) :
    Store.Accepts (t.firstMatching pattern limit).schema (t.firstMatching pattern limit).rows := by
  have first : (t.firstMatching pattern limit).rows.Sublist t.rows := by
    have matching : (t.rows.filter (Pattern.admits? pattern)).Sublist t.rows := List.filter_sublist
    cases limit with
    | none => exact matching
    | some n => exact (List.take_sublist n _).trans matching
  exact ⟨fun row member => accepts.named row (first.subset member),
    accepts.distinct.sublist (first.map Entity.id),
    fun row member => accepts.known row (first.subset member)⟩

/-- A refinement with a pattern and a limit checks the pattern and leaves the first rows that match
it. -/
theorem refine_firstMatching {standard : SortOrder} {q : Pattern} {refined : Table} :
    refine standard t ⟨some q, none, none, limit, none⟩ = .ok refined ↔
      q.checkKinds t.schema = .ok () ∧
      t.schema.checkAttributes (q.comparisons.map Comparison.attr) "WHERE" = .ok () ∧
      q.check = .ok () ∧ t.firstMatching (some q) limit = refined := by
  simp only [refine, filterRows, orderRows, keepAttributes, Outcome.bind_eq_ok, Outcome.pure_eq_ok]
  constructor
  · rintro ⟨rows, ⟨_, kinds, _, known, _, checked, rfl⟩, sorted, same, kept, whole, rfl⟩
    obtain rfl := Except.ok.inj same
    obtain rfl := Except.ok.inj whole
    exact ⟨kinds, known, checked, rfl⟩
  · rintro ⟨kinds, known, checked, rfl⟩
    exact ⟨_, ⟨(), kinds, (), known, (), checked, rfl⟩, _, rfl, _, rfl, rfl⟩

end Table

namespace Scene

open Outcome

variable {s : Scene} {name : String} {v : Variable} {t : Table} {p : Pattern} {limit : Option Nat}
  {plan : Plan}

/-- Whether a pattern over a variable becomes another one that can be held against its rows. -/
structure Filters (s : Scene) (v : Variable) (t : Table) (p q : Pattern) : Prop where
  ready : s.preparePattern v.entityType (some p) = .ok (some q)
  kinds : q.checkKinds t.schema = .ok ()
  checked : q.check = .ok ()

theorem sourcesOf_variable (held : s.vars.find? name = some v)
    (plain : s.connectors.find? name = none) :
    s.sourcesOf v.entityType [.named name] = .ok ⟨[], [v], []⟩ := by
  have added : s.addSource v.entityType ⟨[], [], []⟩ (.named name) = .ok ⟨[], [v], []⟩ := by
    simp only [addSource, plain, held, if_true, List.nil_append]
  simp only [sourcesOf, List.foldlM_cons, List.foldlM_nil, added]
  rfl

theorem attr_of_resolveComparison {c d : Comparison} (made : s.resolveComparison c = .ok d) :
    d.attr = c.attr := by
  cases resolveComparison_eq_ok.1 made <;> rfl

theorem attrs_of_resolvePattern {q : Pattern} (resolved : s.resolvePattern p = .ok q) :
    q.comparisons.map Comparison.attr = p.comparisons.map Comparison.attr := by
  have each := p.comparisons_mapM resolved
  generalize p.comparisons = written at each
  generalize q.comparisons = made at each
  induction each with
  | nil => rfl
  | cons here _ ih => rw [List.map_cons, List.map_cons, attr_of_resolveComparison here, ih]

/-- The pattern that a written one becomes has comparisons of the same attributes. -/
theorem attrs_of_preparePattern {entityType : String} {prepared : Option Pattern}
    (ready : s.preparePattern entityType (some p) = .ok prepared) :
    ∃ q, prepared = some q ∧
      q.comparisons.map Comparison.attr = p.comparisons.map Comparison.attr := by
  obtain ⟨_, _, q, resolved, rfl⟩ := preparePattern_eq_ok.1 ready
  exact ⟨q, rfl, attrs_of_resolvePattern resolved⟩

theorem checkLimit_eq_ok : checkLimit limit = .ok () ↔ limit ≠ some 0 := by
  unfold checkLimit
  split <;> simp_all

theorem variablePart_of_read {q : Pattern} {part : Table} (read : s.tableOf v = .ok t) :
    s.variablePart (some q) none v = .ok part ↔
      q.checkKinds t.schema = .ok () ∧
        Table.ofSchema t.schema (t.rows.filter (Pattern.admits? (some q))) = part := by
  have rows : Table.matching s.config.timeAttributes (some q) none t.rows =
      t.rows.filter (Pattern.admits? (some q)) :=
    List.filter_congr (fun row _ => Bool.and_true _)
  rw [variablePart_eq_ok]
  constructor
  · rintro ⟨_, same, _, kinds, made⟩
    obtain rfl := Except.ok.inj (read.symm.trans same)
    exact ⟨kinds, rows ▸ made⟩
  · rintro ⟨kinds, made⟩
    exact ⟨t, read, (), kinds, rows ▸ made⟩

/-- A fetch of one part from a variable binds the first of its rows. -/
theorem fetchProduct_variable {lineage : List Nat} {pattern : Option Pattern}
    (read : s.tableOf v = .ok t) :
    s.fetchProduct v.entityType limit ⟨[], [v], []⟩ lineage
        [Table.ofSchema t.schema (t.rows.filter (Pattern.admits? pattern))] none =
      s.single (t.firstMatching pattern limit) lineage [v.name] := by
  obtain ⟨st, _, rfl⟩ := tableOf_eq_ok.1 read
  cases limit <;> rfl

/-- A fetch from a variable checks its limit and its pattern and leaves the first rows that match. -/
theorem plan_get_variable (held : s.vars.find? name = some v)
    (plain : s.connectors.find? name = none) (read : s.tableOf v = .ok t)
    (gets : s.statement.statement.command = .get v.entityType [.named name] (some p) none limit) :
    s.plan = .ok plan ↔ limit ≠ some 0 ∧ ∃ q, s.Filters v t p q ∧
      .ready (s.single (t.firstMatching (some q) limit) (addNodes (s.referencedNodes p) [v.id])
        [v.name]) = plan := by
  have source := sourcesOf_variable held plain
  rw [plan_get gets]
  constructor
  · intro planned
    obtain ⟨_, prepared, _, parts, limited, found, ready, checked, span, parted, form⟩ :=
      planGet_eq_ok planned
    obtain rfl := Except.ok.inj (source.symm.trans found)
    obtain rfl := Except.ok.inj span
    obtain ⟨q, rfl, _⟩ := attrs_of_preparePattern ready
    obtain ⟨part, rest, made, none, rfl⟩ := List.forall₂_cons_left_iff.1 parted
    obtain rfl := List.forall₂_nil_left_iff.1 none
    obtain ⟨kinds, rfl⟩ := (variablePart_of_read read).1 made
    rcases form with ⟨_, _, rfl⟩ | ⟨asks, _⟩
    · rw [fetchProduct_variable read]
      exact ⟨checkLimit_eq_ok.1 limited, q, ⟨ready, kinds, checked⟩, rfl⟩
    · exact absurd rfl asks
  · rintro ⟨limited, q, filters, rfl⟩
    have parted : [v].mapM (s.variablePart (some q) none) = .ok
        [Table.ofSchema t.schema (t.rows.filter (Pattern.admits? (some q)))] :=
      mapM_eq_ok.2 (.cons ((variablePart_of_read read).2 ⟨filters.kinds, rfl⟩) .nil)
    simp only [planGet, bind_eq_ok]
    refine ⟨(), checkLimit_eq_ok.2 limited, _, source, _, filters.ready, (), filters.checked, none,
      rfl, _, parted, ?_⟩
    rw [fetchProduct_variable read]
    rfl

/-- A refinement by a pattern and a limit checks that the attributes of the pattern are there, and
the pattern, and leaves the same rows. -/
theorem plan_refine_variable (held : s.vars.find? name = some v) (read : s.tableOf v = .ok t)
    (narrows : s.statement.statement.command = .refine name ⟨some p, none, none, limit, none⟩) :
    s.plan = .ok plan ↔
      t.schema.checkAttributes (p.comparisons.map Comparison.attr) "WHERE" = .ok () ∧
      ∃ q, s.Filters v t p q ∧
        .ready (s.single (t.firstMatching (some q) limit) (addNodes [v.id] (s.referencedNodes p))
          []) = plan := by
  have resolved : s.operand (some name) = .ok v := Variables.resolve_eq_ok.2 held
  have refines : s.plan = s.planRefine name ⟨some p, none, none, limit, none⟩ := by
    unfold Scene.plan
    rw [narrows]
  rw [refines, planRefine_eq_ok]
  constructor
  · rintro ⟨_, found, _, taken, prepared, ready, refined, narrowed, rfl⟩
    obtain rfl := Except.ok.inj (resolved.symm.trans found)
    obtain rfl := Except.ok.inj (read.symm.trans taken)
    obtain ⟨pattern, made, rfl⟩ := prepareRefinement_eq_ok.1 ready
    obtain ⟨q, rfl, attrs⟩ := attrs_of_preparePattern made
    obtain ⟨kinds, known, checked, rfl⟩ := Table.refine_firstMatching.1 narrowed
    exact ⟨attrs ▸ known, q, ⟨made, kinds, checked⟩, rfl⟩
  · rintro ⟨known, q, filters, rfl⟩
    obtain ⟨_, same, attrs⟩ := attrs_of_preparePattern filters.ready
    obtain rfl := Option.some.inj same
    exact ⟨v, resolved, t, read, _, prepareRefinement_eq_ok.2 ⟨_, filters.ready, rfl⟩, _,
      Table.refine_firstMatching.2 ⟨filters.kinds, attrs ▸ known, filters.checked, rfl⟩, rfl⟩

end Scene

namespace Hunt

variable {h : Hunt} {now : Moment} {name : String} {v : Variable} {t : Table} {p : Pattern}
  {limit : Option Nat} {statement getting narrowing : PlacedStatement}

/-- A statement that is planned to leave the first matching rows of a table completes if its own
checks are passed and the pattern can be held against rows, and has bound those rows then. -/
theorem run_of_filters (reachable : h.Reachable) (accepts : Store.Accepts t.schema t.rows)
    {passed : Prop} {lineage : List Nat} {sources : List String}
    (planned : ∀ plan, (h.scene now.time statement).plan = .ok plan ↔
      passed ∧ ∃ q, (h.scene now.time statement).Filters v t p q ∧
        .ready ((h.scene now.time statement).single (t.firstMatching (some q) limit) lineage
          sources) = plan) :
    ((∃ completion, (h.run now statement).2 = .ok completion) ↔
        passed ∧ ∃ q, (h.scene now.time statement).Filters v t p q) ∧
      ∀ q, passed → (h.scene now.time statement).Filters v t p q →
        (h.run now statement).1.table (h.scene now.time statement).outputName =
          .ok (Table.ofSchema (t.firstMatching (some q) limit).schema (Table.conformRows
            (t.firstMatching (some q) limit).schema (t.firstMatching (some q) limit).rows)) := by
  have taken := fun q => Table.accepts_firstMatching accepts (some q) limit
  refine ⟨⟨?_, ?_⟩, fun q passes filters => ?_⟩
  · rintro ⟨completion, completed⟩
    obtain ⟨plan, _, found, _⟩ := table_of_completed reachable completed
    obtain ⟨passes, q, filters, _⟩ := (planned plan).1 found
    exact ⟨passes, q, filters⟩
  · rintro ⟨passes, q, filters⟩
    exact completes_of_ready reachable ((planned _).2 ⟨passes, q, filters, rfl⟩) rfl (taken q)
  · exact table_of_ready reachable ((planned _).2 ⟨passes, q, filters, rfl⟩) rfl (taken q)

/-- A fetch from a variable completes just if the refinement of the variable by its pattern and limit
does, unless the limit is zero or the pattern is about an attribute that the variable does not have.
Where both complete, they bind one and the same table. -/
theorem run_filters_agree (reachable : h.Reachable) (now later : Moment)
    (held : h.vars.find? name = some v) (plain : h.connectors.find? name = none)
    (gets : getting.statement.command = .get v.entityType [.named name] (some p) none limit)
    (narrows : narrowing.statement.command = .refine name ⟨some p, none, none, limit, none⟩) :
    (((∃ got, (h.run now getting).2 = .ok got) ∧
        v.schema.checkAttributes (p.comparisons.map Comparison.attr) "WHERE" = .ok ()) ↔
      limit ≠ some 0 ∧ ∃ narrowed, (h.run later narrowing).2 = .ok narrowed) ∧
    ∀ got narrowed, (h.run now getting).2 = .ok got → (h.run later narrowing).2 = .ok narrowed →
      ∃ t, (h.run now getting).1.table (h.scene now.time getting).outputName = .ok t ∧
        (h.run later narrowing).1.table (h.scene later.time narrowing).outputName = .ok t := by
  obtain ⟨st, there, -⟩ := reachable.sound.stored (Variables.mem_of_find? held)
  have read : ∀ time statement,
      (h.scene time statement).tableOf v = .ok ⟨v.entityType, v.schema, st.rows⟩ :=
    fun time statement => Scene.tableOf_eq_ok.2 ⟨st, there, rfl⟩
  have accepts := accepts_of_tableOf reachable (Variables.mem_of_find? held) (read now.time getting)
  obtain ⟨gotten, got⟩ := run_of_filters reachable accepts (fun plan =>
    Scene.plan_get_variable (s := h.scene now.time getting) held plain (read _ _) gets)
  obtain ⟨refined, narrowed⟩ := run_of_filters reachable accepts (fun plan =>
    Scene.plan_refine_variable (s := h.scene later.time narrowing) held (read _ _) narrows)
  -- A pattern is made ready from variables and tables alone.
  have alike : ∀ q, (h.scene now.time getting).Filters v ⟨v.entityType, v.schema, st.rows⟩ p q ↔
      (h.scene later.time narrowing).Filters v ⟨v.entityType, v.schema, st.rows⟩ p q :=
    fun q => ⟨fun f => ⟨f.ready, f.kinds, f.checked⟩, fun f => ⟨f.ready, f.kinds, f.checked⟩⟩
  constructor
  · rw [gotten, refined, exists_congr alike]
    tauto
  · intro first second gets narrows
    obtain ⟨limited, q, filters⟩ := gotten.1 ⟨first, gets⟩
    obtain ⟨known, _⟩ := refined.1 ⟨second, narrows⟩
    exact ⟨_, got q limited filters, narrowed q known ((alike q).1 filters)⟩

/-- Fetches the first process of `a` with the name. -/
def getShell : PlacedStatement :=
  ⟨"g = GET process FROM a WHERE name = 'cmd' LIMIT 1", 1, 1, some "g",
    .get "process" [.named "a"] (some nameIsCmd) none (some 1)⟩

/-- Leaves the first process of `a` with the name. -/
def narrowShells : PlacedStatement :=
  ⟨"r = a WHERE name = 'cmd' LIMIT 1", 1, 1, some "r",
    .refine "a" ⟨some nameIsCmd, none, none, some 1, none⟩⟩

theorem run_filters_agree_shells :
    ∃ t, (shells.run epoch getShell).1.table "g" = .ok t ∧
      (shells.run epoch narrowShells).1.table "r" = .ok t ∧ t.ids = ["p1"] := by
  have reached := reachable_shells
  rw [shells_eq] at reached ⊢
  obtain ⟨after, narrowed, completed⟩ := run_of_current reached epoch narrowShells rfl rfl rfl
    (by decide +kernel) (by decide +kernel)
  obtain ⟨both, same⟩ := @run_filters_agree _ "a" _ _ _ getShell narrowShells reached epoch epoch
    rfl rfl rfl rfl
  obtain ⟨⟨got, gets⟩, known⟩ := both.2 ⟨by decide, narrowed, completed⟩
  obtain ⟨t, first, second⟩ := same got narrowed gets completed
  refine ⟨t, first, second, ?_⟩
  rw [after] at second
  rw [← Except.ok.inj second]
  rfl

end Hunt
end ThreatHunt
