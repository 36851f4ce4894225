import ThreatHunt.Proofs.Hunt.Planned

/-!
Derivation. Whatever a request answers, the tables of a plan are derived only from nodes that are
there when the statement is planned.
-/

namespace ThreatHunt

open Variables (Known)

/-- Whether the tables of a product are derived from nodes that are there. -/
def Product.DerivedIn (vs : Variables) (p : Product) : Prop :=
  ∀ t ∈ p.tables, ∀ id ∈ t.lineage, Known vs.nodes id

/-- Whether any answer leads to a product that is derived from nodes that are there. -/
def Plan.DerivedIn (vs : Variables) : Plan → Prop
  | .ready product => product.DerivedIn vs
  | .fetch _ _ finish => ∀ fetched, (finish fetched).DerivedIn vs
  | .relate _ _ finish => ∀ related, (finish related).DerivedIn vs
  | .invoke _ _ finish => ∀ made, (finish made).DerivedIn vs
  | .save _ _ finish => ∀ rows, (finish rows).DerivedIn vs

/-- Whether any answer leads to a product of a kind. -/
def Plan.Makes (Good : Product → Prop) : Plan → Prop
  | .ready product => Good product
  | .fetch _ _ finish => ∀ fetched, Good (finish fetched)
  | .relate _ _ finish => ∀ related, Good (finish related)
  | .invoke _ _ finish => ∀ made, Good (finish made)
  | .save _ _ finish => ∀ rows, Good (finish rows)

theorem Plan.DerivedIn.makes {vs : Variables} {plan : Plan} (derived : plan.DerivedIn vs) :
    plan.Makes (Product.DerivedIn vs) := by
  cases plan <;> exact derived

namespace Scene

open Variables (known_of_mem)

variable {s : Scene} {plan : Plan}

theorem mem_of_operand {name : Option String} {v : Variable} (found : s.operand name = .ok v) :
    v ∈ s.vars.nodes :=
  Variables.mem_of_find? (Variables.resolve_eq_ok.1 found)

theorem mem_addNodes {lineage more : List Nat} {id : Nat} :
    id ∈ addNodes lineage more ↔ id ∈ lineage ∨ id ∈ more := by
  rw [addNodes, Schema.mem_distinct, List.mem_append]

theorem mem_relatedLineage {referenced candidates : List Nat} {center id : Nat} :
    id ∈ relatedLineage referenced candidates center ↔
      id = center ∨ id ∈ referenced ∨ id ∈ candidates := by
  unfold relatedLineage
  by_cases there : center ∈ addNodes referenced candidates
  · rw [if_pos (List.contains_iff_mem.2 there), mem_addNodes]
    constructor
    · exact .inr
    · rintro (same | either)
      · exact same ▸ mem_addNodes.1 there
      · exact either
  · rw [if_neg (fun contained => there (List.contains_iff_mem.1 contained)), List.mem_cons,
      mem_addNodes]

theorem known_of_referenced {pattern : Option Pattern} {id : Nat}
    (member : id ∈ s.referencedNodes? pattern) : Known s.vars.nodes id := by
  cases pattern with
  | none => exact absurd member List.not_mem_nil
  | some p =>
    obtain ⟨reference, _, found⟩ := List.mem_filterMap.1 (Schema.mem_distinct.1 member)
    obtain ⟨v, bound, rfl⟩ := Option.map_eq_some_iff.1 found
    exact known_of_mem (Variables.mem_of_find? bound)

theorem known_of_ids {vs : List Variable} (all : ∀ v ∈ vs, v ∈ s.vars.nodes) {id : Nat}
    (member : id ∈ vs.map Variable.id) : Known s.vars.nodes id := by
  obtain ⟨v, there, rfl⟩ := List.mem_map.1 member
  exact known_of_mem (all v there)

theorem single_derived {t : Table} {lineage : List Nat} {sources : List String}
    (known : ∀ id ∈ lineage, Known s.vars.nodes id) :
    (s.single t lineage sources).DerivedIn s.vars := by
  intro made member
  rw [List.mem_singleton.1 member]
  exact known

theorem planEdges_derived {relation : String} {source target : Table} {window : Option Window}
    {finish : List Edge → Product} (derived : ∀ edges, (finish edges).DerivedIn s.vars) :
    (s.planEdges relation source target window finish).DerivedIn s.vars := by
  unfold planEdges
  dsimp only
  split
  · exact derived _
  · exact fun _ => derived _

theorem mem_of_sourcesOf {entityType : String} {named : List Source} {sources : Sources}
    (found : s.sourcesOf entityType named = .ok sources) :
    ∀ v ∈ sources.vars, v ∈ s.vars.nodes := by
  have start : ∀ v ∈ ([] : List Variable), v ∈ s.vars.nodes :=
    fun _ member => absurd member List.not_mem_nil
  rcases sourcesOf_eq_ok found with ⟨_, rfl⟩ | ⟨_, folded, _⟩
  · exact start
  · refine Outcome.keeps_of_foldlM (fun found => ∀ v ∈ found.vars, v ∈ s.vars.nodes)
      (fun before source after known added => ?_) start folded
    cases adds_of_addSource added with
    | connector | registered | bundle => exact known
    | held _ bound =>
      intro w member
      rcases List.mem_append.1 member with old | new
      · exact known w old
      · exact List.mem_singleton.1 new ▸ Variables.mem_of_find? bound

theorem fetchProduct_derived {entityType : String} {limit : Option Nat} {sources : Sources}
    {lineage : List Nat} {parts : List Table} {fetched : Option Fetched}
    (known : ∀ id ∈ lineage, Known s.vars.nodes id) :
    (s.fetchProduct entityType limit sources lineage parts fetched).DerivedIn s.vars := by
  intro made member
  rw [List.mem_singleton.1 member]
  exact known

theorem moduleProduct_derived {module : String} {inputs : List String} {lineage : List Nat}
    (known : ∀ id ∈ lineage, Known s.vars.nodes id) (made : List (OutputSpec × Table) × Nat) :
    (s.moduleProduct module inputs lineage made).DerivedIn s.vars := by
  intro t member
  obtain ⟨output, _, rfl⟩ := List.mem_map.1 member
  exact known

theorem mem_of_mergeOperands {first : String} {inputs : List String} {head : Option Table}
    {operands : List (Variable × Table)}
    (read : s.mergeOperands first head inputs = .ok operands) :
    ∀ o ∈ operands, o.1 ∈ s.vars.nodes := by
  induction inputs generalizing head operands with
  | nil =>
    rw [← Except.ok.inj read]
    exact fun _ member => absurd member List.not_mem_nil
  | cons name rest ih =>
    obtain ⟨v, found, _, t, _, others, later, rfl⟩ := mergeOperands_cons_eq_ok.1 read
    intro o member
    rcases List.mem_cons.1 member with rfl | other
    · exact mem_of_operand found
    · exact ih later o other

theorem mem_of_moduleOperands {inputs : List String}
    {operands : List (Variable × String × Table)} (read : s.moduleOperands inputs = .ok operands) :
    ∀ o ∈ operands, o.1 ∈ s.vars.nodes := by
  intro o member
  obtain ⟨name, _, v, found, t, _, rfl⟩ :=
    Outcome.exists_of_forall₂ (moduleOperands_eq_ok.1 read) member
  exact mem_of_operand found

theorem known_of_operands {β : Type} {operands : List (Variable × β)}
    (all : ∀ o ∈ operands, o.1 ∈ s.vars.nodes) {id : Nat}
    (member : id ∈ addNodes [] (operands.map (fun o => o.1.id))) : Known s.vars.nodes id := by
  rcases mem_addNodes.1 member with absurdly | mapped
  · exact absurd absurdly List.not_mem_nil
  · obtain ⟨o, there, rfl⟩ := List.mem_map.1 mapped
    exact known_of_mem (all o there)

theorem known_of_operand {name : Option String} {v : Variable} (found : s.operand name = .ok v) :
    ∀ id ∈ [v.id], Known s.vars.nodes id := by
  intro id member
  exact List.mem_singleton.1 member ▸ known_of_mem (mem_of_operand found)

theorem known_of_pair {a b : Option String} {v w : Variable} (first : s.operand a = .ok v)
    (second : s.operand b = .ok w) : ∀ id ∈ [v.id, w.id], Known s.vars.nodes id := by
  intro id member
  rcases List.mem_cons.1 member with rfl | other
  · exact known_of_mem (mem_of_operand first)
  · exact known_of_operand second id other

theorem planGet_derived {entityType : String} {named : List Source} {pattern : Option Pattern}
    {span : Option TimeSpan} {limit : Option Nat}
    (planned : s.planGet entityType named pattern span limit = .ok plan) :
    plan.DerivedIn s.vars := by
  obtain ⟨sources, _, _, parts, _, found, _, _, _, _, rest⟩ := planGet_eq_ok planned
  have known : ∀ id ∈ addNodes (s.referencedNodes? pattern) (sources.vars.map Variable.id),
      Known s.vars.nodes id := by
    intro id member
    rcases mem_addNodes.1 member with referenced | source
    · exact known_of_referenced referenced
    · exact known_of_ids (mem_of_sourcesOf found) source
  rcases rest with ⟨_, _, rfl⟩ | ⟨_, rfl⟩
  · exact fetchProduct_derived known
  · exact fun _ => fetchProduct_derived known

theorem planBetween_derived {relation first second : String} {span : Option TimeSpan}
    (planned : s.planBetween relation first second span = .ok plan) : plan.DerivedIn s.vars := by
  obtain ⟨a, b, window, source, target, first, second, _, _, _, _, _, rest⟩ :=
    planBetween_eq_ok planned
  have derived : ∀ edges : List Edge, (s.single (Table.ofSchema target.schema
      (Relation.reached relation edges source.ids target.rows)) [a.id, b.id] []).DerivedIn s.vars :=
    fun _ => single_derived (known_of_pair first second)
  rw [rest]
  split
  · exact derived []
  · exact planEdges_derived derived

theorem planRelated_derived {entityType relation : String} {reversed : Bool} {input : String}
    {pattern : Option Pattern} {span : Option TimeSpan} {limit : Option Nat}
    (planned : s.planRelated entityType relation reversed input pattern span limit = .ok plan) :
    plan.DerivedIn s.vars := by
  obtain ⟨center, prepared, window, tables, around, _, found, _, _, _, _, _, _, _, _, rest⟩ :=
    planRelated_eq_ok planned
  have known : ∀ id ∈ relatedLineage (s.referencedNodes? pattern)
      ((s.variablesOfType entityType).map Variable.id) center.id, Known s.vars.nodes id := by
    intro id member
    rcases mem_relatedLineage.1 member with rfl | referenced | candidate
    · exact known_of_mem (mem_of_operand found)
    · exact known_of_referenced referenced
    · exact known_of_ids (fun v there =>
        List.mem_of_mem_filter (List.mem_of_mem_filter there)) candidate
  have derived : ∀ edges, (s.foundAround relation prepared window limit (pool entityType tables)
      around (relatedLineage (s.referencedNodes? pattern)
        ((s.variablesOfType entityType).map Variable.id) center.id) edges).DerivedIn s.vars :=
    fun edges => single_derived known
  rw [rest]
  split
  · exact derived []
  · split
    · exact planEdges_derived derived
    · exact planEdges_derived (fun edges => derived _)

/-- Every plan derives its tables from nodes that are there. -/
theorem plan_derived (planned : s.plan = .ok plan) : plan.DerivedIn s.vars := by
  unfold Scene.plan at planned
  generalize s.statement.statement.command = command at planned
  cases command with
  | get => exact planGet_derived planned
  | findBetween => exact planBetween_derived planned
  | findRelated => exact planRelated_derived planned
  | join =>
    obtain ⟨a, first, b, second, _, l, _, r, _, _, _, _, _, rfl⟩ := planJoin_eq_ok.1 planned
    exact single_derived (t := Table.ofSchema (joinSchema a b l r) _) (known_of_pair first second)
  | sort =>
    obtain ⟨v, found, _, _, _, _, rfl⟩ := planSort_eq_ok.1 planned
    exact single_derived (known_of_operand found)
  | group =>
    obtain ⟨v, found, _, _, _, _, _, _, rfl⟩ := planGroup_eq_ok.1 planned
    exact single_derived (known_of_operand found)
  | refine =>
    obtain ⟨v, found, _, _, _, _, _, _, rfl⟩ := planRefine_eq_ok.1 planned
    refine single_derived (fun id member => ?_)
    rcases mem_addNodes.1 member with own | referenced
    · exact known_of_operand found id own
    · exact known_of_referenced referenced
  | merge =>
    obtain ⟨operands, read, rfl⟩ := planMerge_eq_ok.1 planned
    exact single_derived (t := mergedTable (operands.map Prod.snd))
      (fun id => known_of_operands (mem_of_mergeOperands read))
  | assign =>
    obtain ⟨v, found, _, _, rfl⟩ := planAssign_eq_ok.1 planned
    exact single_derived (known_of_operand found)
  | apply =>
    obtain ⟨m, _, operands, read, _, _, rfl⟩ := planApply_eq_ok.1 planned
    exact moduleProduct_derived (fun id => known_of_operands (mem_of_moduleOperands read))
  | display =>
    obtain ⟨_, _, _, _, _, _, _, _, rfl⟩ := planDisplay_eq_ok.1 planned
    exact fun _ member => absurd member List.not_mem_nil
  | info =>
    obtain ⟨_, _, _, _, _, _, rfl⟩ := planInfo_eq_ok.1 planned
    exact fun _ member => absurd member List.not_mem_nil
  | save =>
    obtain ⟨_, _, rfl⟩ := planSave_eq_ok.1 planned
    exact fun _ _ member => absurd member List.not_mem_nil
  | load =>
    obtain ⟨_, _, rfl⟩ := planLoad_eq_ok.1 planned
    exact single_derived (fun _ member => absurd member List.not_mem_nil)
  | create =>
    obtain ⟨_, _, rfl⟩ := planCreate_eq_ok.1 planned
    exact single_derived (fun _ member => absurd member List.not_mem_nil)

end Scene
end ThreatHunt
