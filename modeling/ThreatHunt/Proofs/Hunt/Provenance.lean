import ThreatHunt.Proofs.Hunt.Footprint
import ThreatHunt.Proofs.Hunt.Joined
import ThreatHunt.Proofs.Variables.Descent

/-!
Provenance. Whatever table a statement reads, the node that it stands for is in the lineage of all
that the statement binds.
-/

namespace ThreatHunt

open Outcome

/-- Whether all tables of a product have one lineage. -/
def Product.Inherits (lineage : List Nat) (p : Product) : Prop :=
  ∀ t ∈ p.tables, t.lineage = lineage

namespace Scene

variable {s : Scene} {plan : Plan} {lineage : List Nat}

theorem single_inherits {t : Table} {sources : List String} :
    (s.single t lineage sources).Inherits lineage :=
  fun _ member => by rw [List.mem_singleton.1 member]

theorem fetchProduct_inherits {entityType : String} {limit : Option Nat} {sources : Sources}
    {parts : List Table} {fetched : Option Fetched} :
    (s.fetchProduct entityType limit sources lineage parts fetched).Inherits lineage :=
  fun _ member => by rw [List.mem_singleton.1 member]

theorem moduleProduct_inherits {module : String} {inputs : List String}
    {made : List (OutputSpec × Table) × Nat} :
    (s.moduleProduct module inputs lineage made).Inherits lineage := by
  intro t member
  obtain ⟨output, _, rfl⟩ := List.mem_map.1 member
  rfl

theorem planEdges_inherits {relation : String} {source target : Table} {window : Option Window}
    {finish : List Edge → Product} (made : ∀ edges, (finish edges).Inherits lineage) :
    (s.planEdges relation source target window finish).Makes (Product.Inherits lineage) := by
  unfold planEdges
  dsimp only
  split
  · exact made _
  · exact fun _ => made _

/-- Whether a name stands for a node in a lineage. -/
def Inherited (s : Scene) (lineage : List Nat) (name : String) : Prop :=
  ∃ v, s.vars.find? name = some v ∧ v.id ∈ lineage

/-- The four ways in which tables are read. -/
theorem inherited_of_reads
    (operands : ∀ input ∈ s.command.operands, ∃ v, s.operand input = .ok v ∧ v.id ∈ lineage)
    (sources : ∀ name, .named name ∈ s.command.sources → s.connectors.find? name = none →
      s.Inherited lineage name)
    (references : ∀ p, s.command.pattern? = some p → ∀ name attr, (name, attr) ∈ p.references →
      s.Inherited lineage name)
    (candidates : ∀ entityType, s.command.sought? = some entityType → ∀ name v,
      s.vars.find? name = some v → v.entityType = entityType → v.id ∈ lineage) :
    ∀ name, s.Reads name → s.Inherited lineage name := by
  intro name reads
  cases reads with
  | operand member =>
    obtain ⟨v, found, there⟩ := operands _ member
    exact ⟨v, Variables.resolve_eq_ok.1 found, there⟩
  | source member free => exact sources name member free
  | reference written member => exact references _ written _ _ member
  | candidate sought found held => exact ⟨_, found, candidates _ sought _ _ found held⟩

/-- The references of a pattern that was resolved stand for nodes. -/
theorem inherited_of_preparePattern {entityType : String} {pattern prepared : Option Pattern}
    {p : Pattern} (ready : s.preparePattern entityType pattern = .ok prepared)
    (written : pattern = some p) {name attr : String} (member : (name, attr) ∈ p.references) :
    s.Inherited (s.referencedNodes? pattern) name := by
  subst written
  obtain ⟨_, _, made, resolved, _⟩ := preparePattern_eq_ok.1 ready
  obtain ⟨c, there, operand⟩ := Pattern.mem_references.1 member
  obtain ⟨d, _, replaced⟩ := exists_of_forall₂ (p.comparisons_mapM resolved).flip there
  cases resolveComparison_eq_ok.1 replaced with
  | plain plain => exact absurd operand (plain name attr)
  | @reference _ _ v _ _ refers bound =>
    obtain ⟨rfl, rfl⟩ := Operand.reference.inj (operand.symm.trans refers)
    refine ⟨v, bound, ?_⟩
    change v.id ∈ s.referencedNodes p
    apply Schema.mem_distinct.2
    apply List.mem_filterMap.2
    exact ⟨(name, attr), member, by rw [bound]; rfl⟩

theorem operand_of_mergeOperands {first : String} {head : Option Table} {inputs : List String}
    {operands : List (Variable × Table)} (read : s.mergeOperands first head inputs = .ok operands) :
    ∀ input ∈ inputs, ∃ o ∈ operands, s.operand (some input) = .ok o.1 := by
  induction inputs generalizing head operands with
  | nil => exact fun _ member => absurd member List.not_mem_nil
  | cons name rest ih =>
    obtain ⟨v, found, _, t, _, others, later, rfl⟩ := mergeOperands_cons_eq_ok.1 read
    intro input member
    rcases List.mem_cons.1 member with rfl | further
    · exact ⟨(v, t), List.mem_cons_self .., found⟩
    · obtain ⟨o, there, same⟩ := ih later input further
      exact ⟨o, List.mem_cons_of_mem _ there, same⟩

theorem operand_of_moduleOperands {inputs : List String}
    {operands : List (Variable × String × Table)} (read : s.moduleOperands inputs = .ok operands) :
    ∀ input ∈ inputs, ∃ o ∈ operands, s.operand (some input) = .ok o.1 := by
  intro input member
  obtain ⟨o, there, v, found, t, _, rfl⟩ :=
    exists_of_forall₂ (moduleOperands_eq_ok.1 read).flip member
  exact ⟨(v, input, t), there, found⟩

/-- Commands that read the tables of their operands and those that a pattern refers to. -/
structure ReadsOnly (s : Scene) (operands : List (Option String)) (pattern : Option Pattern) :
    Prop where
  operands : s.command.operands = operands
  sources : s.command.sources = []
  pattern : s.command.pattern? = pattern
  sought : s.command.sought? = none

theorem readsOnly_of_command {c : Command} (written : s.statement.statement.command = c)
    (sources : c.sources = []) (sought : c.sought? = none) :
    s.ReadsOnly c.operands c.pattern? where
  operands := congrArg Command.operands written
  sources := (congrArg Command.sources written).trans sources
  pattern := congrArg Command.pattern? written
  sought := (congrArg Command.sought? written).trans sought

theorem ReadsOnly.inherited {operands : List (Option String)} {pattern : Option Pattern}
    (reads : s.ReadsOnly operands pattern)
    (each : ∀ input ∈ operands, ∃ v, s.operand input = .ok v ∧ v.id ∈ lineage)
    (references : ∀ p, pattern = some p → ∀ name attr, (name, attr) ∈ p.references →
      s.Inherited lineage name) :
    ∀ name, s.Reads name → s.Inherited lineage name := by
  apply inherited_of_reads
  · rw [reads.operands]
    exact each
  · rw [reads.sources]
    exact fun _ member => absurd member List.not_mem_nil
  · rw [reads.pattern]
    exact references
  · rw [reads.sought]
    intro _ sought
    cases sought

theorem ReadsOnly.nothing (reads : s.ReadsOnly [] none) :
    ∀ name, s.Reads name → s.Inherited [] name := by
  apply reads.inherited
  · exact fun _ member => absurd member List.not_mem_nil
  · intro p written
    cases written

/-- One operand and nothing else. -/
theorem ReadsOnly.one {input : Option String} {v : Variable} (reads : s.ReadsOnly [input] none)
    (found : s.operand input = .ok v) : ∀ name, s.Reads name → s.Inherited [v.id] name := by
  apply reads.inherited
  · intro other member
    rw [List.mem_singleton.1 member]
    exact ⟨v, found, List.mem_singleton_self _⟩
  · intro p written
    cases written

/-- Two operands and nothing else. -/
theorem ReadsOnly.two {left right : Option String} {v w : Variable}
    (reads : s.ReadsOnly [left, right] none) (first : s.operand left = .ok v)
    (second : s.operand right = .ok w) :
    ∀ name, s.Reads name → s.Inherited [v.id, w.id] name := by
  apply reads.inherited
  · intro input member
    rcases List.mem_pair.1 member with rfl | rfl
    · exact ⟨v, first, by simp⟩
    · exact ⟨w, second, by simp⟩
  · intro p written
    cases written

/-- A list of operands and nothing else. -/
theorem ReadsOnly.many {α : Type} {inputs : List String} {operands : List (Variable × α)}
    (reads : s.ReadsOnly (inputs.map some) none)
    (read : ∀ input ∈ inputs, ∃ o ∈ operands, s.operand (some input) = .ok o.1) :
    ∀ name, s.Reads name → s.Inherited (addNodes [] (operands.map (fun o => o.1.id))) name := by
  apply reads.inherited
  · intro input member
    obtain ⟨name, there, rfl⟩ := List.mem_map.1 member
    obtain ⟨o, operand, found⟩ := read name there
    exact ⟨o.1, found, mem_addNodes.2 (.inr (List.mem_map.2 ⟨o, operand, rfl⟩))⟩
  · intro p written
    cases written

/-- One operand that is narrowed down. -/
theorem ReadsOnly.narrowed {input : Option String} {r prepared : Refinement} {v : Variable}
    (reads : s.ReadsOnly [input] r.pattern) (found : s.operand input = .ok v)
    (ready : s.prepareRefinement v.entityType r = .ok prepared) :
    ∀ name, s.Reads name → s.Inherited (addNodes [v.id] (s.referencedNodes? r.pattern)) name := by
  obtain ⟨made, resolved, _⟩ := prepareRefinement_eq_ok.1 ready
  apply reads.inherited
  · intro other member
    rw [List.mem_singleton.1 member]
    exact ⟨v, found, mem_addNodes.2 (.inl (List.mem_singleton_self _))⟩
  · intro p written name attr member
    obtain ⟨w, bound, node⟩ := inherited_of_preparePattern resolved written member
    exact ⟨w, bound, mem_addNodes.2 (.inr node)⟩

/-- Whether all that a plan makes has one lineage with the nodes of all tables that are read. -/
def Inherits (s : Scene) (plan : Plan) : Prop :=
  ∃ lineage, plan.Makes (Product.Inherits lineage) ∧ ∀ name, s.Reads name → s.Inherited lineage name

theorem planGet_inherits {entityType : String} {named : List Source} {pattern : Option Pattern}
    {span : Option TimeSpan} {limit : Option Nat}
    (command : s.command = .get entityType named pattern span limit)
    (planned : s.planGet entityType named pattern span limit = .ok plan) : s.Inherits plan := by
  obtain ⟨sources, prepared, _, parts, _, found, ready, _, _, _, rest⟩ := planGet_eq_ok planned
  obtain ⟨vars, bound⟩ := mem_vars_of_sourcesOf found
  refine ⟨addNodes (s.referencedNodes? pattern) (sources.vars.map Variable.id), ?_, ?_⟩
  · rcases rest with ⟨_, _, rfl⟩ | ⟨_, rfl⟩
    · exact fetchProduct_inherits
    · exact fun _ => fetchProduct_inherits
  · apply inherited_of_reads
    · rw [command]
      exact fun _ member => absurd member List.not_mem_nil
    · rw [command]
      intro name member free
      obtain ⟨v, there⟩ := bound name member free
      have source : v ∈ sources.vars := (vars v).2 ⟨name, member, free, there⟩
      exact ⟨v, there, mem_addNodes.2 (.inr (List.mem_map_of_mem source))⟩
    · rw [command]
      intro p written name attr member
      obtain ⟨v, there, node⟩ := inherited_of_preparePattern ready written member
      exact ⟨v, there, mem_addNodes.2 (.inl node)⟩
    · rw [command]
      intro _ sought
      cases sought

theorem planRelated_inherits (faithful : s.vars.Faithful) (wellFormed : s.vars.WellFormed)
    {entityType relation : String} {reversed : Bool} {input : String} {pattern : Option Pattern}
    {span : Option TimeSpan} {limit : Option Nat}
    (command : s.command = .findRelated entityType relation reversed input pattern span limit)
    (planned : s.planRelated entityType relation reversed input pattern span limit = .ok plan) :
    s.Inherits plan := by
  obtain ⟨center, prepared, window, tables, around, _, found, _, _, ready, _, _, _, _, _, rest⟩ :=
    planRelated_eq_ok planned
  refine ⟨relatedLineage (s.referencedNodes? pattern)
    ((s.variablesOfType entityType).map Variable.id) center.id, ?_, ?_⟩
  · rw [rest]
    split
    · exact single_inherits
    · split
      · exact planEdges_inherits (fun _ => single_inherits)
      · exact planEdges_inherits (fun _ => single_inherits)
  · apply inherited_of_reads
    · rw [command]
      intro name member
      rw [List.mem_singleton.1 member]
      exact ⟨center, found, mem_relatedLineage.2 (.inl rfl)⟩
    · rw [command]
      exact fun _ member => absurd member List.not_mem_nil
    · rw [command]
      intro p written name attr member
      obtain ⟨v, there, node⟩ := inherited_of_preparePattern ready written member
      exact ⟨v, there, mem_relatedLineage.2 (.inr (.inl node))⟩
    · rw [command]
      intro type sought name v bound held
      obtain rfl := Option.some.inj sought
      have own := faithful.name_of_find? bound
      have listed := (Variables.mem_list_iff faithful wellFormed).2 (own ▸ bound)
      have candidate : v ∈ s.variablesOfType entityType :=
        List.mem_filter.2 ⟨listed, beq_iff_eq.2 held⟩
      exact mem_relatedLineage.2 (.inr (.inr (List.mem_map_of_mem candidate)))

/-- All that a statement makes has the nodes of all tables that it reads in its lineage. -/
theorem plan_inherits (faithful : s.vars.Faithful) (wellFormed : s.vars.WellFormed)
    (planned : s.plan = .ok plan) : s.Inherits plan := by
  unfold Scene.plan at planned
  generalize written : s.statement.statement.command = command at planned
  cases command with
  | get =>
    exact planGet_inherits written planned
  | findRelated =>
    exact planRelated_inherits faithful wellFormed written planned
  | findBetween =>
    obtain ⟨a, b, _, source, target, first, second, _, _, _, _, _, rest⟩ :=
      planBetween_eq_ok planned
    refine ⟨[a.id, b.id], ?_, (readsOnly_of_command written rfl rfl).two first second⟩
    rw [rest]
    split
    · exact single_inherits
    · exact planEdges_inherits (fun _ => single_inherits)
  | join =>
    obtain ⟨a, first, b, second, _, l, _, r, _, _, _, _, _, rfl⟩ := planJoin_eq_ok.1 planned
    exact ⟨[a.id, b.id], single_inherits (t := Table.ofSchema (joinSchema a b l r) _),
      (readsOnly_of_command written rfl rfl).two first second⟩
  | sort =>
    obtain ⟨v, found, _, _, _, _, rfl⟩ := planSort_eq_ok.1 planned
    exact ⟨[v.id], single_inherits, (readsOnly_of_command written rfl rfl).one found⟩
  | group =>
    obtain ⟨v, found, _, _, _, _, _, _, rfl⟩ := planGroup_eq_ok.1 planned
    exact ⟨[v.id], single_inherits, (readsOnly_of_command written rfl rfl).one found⟩
  | refine =>
    obtain ⟨v, found, _, _, _, ready, _, _, rfl⟩ := planRefine_eq_ok.1 planned
    exact ⟨_, single_inherits, (readsOnly_of_command written rfl rfl).narrowed found ready⟩
  | merge =>
    obtain ⟨operands, read, rfl⟩ := planMerge_eq_ok.1 planned
    exact ⟨_, single_inherits (t := mergedTable (operands.map Prod.snd)),
      (readsOnly_of_command written rfl rfl).many (operand_of_mergeOperands read)⟩
  | assign =>
    obtain ⟨v, found, _, _, rfl⟩ := planAssign_eq_ok.1 planned
    exact ⟨[v.id], single_inherits, (readsOnly_of_command written rfl rfl).one found⟩
  | apply =>
    obtain ⟨m, _, operands, read, _, _, rfl⟩ := planApply_eq_ok.1 planned
    exact ⟨_, fun _ => moduleProduct_inherits,
      (readsOnly_of_command written rfl rfl).many (operand_of_moduleOperands read)⟩
  | display =>
    obtain ⟨v, found, _, _, _, ready, _, _, rfl⟩ := planDisplay_eq_ok.1 planned
    exact ⟨_, fun _ member => absurd member List.not_mem_nil,
      (readsOnly_of_command written rfl rfl).narrowed found ready⟩
  | info =>
    obtain ⟨v, found, _, _, _, _, rfl⟩ := planInfo_eq_ok.1 planned
    exact ⟨[v.id], fun _ member => absurd member List.not_mem_nil,
      (readsOnly_of_command written rfl rfl).one found⟩
  | save =>
    obtain ⟨v, found, rfl⟩ := planSave_eq_ok.1 planned
    exact ⟨[v.id], fun _ _ member => absurd member List.not_mem_nil,
      (readsOnly_of_command written rfl rfl).one found⟩
  | load =>
    obtain ⟨_, _, rfl⟩ := planLoad_eq_ok.1 planned
    exact ⟨[], single_inherits, (readsOnly_of_command written rfl rfl).nothing⟩
  | create =>
    obtain ⟨_, _, rfl⟩ := planCreate_eq_ok.1 planned
    exact ⟨[], single_inherits, (readsOnly_of_command written rfl rfl).nothing⟩

end Scene

namespace Variables

/-- Names that are bound stand for new nodes, and the others for what they stood for. -/
theorem names_bindAll (now : Instant) {bs : List Binding} {vs : Variables} {new : List Variable}
    (bound : (Hunt.bindAll now vs bs).2 = .ok new) (name : String) :
    (name ∈ bs.map Binding.name →
      ∃ id, vs.nextId ≤ id ∧ (Hunt.bindAll now vs bs).1.names.find? name = some id) ∧
    (name ∉ bs.map Binding.name →
      (Hunt.bindAll now vs bs).1.names.find? name = vs.names.find? name) := by
  induction bs generalizing vs new with
  | nil => exact ⟨fun member => absurd member List.not_mem_nil, fun _ => rfl⟩
  | cons b rest ih =>
    rcases refused_or_known vs now b with ⟨id, refused⟩ | known
    · simp only [Hunt.bindAll, refused] at bound
      cases bound
    · have first := bind_of_known now known
      simp only [Hunt.bindAll, first] at bound ⊢
      obtain ⟨others, later, _⟩ := map_eq_ok.1 bound
      obtain ⟨again, kept⟩ := ih later
      dsimp only at again kept
      rw [Dict.find?_insert] at kept
      by_cases there : name ∈ rest.map Binding.name
      · obtain ⟨id, above, found⟩ := again there
        constructor
        · exact fun _ => ⟨id, Nat.le_of_succ_le above, found⟩
        · exact fun absent => absurd (List.mem_cons_of_mem _ there) absent
      · rw [kept there]
        constructor
        · intro member
          have here : name = b.name := by
            rcases List.mem_cons.1 member with same | later
            · exact same
            · exact absurd later there
          exact ⟨vs.nextId, Nat.le_refl _, if_pos here.symm⟩
        · intro absent
          exact if_neg (fun (same : b.name = name) => absent (same ▸ List.mem_cons_self ..))

/-- Of the new nodes with one name, the name stands for the last. -/
theorem names_bindAll_iff (now : Instant) {bs : List Binding} {vs : Variables}
    {new : List Variable} (bound : (Hunt.bindAll now vs bs).2 = .ok new) {i : Nat} {v : Variable}
    (there : new[i]? = some v) :
    (Hunt.bindAll now vs bs).1.names.find? v.name = some v.id ↔
      v.name ∉ (bs.map Binding.name).drop (i + 1) := by
  induction bs generalizing vs new i with
  | nil =>
    obtain rfl := Except.ok.inj bound
    cases there
  | cons b rest ih =>
    rcases refused_or_known vs now b with ⟨id, refused⟩ | known
    · simp only [Hunt.bindAll, refused] at bound
      cases bound
    · have first := bind_of_known now known
      simp only [Hunt.bindAll, first] at bound ⊢
      obtain ⟨others, later, rfl⟩ := map_eq_ok.1 bound
      cases i with
      | succ i => exact ih later there
      | zero =>
        obtain rfl := Option.some.inj there
        obtain ⟨again, kept⟩ := names_bindAll now later (nodeOf vs.nextId now b).name
        rw [List.map_cons, List.drop_succ_cons, List.drop_zero]
        constructor
        · intro stands repeated
          obtain ⟨id, above, found⟩ := again repeated
          have same : id = vs.nextId := Option.some.inj (found.symm.trans stands)
          dsimp only at above
          omega
        · intro last
          rw [kept last, Dict.find?_insert]
          exact if_pos rfl

end Variables

namespace Hunt

variable {h : Hunt} {now : Instant} {statement : PlacedStatement} {product : Product}
  {completion : Completion}

/-- Each variable that a statement has bound stands for a new node, whose lineage is that of a table
that was made. -/
theorem found_of_commit (sound : h.Sound) (derived : product.DerivedIn h.vars)
    (committed : (h.commit now statement product).2 = .ok completion) :
    ∀ b ∈ completion.bound, ∃ w, (h.commit now statement product).1.vars.find? b.name = some w ∧
      w ∉ h.vars.nodes ∧ ∃ t ∈ product.tables, w.lineage = t.lineage := by
  obtain ⟨made, new, c⟩ := committed_of_ok sound.fresh sound.wellFormed derived committed
  have after := (commit_sound sound derived committed).wellFormed
  have vars : (h.commit now statement product).1.vars =
      (h.binds now statement product made).1.collectGarbage.2 := by
    rw [c.after]
    rfl
  rw [c.listed]
  rw [vars] at after ⊢
  intro b member
  obtain ⟨v, there, rfl⟩ := List.mem_map.1 member
  obtain ⟨asked, among, node⟩ := exists_of_forall₂ c.each there
  have named : v.summary.name ∈
      (bindingsOf statement product (made.map StoredTable.handle)).map Binding.name := by
    rw [node]
    exact List.mem_map_of_mem among
  obtain ⟨id, above, names⟩ := (Variables.names_bindAll now c.bound v.summary.name).1 named
  obtain ⟨w, found⟩ := after.exists_find? (Option.isSome_iff_exists.2 ⟨id, names⟩)
  obtain ⟨own, present⟩ := after.find?_eq_some_iff.1 found
  have same : w.id = id := Option.some.inj (own.symm.trans names)
  have fresh : w ∉ h.vars.nodes := by
    intro old
    have below := sound.wellFormed.below w old
    omega
  refine ⟨w, found, fresh, ?_⟩
  have all := List.mem_of_mem_filter present
  rw [c.nodes] at all
  have latest := (List.mem_append.1 all).resolve_left fresh
  obtain ⟨b, origin, this⟩ := exists_of_forall₂ c.each latest
  obtain ⟨pair, zipped, rfl⟩ := List.mem_map.1 origin
  exact ⟨pair.1, (List.of_mem_zip zipped).1, by rw [this]; rfl⟩

/-- Provenance is complete. A statement that succeeds was planned from the tables that it reads and
from no others. Each name that it reads stands for a node, and this is in the lineage of each table
that was made and of each variable that was bound. -/
theorem provenance_of_completed (reachable : h.Reachable) {now : Moment}
    {statement : PlacedStatement} (completed : (h.run now statement).2 = .ok completion) :
    ∃ plan product, (h.scene now.time statement).plan = .ok plan ∧
      (h.perform now plan).2 = .ok product ∧
      (∀ store, (h.scene now.time statement).SameReads store →
        ((h.scene now.time statement).holding store).plan = .ok plan) ∧
      ∀ name, (h.scene now.time statement).Reads name →
        ∃ v, h.vars.find? name = some v ∧ (∀ t ∈ product.tables, v.id ∈ t.lineage) ∧
          ∀ b ∈ completion.bound, ∃ w, (h.run now statement).1.vars.find? b.name = some w ∧
            w ∉ h.vars.nodes ∧ v.id ∈ w.lineage := by
  have faithful : (h.scene now.time statement).vars.Faithful := reachable.faithful
  have wellFormed : (h.scene now.time statement).vars.WellFormed := reachable.sound.wellFormed
  have stages := h.stages_run now statement
  generalize h.run now statement = result at completed stages ⊢
  cases stages with
  | senseless planned => cases completed
  | unanswered planned performed => cases completed
  | @committed plan exchange disk product planned performed =>
    have answered : (h.perform now plan).2 = .ok product := congrArg Prod.snd performed
    have derived : product.DerivedIn h.vars :=
      perform_derived (Scene.plan_derived planned) answered
    have sound : Sound { h with exchange := exchange, disk := disk } :=
      reachable.sound.congr rfl rfl
    obtain ⟨lineage, makes, inherited⟩ := Scene.plan_inherits faithful wellFormed planned
    have tables : ∀ t ∈ product.tables, t.lineage = lineage := perform_makes makes answered
    refine ⟨plan, product, planned, answered, ?_, ?_⟩
    · intro store same
      rw [same.plan faithful wellFormed, planned]
    · intro name reads
      obtain ⟨v, found, there⟩ := inherited name reads
      refine ⟨v, found, fun t member => tables t member ▸ there, ?_⟩
      intro b member
      obtain ⟨w, current, fresh, t, made, own⟩ := found_of_commit sound derived completed b member
      exact ⟨w, current, fresh, by rw [own, tables t made]; exact there⟩

/-- The processes under `a` with a name that one under `b` has. -/
def getNamed : PlacedStatement :=
  ⟨"c = GET process FROM a WHERE name = b.name", 1, 1, some "c", .get "process" [.named "a"]
    (some (.test ⟨"name", none, .equal, .reference "b" "name"⟩)) none none⟩

theorem provenance_of_completed_named :
    ∃ completion v w, (recorded.run epoch getNamed).2 = .ok completion ∧
      recorded.vars.find? "b" = some v ∧
      (recorded.run epoch getNamed).1.vars.find? "c" = some w ∧ v.id ∈ w.lineage := by
  have completed : ∃ completion, (recorded.run epoch getNamed).2 = .ok completion ∧
      ∃ b ∈ completion.bound, b.name = "c" := by
    rw [recorded_eq]
    exact ⟨_, rfl, _, List.mem_cons_self .., rfl⟩
  obtain ⟨completion, completed, b, member, named⟩ := completed
  obtain ⟨_, _, _, _, _, inherited⟩ := provenance_of_completed reachable_recorded completed
  have reads : (recorded.scene epoch.time getNamed).Reads "b" :=
    .reference rfl (List.mem_singleton_self ("b", "name"))
  obtain ⟨v, found, _, bound⟩ := inherited "b" reads
  obtain ⟨w, current, _, there⟩ := bound b member
  exact ⟨completion, v, w, completed, found, named ▸ current, there⟩

end Hunt
end ThreatHunt
