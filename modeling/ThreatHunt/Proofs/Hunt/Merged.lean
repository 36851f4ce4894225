import Mathlib.Data.List.Perm.Basic
import ThreatHunt.Proofs.Hunt.Grouped
import ThreatHunt.Proofs.Table.Union

/-!
Merges and the types of their operands. The first operand decides what may be merged with it. So
types that are pairwise compatible are always merged, and unless an operand is generic, no others;
but a generic operand in front lets types through that are refused in another order.
-/

namespace ThreatHunt

section Types

variable {a b c : String}

theorem compatibleTypes_iff :
    compatibleTypes a b = true ↔ a = b ∨ a = genericType ∨ b = genericType ∨
      ∃ group ∈ typeGroups, a ∈ group ∧ b ∈ group := by
  simp [compatibleTypes, or_assoc]

theorem compatibleTypes_refl (a : String) : compatibleTypes a a = true :=
  compatibleTypes_iff.2 (.inl rfl)

theorem compatibleTypes_symm (fits : compatibleTypes a b = true) : compatibleTypes b a = true := by
  rw [compatibleTypes_iff] at fits ⊢
  rcases fits with same | generic | generic | ⟨group, known, mine, its⟩
  · exact .inl same.symm
  · exact .inr (.inr (.inl generic))
  · exact .inr (.inl generic)
  · exact .inr (.inr (.inr ⟨group, known, its, mine⟩))

theorem eq_of_mem_groups {group other : List String} (known : group ∈ typeGroups)
    (known' : other ∈ typeGroups) (mine : a ∈ group) (its : a ∈ other) : group = other := by
  have disjoint : ∀ g ∈ typeGroups, ∀ g' ∈ typeGroups, ∀ t ∈ g, t ∈ g' → g = g' := by decide
  exact disjoint group known other known' a mine its

/-- Compatibility passes on through a type that is not generic. -/
theorem compatibleTypes_trans (concrete : b ≠ genericType) (first : compatibleTypes a b = true)
    (second : compatibleTypes b c = true) : compatibleTypes a c = true := by
  rw [compatibleTypes_iff] at first second ⊢
  rcases first with rfl | generic | generic | ⟨group, known, mine, middle⟩
  · exact second
  · exact .inr (.inl generic)
  · exact absurd generic concrete
  · rcases second with rfl | generic | generic | ⟨other, known', middle', its⟩
    · exact .inr (.inr (.inr ⟨group, known, mine, middle⟩))
    · exact absurd generic concrete
    · exact .inr (.inr (.inl generic))
    · obtain rfl := eq_of_mem_groups known known' middle middle'
      exact .inr (.inr (.inr ⟨group, known, mine, its⟩))

end Types

/-- Whether the types of two variables are compatible. -/
def Variable.Compatible (v w : Variable) : Prop :=
  compatibleTypes v.entityType w.entityType = true

theorem Variable.Compatible.symm {v w : Variable} (fits : v.Compatible w) : w.Compatible v :=
  compatibleTypes_symm fits

namespace Table

variable {tables : List Table}

/-- Merged rows have the identifiers and the attributes of the rows that are merged. -/
theorem accepts_mergedTable (accepted : ∀ t ∈ tables, Store.Accepts t.schema t.rows) :
    Store.Accepts (Scene.mergeSchema tables) (Scene.mergedTable tables).rows := by
  have union := unionOf_mergeRows (tables.flatMap Table.rows)
  have knows : ∀ t ∈ tables, ∀ name, t.schema.has name = true →
      (Scene.mergeSchema tables).has name = true := by
    intro t member name has
    rw [Schema.has_iff] at has ⊢
    exact has.imp_right (fun there =>
      Schema.mem_names_unify.2 ⟨t.schema, List.mem_map_of_mem member, there⟩)
  have known : ∀ row ∈ unionRows tables, ∀ name, row.attributes.contains name = true →
      (Scene.mergeSchema tables).has name = true := by
    apply mergeRows_keep
    · intro row other mine its name shown
      exact ((Entity.contains_absorb row other name).1 shown).elim (mine name) (its name)
    · intro row member name shown
      obtain ⟨t, there, inside⟩ := List.mem_flatMap.1 member
      exact knows t there name ((accepted t there).known row inside name shown)
  apply Store.Accepts.conformRows
  constructor
  · intro row member
    have seen : row.id ∈ (tables.flatMap Table.rows).map Entity.id := by
      rw [← Schema.mem_distinct, ← union.ids]
      exact List.mem_map_of_mem member
    obtain ⟨other, among, same⟩ := List.mem_map.1 seen
    obtain ⟨t, there, inside⟩ := List.mem_flatMap.1 among
    exact same ▸ (accepted t there).named other inside
  · exact union.ids ▸ Schema.nodup_distinct _
  · exact known

end Table

namespace Scene

variable {s : Scene} {inputs : List String} {operands : List (Variable × Table)} {plan : Plan}

theorem plan_merge (command : s.statement.statement.command = .merge inputs) :
    s.plan = s.planMerge inputs := by
  unfold Scene.plan
  rw [command]

/-- Whether a name stands for a variable with its table. -/
def IsOperand (s : Scene) (name : String) (o : Variable × Table) : Prop :=
  s.operand (some name) = .ok o.1 ∧ s.tableOf o.1 = .ok o.2

theorem entityType_of_tableOf {v : Variable} {t : Table} (read : s.tableOf v = .ok t) :
    t.entityType = v.entityType := by
  obtain ⟨_, _, rfl⟩ := tableOf_eq_ok.1 read
  rfl

/-- Operands are read if their names stand for variables whose types fit that of the first one. -/
theorem mergeOperands_eq_ok {first : String} {head : Option Table} :
    s.mergeOperands first head inputs = .ok operands ↔
      List.Forall₂ s.IsOperand inputs operands ∧
        ∀ t, head.or (operands.head?.map Prod.snd) = some t →
          ∀ o ∈ operands, compatibleTypes t.entityType o.1.entityType = true := by
  -- Behind the first name there is always a table that leads.
  induction inputs generalizing head operands with
  | nil =>
    constructor
    · intro read
      obtain rfl := Except.ok.inj read
      exact ⟨.nil, fun _ _ _ member => absurd member List.not_mem_nil⟩
    · rintro ⟨none, -⟩
      cases none
      rfl
  | cons name rest ih =>
    rw [mergeOperands_cons_eq_ok]
    constructor
    · rintro ⟨v, found, fits, t, read, others, later, rfl⟩
      obtain ⟨all, agree⟩ := ih.1 later
      refine ⟨.cons ⟨found, read⟩ all, ?_⟩
      intro u leads
      cases head with
      | some head =>
        obtain rfl := Option.some.inj leads
        exact List.forall_mem_cons.2 ⟨fits head rfl, agree head rfl⟩
      | none =>
        obtain rfl := Option.some.inj leads
        have own : compatibleTypes t.entityType v.entityType = true :=
          entityType_of_tableOf read ▸ compatibleTypes_refl _
        exact List.forall_mem_cons.2 ⟨own, agree t rfl⟩
    · rintro ⟨all, agree⟩
      cases all with
      | @cons _ o _ others here later =>
        obtain ⟨v, t⟩ := o
        refine ⟨v, here.1, ?_, t, here.2, others, ih.2 ⟨later, ?_⟩, rfl⟩
        · rintro u rfl
          exact agree u rfl (v, t) (List.mem_cons_self ..)
        · intro u leads
          cases head with
          | some head =>
            obtain rfl := Option.some.inj leads
            exact fun o member => agree head rfl o (List.mem_cons_of_mem _ member)
          | none =>
            obtain rfl := Option.some.inj leads
            exact fun o member => agree t rfl o (List.mem_cons_of_mem _ member)

end Scene

namespace Hunt

open Variable (Compatible)

variable {h : Hunt} {now : Moment} {statement : PlacedStatement} {inputs : List String}
  {vs ws : List Variable}

/-- Whether a statement is carried out. -/
def Completes (h : Hunt) (now : Moment) (statement : PlacedStatement) : Prop :=
  ∃ completion, (h.run now statement).2 = .ok completion

/-- Whether a name stands for a variable. -/
def Resolves (h : Hunt) (name : String) (v : Variable) : Prop := h.vars.resolve name = .ok v

/-- Whether the first variable goes with all. -/
def LedByFirst (vs : List Variable) : Prop :=
  ∀ first, vs.head? = some first → ∀ v ∈ vs, first.Compatible v

theorem exists_tableOf (reachable : h.Reachable) (time : Instant) (statement : PlacedStatement)
    {v : Variable} (member : v ∈ h.vars.nodes) :
    ∃ t, (h.scene time statement).tableOf v = .ok t := by
  obtain ⟨st, found, -⟩ := reachable.sound.stored member
  exact ⟨_, Scene.tableOf_eq_ok.2 ⟨st, found, rfl⟩⟩

theorem exists_operands (reachable : h.Reachable) (time : Instant) (statement : PlacedStatement)
    (bound : List.Forall₂ h.Resolves inputs vs) :
    ∃ operands, List.Forall₂ (h.scene time statement).IsOperand inputs operands ∧
      operands.map Prod.fst = vs := by
  induction bound with
  | nil => exact ⟨[], .nil, rfl⟩
  | @cons name v _ _ found _ ih =>
    obtain ⟨operands, all, rfl⟩ := ih
    obtain ⟨t, read⟩ := exists_tableOf reachable time statement
      (Variables.mem_of_find? (Variables.resolve_eq_ok.1 found))
    exact ⟨(v, t) :: operands, .cons ⟨found, read⟩ all, rfl⟩

theorem ledByFirst_iff {operands : List (Variable × Table)} {time : Instant}
    (all : List.Forall₂ (h.scene time statement).IsOperand inputs operands) :
    LedByFirst (operands.map Prod.fst) ↔ ∀ t, operands.head?.map Prod.snd = some t →
      ∀ o ∈ operands, compatibleTypes t.entityType o.1.entityType = true := by
  cases all with
  | nil =>
    constructor
    · exact fun _ _ _ _ member => absurd member List.not_mem_nil
    · exact fun _ _ leads => nomatch leads
  | @cons _ o _ others here _ =>
    have type := Scene.entityType_of_tableOf here.2
    constructor
    · intro led t leads other member
      obtain rfl := Option.some.inj leads
      rw [type]
      exact led o.1 rfl other.1 (List.mem_map_of_mem member)
    · intro agree first leads v member
      obtain rfl := Option.some.inj leads
      obtain ⟨other, there, rfl⟩ := List.mem_map.1 member
      have fits := agree o.2 rfl other there
      rwa [type] at fits

/-- A merge is carried out just if its names stand for variables of which the first goes with
all. -/
theorem completes_merge_iff (reachable : h.Reachable)
    (command : statement.statement.command = .merge inputs) :
    h.Completes now statement ↔ ∃ vs, List.Forall₂ h.Resolves inputs vs ∧ LedByFirst vs := by
  constructor
  · rintro ⟨completion, completed⟩
    obtain ⟨plan, product, planned, -, -⟩ := table_of_completed reachable completed
    rw [Scene.plan_merge command] at planned
    obtain ⟨operands, read, -⟩ := Scene.planMerge_eq_ok.1 planned
    obtain ⟨all, agree⟩ := Scene.mergeOperands_eq_ok.1 read
    refine ⟨operands.map Prod.fst, ?_, (ledByFirst_iff all).2 agree⟩
    rw [List.forall₂_map_right_iff]
    exact all.imp (fun _ _ operand => operand.1)
  · rintro ⟨vs, bound, led⟩
    obtain ⟨operands, all, rfl⟩ :=
      exists_operands reachable now.time statement bound
    have read : (h.scene now.time statement).mergeOperands (inputs.head?.getD "") none inputs =
        .ok operands :=
      Scene.mergeOperands_eq_ok.2 ⟨all, (ledByFirst_iff all).1 led⟩
    have planned := Scene.planMerge_eq_ok.2 ⟨operands, read, rfl⟩
    rw [← Scene.plan_merge command] at planned
    have accepted : ∀ t ∈ operands.map Prod.snd, Store.Accepts t.schema t.rows := by
      intro t member
      obtain ⟨o, there, rfl⟩ := List.mem_map.1 member
      obtain ⟨_, -, operand⟩ := Outcome.exists_of_forall₂ all there
      exact accepts_of_tableOf reachable (Scene.mem_of_operand operand.1) operand.2
    exact completes_of_ready reachable planned rfl (Table.accepts_mergedTable accepted)

theorem ledByFirst_of_pairwise (fit : vs.Pairwise Compatible) : LedByFirst vs := by
  intro first leads v member
  cases vs with
  | nil => nomatch leads
  | cons w rest =>
    obtain rfl := Option.some.inj leads
    rcases List.mem_cons.1 member with rfl | later
    · exact compatibleTypes_refl _
    · exact (List.pairwise_cons.1 fit).1 v later

/-- A first variable that is not generic goes with variables that go with each other only. -/
theorem pairwise_of_ledByFirst (led : LedByFirst vs)
    (concrete : ∀ first, vs.head? = some first → first.entityType ≠ genericType) :
    vs.Pairwise Compatible := by
  cases vs with
  | nil => exact .nil
  | cons first rest =>
    apply List.pairwise_of_forall_mem_list
    intro v mine w its
    exact compatibleTypes_trans (concrete first rfl) (compatibleTypes_symm (led first rfl v mine))
      (led first rfl w its)

theorem exists_first {v : Variable} (member : v ∈ vs) : ∃ rest, (v :: rest).Perm vs := by
  obtain ⟨front, behind, rfl⟩ := List.append_of_mem member
  exact ⟨front ++ behind, List.perm_middle.symm⟩

/-- A generic variable in front goes with all. -/
theorem ledByFirst_of_generic {v : Variable} (generic : v.entityType = genericType) :
    LedByFirst (v :: vs) := by
  intro first leads w _
  obtain rfl := Option.some.inj leads
  exact compatibleTypes_iff.2 (.inr (.inl generic))

/-- One of two variables that do not go with each other does not go with all, in front. -/
theorem exists_other_order (mixed : ¬vs.Pairwise Compatible) :
    ∃ ws, ws.Perm vs ∧ ¬LedByFirst ws := by
  by_contra all
  apply mixed
  apply List.pairwise_of_forall_mem_list
  intro v mine w its
  obtain ⟨rest, order⟩ := exists_first mine
  by_contra apart
  apply all
  refine ⟨v :: rest, order, ?_⟩
  intro led
  exact apart (led v rfl w (order.mem_iff.2 its))

theorem resolves_unique (first : List.Forall₂ h.Resolves inputs vs)
    (second : List.Forall₂ h.Resolves inputs ws) : vs = ws :=
  List.right_unique_forall₂' (fun _ _ _ found found' => Except.ok.inj (found.symm.trans found'))
    first second

theorem completes_iff_of_resolves (now : Moment) (reachable : h.Reachable)
    (bound : List.Forall₂ h.Resolves inputs vs)
    (command : statement.statement.command = .merge inputs) :
    h.Completes now statement ↔ LedByFirst vs := by
  rw [completes_merge_iff reachable command]
  constructor
  · rintro ⟨ws, found, led⟩
    exact resolves_unique found bound ▸ led
  · exact fun led => ⟨vs, bound, led⟩

theorem exists_inputs (bound : List.Forall₂ h.Resolves inputs vs) (order : ws.Perm vs) :
    ∃ inputs', inputs'.Perm inputs ∧ List.Forall₂ h.Resolves inputs' ws := by
  obtain ⟨inputs', found, order'⟩ := List.perm_comp_forall₂ order bound.flip
  exact ⟨inputs', order', found.flip⟩

theorem exists_variables {inputs' : List String} (bound : List.Forall₂ h.Resolves inputs vs)
    (order : inputs'.Perm inputs) : ∃ ws, ws.Perm vs ∧ List.Forall₂ h.Resolves inputs' ws := by
  obtain ⟨ws, found, order'⟩ := List.perm_comp_forall₂ order bound
  exact ⟨ws, order', found⟩

theorem ledByFirst_iff_pairwise
    (clear : vs.Pairwise Compatible ∨ ∀ v ∈ vs, v.entityType ≠ genericType) :
    LedByFirst vs ↔ vs.Pairwise Compatible := by
  constructor
  · intro led
    rcases clear with fit | concrete
    · exact fit
    · exact pairwise_of_ledByFirst led
        (fun first leads => concrete first (List.mem_of_mem_head? leads))
  · exact ledByFirst_of_pairwise

theorem pairwise_iff_of_perm (order : ws.Perm vs) :
    ws.Pairwise Compatible ↔ vs.Pairwise Compatible :=
  order.pairwise_iff Variable.Compatible.symm

/-- Whether merges of the operands, in any order, are carried out just if something holds. -/
def AnyOrder (h : Hunt) (now : Moment) (inputs : List String) (outcome : Prop) : Prop :=
  ∀ (inputs' : List String) (other : PlacedStatement), inputs'.Perm inputs →
    other.statement.command = .merge inputs' → (h.Completes now other ↔ outcome)

theorem anyOrder_of_clear (reachable : h.Reachable) (bound : List.Forall₂ h.Resolves inputs vs)
    (clear : vs.Pairwise Compatible ∨ ∀ v ∈ vs, v.entityType ≠ genericType) :
    h.AnyOrder now inputs (vs.Pairwise Compatible) := by
  intro inputs' other order command
  obtain ⟨ws, order', bound'⟩ := exists_variables bound order
  have clear' : ws.Pairwise Compatible ∨ ∀ v ∈ ws, v.entityType ≠ genericType := by
    rw [pairwise_iff_of_perm order']
    exact clear.imp_right (fun concrete v member => concrete v (order'.mem_iff.1 member))
  rw [completes_iff_of_resolves now reachable bound' command, ledByFirst_iff_pairwise clear',
    pairwise_iff_of_perm order']

theorem clear_of_anyOrder (reachable : h.Reachable) (bound : List.Forall₂ h.Resolves inputs vs)
    {outcome : Prop} (same : h.AnyOrder now inputs outcome) :
    vs.Pairwise Compatible ∨ ∀ v ∈ vs, v.entityType ≠ genericType := by
  have led : ∀ ws, ws.Perm vs → (LedByFirst ws ↔ outcome) := by
    intro ws order
    obtain ⟨inputs', order', bound'⟩ := exists_inputs bound order
    let other : PlacedStatement := ⟨"", 1, 1, none, .merge inputs'⟩
    have completes : h.Completes now other ↔ LedByFirst ws :=
      completes_iff_of_resolves now reachable bound' rfl
    exact completes.symm.trans (same inputs' other order' rfl)
  -- With the generic variable in front all are merged, with one of a misfitting pair they are not.
  by_contra apart
  obtain ⟨mixed, generic⟩ := not_or.1 apart
  push Not at generic
  obtain ⟨v, member, generic⟩ := generic
  obtain ⟨rest, order⟩ := exists_first member
  obtain ⟨ws, order', refused⟩ := exists_other_order mixed
  exact refused ((led ws order').2 ((led (v :: rest) order).1 (ledByFirst_of_generic generic)))

/-- Variables that are pairwise compatible are merged. Others are refused, unless the first is
generic, and the order does not matter, unless one of them is generic. -/
theorem run_merge (reachable : h.Reachable) (bound : List.Forall₂ h.Resolves inputs vs)
    (command : statement.statement.command = .merge inputs) :
    (vs.Pairwise Compatible → h.Completes now statement) ∧
    ((h.Completes now statement → vs.Pairwise Compatible) ↔
      vs.Pairwise Compatible ∨
        ∀ first, vs.head? = some first → first.entityType ≠ genericType) ∧
    (h.AnyOrder now inputs (h.Completes now statement) ↔
      vs.Pairwise Compatible ∨ ∀ v ∈ vs, v.entityType ≠ genericType) := by
  have here := completes_iff_of_resolves now reachable bound command
  refine ⟨fun fit => here.2 (ledByFirst_of_pairwise fit), ?_, ?_⟩
  · rw [here]
    constructor
    · intro sound
      cases vs with
      | nil => exact .inl .nil
      | cons first rest =>
        by_cases generic : first.entityType = genericType
        · exact .inl (sound (ledByFirst_of_generic generic))
        · exact .inr (fun _ leads => Option.some.inj leads ▸ generic)
    · rintro (fit | concrete) led
      · exact fit
      · exact pairwise_of_ledByFirst led concrete
  · constructor
    · exact clear_of_anyOrder reachable bound
    · intro clear
      rw [here, ledByFirst_iff_pairwise clear]
      exact anyOrder_of_clear reachable bound clear

/-- Resolves one entity that the statement writes down. -/
def newEntity (name id : String) (entityType : Option String) : PlacedStatement :=
  ⟨name ++ " = NEW " ++ ((entityType.map (fun t => t ++ " ")).getD "") ++ "[\x7b\"id\": \"" ++ id ++
      "\"\x7d]", 1, 1, some name, .create entityType [.obj [("id", .str id)]]⟩

/-- The hunt after an entity is bound, if nothing becomes garbage. -/
def withEntity (h : Hunt) (statement : PlacedStatement) (entityType id : String) : Hunt :=
  let table := Table.ofRows entityType [⟨id, Dict.empty⟩]
  h.bound epoch.time statement ((h.scene epoch.time statement).single table [] [])
    ⟨(h.scene epoch.time statement).outputName, table, [], []⟩

def oneRecord : Hunt := ((start .standard Disk.empty).run epoch (newEntity "r" "r1" none)).1

def recordAndProcess : Hunt := (oneRecord.run epoch (newEntity "p" "p1" (some "process"))).1

/-- A hunt with a generic entity, a process and a file. -/
def mixed : Hunt := (recordAndProcess.run epoch (newEntity "f" "f1" (some "file"))).1

theorem reachable_oneRecord : oneRecord.Reachable := .run (.start _ _) _ _

theorem reachable_recordAndProcess : recordAndProcess.Reachable := .run reachable_oneRecord _ _

theorem reachable_mixed : mixed.Reachable := .run reachable_recordAndProcess _ _

theorem oneRecord_eq : oneRecord =
    (start .standard Disk.empty).withEntity (newEntity "r" "r1" none) genericType "r1" :=
  (run_of_current (.start _ _) epoch (newEntity "r" "r1" none) rfl rfl rfl (by decide +kernel)
    (by decide +kernel)).1

theorem recordAndProcess_eq : recordAndProcess =
    oneRecord.withEntity (newEntity "p" "p1" (some "process")) "process" "p1" := by
  have reached := reachable_oneRecord
  rw [recordAndProcess]
  rw [oneRecord_eq] at reached ⊢
  exact (run_of_current reached epoch _ rfl rfl rfl (by decide +kernel) (by decide +kernel)).1

theorem mixed_eq : mixed =
    recordAndProcess.withEntity (newEntity "f" "f1" (some "file")) "file" "f1" := by
  have reached := reachable_recordAndProcess
  rw [mixed]
  rw [recordAndProcess_eq, oneRecord_eq] at reached ⊢
  exact (run_of_current reached epoch _ rfl rfl rfl (by decide +kernel) (by decide +kernel)).1

theorem resolves_mixed : ∃ r p f,
    mixed.Resolves "r" r ∧ mixed.Resolves "p" p ∧ mixed.Resolves "f" f ∧
    r.entityType = genericType ∧ p.entityType = "process" ∧ f.entityType = "file" := by
  rw [mixed_eq, recordAndProcess_eq, oneRecord_eq]
  exact ⟨_, _, _, rfl, rfl, rfl, rfl, rfl, rfl⟩

def mergeOf (inputs : List String) : PlacedStatement :=
  ⟨"m = " ++ " + ".intercalate inputs, 1, 1, some "m", .merge inputs⟩

/-- A process, an entity of no type and a file. -/
theorem run_merge_mixed :
    ∃ vs, List.Forall₂ mixed.Resolves ["p", "r", "f"] vs ∧
      (vs.Pairwise Compatible → mixed.Completes epoch (mergeOf ["p", "r", "f"])) ∧
      ((mixed.Completes epoch (mergeOf ["p", "r", "f"]) → vs.Pairwise Compatible) ↔
        vs.Pairwise Compatible ∨
          ∀ first, vs.head? = some first → first.entityType ≠ genericType) ∧
      (mixed.AnyOrder epoch ["p", "r", "f"] (mixed.Completes epoch (mergeOf ["p", "r", "f"])) ↔
        vs.Pairwise Compatible ∨ ∀ v ∈ vs, v.entityType ≠ genericType) := by
  obtain ⟨r, p, f, boundR, boundP, boundF, -⟩ := resolves_mixed
  have bound : List.Forall₂ mixed.Resolves ["p", "r", "f"] [p, r, f] :=
    .cons boundP (.cons boundR (.cons boundF .nil))
  exact ⟨_, bound, run_merge reachable_mixed bound rfl⟩

/-- With a generic entity in front a process and a file are merged. -/
theorem run_merge_led_by_generic :
    (¬∀ (h : Hunt) (now : Moment) (statement : PlacedStatement) (inputs : List String)
      (vs : List Variable), h.Reachable → List.Forall₂ h.Resolves inputs vs →
      statement.statement.command = .merge inputs → h.Completes now statement →
      vs.Pairwise Compatible) ∧
    ¬∀ (h : Hunt) (now : Moment) (statement : PlacedStatement) (inputs : List String)
      (vs : List Variable), h.Reachable → List.Forall₂ h.Resolves inputs vs →
      statement.statement.command = .merge inputs →
      h.AnyOrder now inputs (h.Completes now statement) := by
  obtain ⟨r, p, f, boundR, boundP, boundF, generic, process, file⟩ := resolves_mixed
  have bound : List.Forall₂ mixed.Resolves ["r", "p", "f"] [r, p, f] :=
    .cons boundR (.cons boundP (.cons boundF .nil))
  have apart : ¬p.Compatible f := by
    rw [Variable.Compatible, process, file]
    decide
  have mixture : ¬[r, p, f].Pairwise Compatible := fun fit =>
    apart ((List.pairwise_cons.1 (List.pairwise_cons.1 fit).2).1 f (List.mem_singleton_self f))
  constructor
  · intro sound
    have completes : mixed.Completes epoch (mergeOf ["r", "p", "f"]) :=
      (completes_iff_of_resolves epoch reachable_mixed bound rfl).2 (ledByFirst_of_generic generic)
    exact mixture (sound mixed epoch _ _ _ reachable_mixed bound rfl completes)
  · intro free
    have same := free mixed epoch (mergeOf ["r", "p", "f"]) _ _ reachable_mixed bound rfl
    rcases clear_of_anyOrder reachable_mixed bound same with fit | concrete
    · exact mixture fit
    · exact concrete r (List.mem_cons_self ..) generic

end Hunt
end ThreatHunt
