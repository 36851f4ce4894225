import ThreatHunt.Proofs.Hunt.Provenance

/-!
What becomes of the outputs of a module. Each is stored and bound to a name, one after another, and
of those with one name only the last stays: the tables of the others are dropped at once. With an
assignment all names differ. Without one the names of the inputs meet the declared names of those
outputs for which no input is left.
-/

namespace ThreatHunt

open Outcome

section Names

variable {inputs outputs : List String}

theorem outputNames_some (target first : String) (inputs rest : List String) :
    outputNames (some target) inputs (first :: rest) =
      target :: rest.map (fun output => target ++ "_" ++ output) := by
  rw [outputNames, List.mapIdx_cons]
  refine congrArg _ (List.ext_getElem? (fun i => ?_))
  rw [List.getElem?_mapIdx, List.getElem?_map]
  rfl

/-- Without a target the outputs take the names of the inputs, and those that are left their own. -/
theorem outputNames_none (inputs outputs : List String) :
    outputNames none inputs outputs =
      inputs.take outputs.length ++ outputs.drop inputs.length := by
  induction outputs generalizing inputs with
  | nil => simp [outputNames]
  | cons output rest ih =>
    cases inputs with
    | nil =>
      refine List.ext_getElem? (fun i => ?_)
      rw [outputNames, List.getElem?_mapIdx]
      simp
    | cons input others =>
      have next := ih others
      rw [outputNames] at next ⊢
      rw [List.mapIdx_cons, List.length_cons, List.length_cons, List.take_succ_cons,
        List.drop_succ_cons, List.cons_append, ← next]
      rfl

theorem nodup_outputNames_iff (apart : inputs.Nodup) (declared : outputs.Nodup)
    (target : Option String) :
    (outputNames target inputs outputs).Nodup ↔
      target.isSome = true ∨ ∀ output ∈ outputs.drop inputs.length, output ∉ inputs := by
  cases target with
  | some target =>
    refine ⟨fun _ => .inl rfl, fun _ => ?_⟩
    cases outputs with
    | nil => exact List.nodup_nil
    | cons first rest =>
      rw [outputNames_some, List.nodup_cons]
      constructor
      · intro repeated
        obtain ⟨output, _, same⟩ := List.mem_map.1 repeated
        have longer := congrArg String.length same
        simp only [String.length_append] at longer
        have one : "_".length = 1 := rfl
        omega
      · exact (List.nodup_cons.1 declared).2.map (fun a b same =>
          (String.append_right_inj _).1 same)
  | none =>
    rw [outputNames_none, List.nodup_append']
    have first : (inputs.take outputs.length).Nodup := apart.sublist (List.take_sublist _ _)
    have own : (outputs.drop inputs.length).Nodup := declared.sublist (List.drop_sublist _ _)
    constructor
    · rintro ⟨_, _, disjoint⟩
      refine .inr (fun output left taken => ?_)
      have more : inputs.length ≤ outputs.length := by
        by_contra fewer
        rw [List.drop_of_length_le (by omega)] at left
        exact List.not_mem_nil left
      rw [List.take_of_length_le more] at disjoint
      exact disjoint taken left
    · rintro (absurdly | free)
      · nomatch absurdly
      · exact ⟨first, own, fun name taken left => free name left (List.mem_of_mem_take taken)⟩

end Names

namespace Hunt

open Variables (Known)

variable {h : Hunt} {now : Instant} {statement : PlacedStatement} {product : Product}
  {completion : Completion} {made : List StoredTable} {new : List Variable} {i : Nat}
  {n : NewTable} {handle : TableHandle} {v : Variable}

theorem names_bindingsOf (statement : PlacedStatement) {handles : List TableHandle}
    (lengths : handles.length = product.tables.length) :
    (bindingsOf statement product handles).map Binding.name =
      product.tables.map NewTable.name := by
  rw [bindingsOf, List.map_map]
  calc (product.tables.zip handles).map (Binding.name ∘ fun t => bindingOf statement t.1 t.2)
    _ = ((product.tables.zip handles).map Prod.fst).map NewTable.name := by
      rw [List.map_map]
      rfl
    _ = product.tables.map NewTable.name := by
      rw [List.map_fst_zip (Nat.le_of_eq lengths.symm)]

/-- Whether a name stands for the table that is stored under a handle. -/
def Shows (h : Hunt) (name : String) (handle : TableHandle) (t : Table) : Prop :=
  ∃ v, h.vars.find? name = some v ∧ v.handle = handle ∧ h.table name = .ok t

namespace Committed

/-- Names lead to a new node only if its own name stands for it: nothing is derived from it yet. -/
theorem ledTo_iff (c : h.Committed now statement product completion made new)
    (wellFormed : h.vars.WellFormed) (faithful : h.vars.Faithful)
    (derived : product.DerivedIn h.vars) (member : v ∈ new) :
    (h.binds now statement product made).1.LedTo v.id ↔
      (h.binds now statement product made).1.names.find? v.name = some v.id := by
  have known := bindingsOf_known derived statement (made.map StoredTable.handle)
  have after : (h.binds now statement product made).1.Faithful :=
    Variables.faithful_bindAll faithful wellFormed now
      (bindingsOf statement product (made.map StoredTable.handle))
  have there : v ∈ (h.binds now statement product made).1.nodes :=
    c.nodes ▸ List.mem_append_right _ member
  have unknown : ¬Known h.vars.nodes v.id := by
    rintro ⟨w, old, same⟩
    have distinct := c.wellFormed.distinct
    rw [c.nodes, List.map_append, List.nodup_append'] at distinct
    exact distinct.2.2 (same ▸ List.mem_map_of_mem old) (List.mem_map_of_mem member)
  constructor
  · intro led
    generalize id : v.id = k at led
    cases led with
    | root root =>
      obtain ⟨e, entry, rfl⟩ := List.mem_map.1 root
      rw [after e entry v there id]
      exact Dict.find?_of_mem entry
    | @parent w _ met inside derives =>
      subst id
      rcases List.mem_append.1 (c.nodes ▸ inside) with old | young
      · exact absurd (wellFormed.older w old _ derives).2 unknown
      · obtain ⟨b, asked, this⟩ := exists_of_forall₂ c.each young
        rw [this] at derives
        exact absurd (known b asked _ derives) unknown
  · intro stands
    exact .root (List.mem_map_of_mem (Dict.mem_of_find? stands))

/-- Names lead to a new node just if no table behind its own has its name. -/
theorem ledTo_iff_last (c : h.Committed now statement product completion made new)
    (wellFormed : h.vars.WellFormed) (faithful : h.vars.Faithful)
    (derived : product.DerivedIn h.vars) (bound : new[i]? = some v) :
    (h.binds now statement product made).1.LedTo v.id ↔
      v.name ∉ (product.tables.map NewTable.name).drop (i + 1) := by
  have lengths : (made.map StoredTable.handle).length = product.tables.length := by
    rw [List.length_map, c.stored.length_eq]
  rw [c.ledTo_iff wellFormed faithful derived (List.mem_of_getElem? bound),
    ← names_bindingsOf statement lengths]
  exact Variables.names_bindAll_iff now c.bound bound

/-- The node of a table that was made. -/
theorem node (c : h.Committed now statement product completion made new)
    (table : product.tables[i]? = some n)
    (there : (made.map StoredTable.handle)[i]? = some handle) :
    ∃ v, made[i]? = some (Store.stored handle n.table) ∧ new[i]? = some v ∧
      v = Variables.nodeOf v.id now (bindingOf statement n handle) := by
  obtain ⟨u, here, stored⟩ := getElem?_of_forall₂ c.stored table
  have own : u.handle = handle := by
    rw [List.getElem?_map, here] at there
    exact Option.some.inj there
  have pair : (product.tables.zip (made.map StoredTable.handle))[i]? = some (n, handle) :=
    List.getElem?_zip_eq_some.2 ⟨table, there⟩
  have binding : (bindingsOf statement product (made.map StoredTable.handle))[i]? =
      some (bindingOf statement n handle) := by
    rw [bindingsOf, List.getElem?_map, pair]
    rfl
  obtain ⟨v, bound, node⟩ := getElem?_of_forall₂ c.each binding
  exact ⟨v, here.trans (congrArg some (own ▸ stored)), bound, node⟩

theorem paired (c : h.Committed now statement product completion made new) (sound : h.Sound) :
    List.Forall₂ Stands (h.binds now statement product made).1.nodes
      (createTables h.store product.tables).1.tables := by
  rw [c.nodes, c.added.tables]
  exact List.rel_append sound.paired (stands_of_bound c.stored c.each)

/-- A table stays if no table behind it has its name, and the name stands for it. -/
theorem shows (c : h.Committed now statement product completion made new) (sound : h.Sound)
    (faithful : h.vars.Faithful) (derived : product.DerivedIn h.vars)
    (after : (h.commit now statement product).1.Sound) (table : product.tables[i]? = some n)
    (there : (made.map StoredTable.handle)[i]? = some handle)
    (last : n.name ∉ (product.tables.map NewTable.name).drop (i + 1)) :
    (h.commit now statement product).1.Shows n.name handle
      (Table.ofSchema n.table.schema (Table.conformRows n.table.schema n.table.rows)) := by
  obtain ⟨v, here, bound, node⟩ := c.node table there
  have name : v.name = n.name := by rw [node]; rfl
  have owned : v.handle = handle := by rw [node]; rfl
  have present := List.mem_of_getElem? bound
  have led := (c.ledTo_iff_last sound.wellFormed faithful derived bound).2 (name ▸ last)
  have named := (c.ledTo_iff sound.wellFormed faithful derived present).1 led
  have member := (Variables.mem_collectGarbage c.wellFormed).2
    ⟨c.nodes ▸ List.mem_append_right _ present, led⟩
  rw [c.after] at after ⊢
  have found := after.wellFormed.find?_eq_some_iff.2 ⟨named, member⟩
  obtain ⟨t, read, shape⟩ := after.stored member
  have same : t = Store.stored handle n.table := Keyed.eq_of_key c.added.fresh.distinct
    (mem_tables_of_collectGarbage (List.mem_of_find?_eq_some read))
    (c.added.tables ▸ List.mem_append_right _ (List.mem_of_getElem? here))
    (shape.handle.trans owned)
  rw [name] at found
  refine ⟨v, found, owned, ?_⟩
  rw [table_of_stored found read, same, node]
  rfl

/-- A table is dropped if a table behind it has its name. -/
theorem dropped (c : h.Committed now statement product completion made new) (sound : h.Sound)
    (faithful : h.vars.Faithful) (derived : product.DerivedIn h.vars)
    (table : product.tables[i]? = some n)
    (there : (made.map StoredTable.handle)[i]? = some handle)
    (repeated : n.name ∈ (product.tables.map NewTable.name).drop (i + 1)) :
    (h.commit now statement product).1.store.find? handle = none := by
  obtain ⟨v, here, bound, node⟩ := c.node table there
  have name : v.name = n.name := by rw [node]; rfl
  have owned : v.handle = handle := by rw [node]; rfl
  have gone : handle ∈ droppedHandles (h.binds now statement product made).1 := by
    rw [← owned, mem_droppedHandles c.wellFormed
      (handles_of_paired (c.paired sound) ▸ c.added.fresh.distinct)
      (c.nodes ▸ List.mem_append_right _ (List.mem_of_getElem? bound)),
      c.ledTo_iff_last sound.wellFormed faithful derived bound, name]
    exact not_not_intro repeated
  rw [c.after]
  refine List.find?_eq_none.2 (fun t member same => ?_)
  exact (mem_tables_collectGarbage.1 member).2 (beq_iff_eq.1 same ▸ gone)

end Committed

/-- Of tables that are bound to names one after another the last one of a name stays, and those that
another one with their name follows are dropped. -/
structure KeepsLast (h : Hunt) (names : List String) (tables : List Table)
    (handles : List TableHandle) : Prop where
  kept : ∀ (i : Nat) name t handle, names[i]? = some name → tables[i]? = some t →
    handles[i]? = some handle → name ∉ names.drop (i + 1) →
    h.Shows name handle (Table.ofSchema t.schema (Table.conformRows t.schema t.rows))
  lost : ∀ (i : Nat) name handle, names[i]? = some name → handles[i]? = some handle →
    name ∈ names.drop (i + 1) → h.store.find? handle = none

/-- The handles that the store gives to the next tables. -/
def nextHandles (h : Hunt) (count : Nat) : List TableHandle :=
  (List.range' (h.store.created + 1) count).map TableHandle.mk

theorem keepsLast_of_commit (sound : h.Sound) (faithful : h.vars.Faithful)
    (derived : product.DerivedIn h.vars)
    (committed : (h.commit now statement product).2 = .ok completion) :
    (h.commit now statement product).1.KeepsLast (product.tables.map NewTable.name)
        (product.tables.map NewTable.table) (h.nextHandles product.tables.length) ∧
      completion.bound.map VariableSummary.name = product.tables.map NewTable.name := by
  have after := commit_sound sound derived committed
  obtain ⟨made, new, c⟩ := committed_of_ok sound.fresh sound.wellFormed derived committed
  rw [nextHandles, ← c.handles]
  refine ⟨⟨?_, ?_⟩, ?_⟩
  · intro i _ _ handle called holds there last
    obtain ⟨n, table, rfl⟩ := Option.map_eq_some_iff.1 ((List.getElem?_map ..).symm.trans called)
    rw [List.getElem?_map, table] at holds
    obtain rfl := Option.some.inj holds
    exact c.shows sound faithful derived after table there last
  · intro i _ handle called there repeated
    obtain ⟨n, table, rfl⟩ := Option.map_eq_some_iff.1 ((List.getElem?_map ..).symm.trans called)
    exact c.dropped sound faithful derived table there repeated
  · rw [c.listed, List.map_map, ← names_bindingsOf statement
      ((List.length_map _).trans c.stored.length_eq.symm)]
    exact map_eq_of_forall₂ c.each (fun b v node => by rw [node]; rfl)

end Hunt

/-- Names differ if none comes again behind its place. -/
theorem nodup_iff_drop {names : List String} :
    names.Nodup ↔ ∀ (i : Nat) name, names[i]? = some name → name ∉ names.drop (i + 1) := by
  induction names with
  | nil => simp
  | cons first rest ih =>
    rw [List.nodup_cons, ih]
    constructor
    · rintro ⟨apart, others⟩ i name there
      cases i with
      | zero => exact Option.some.inj there ▸ apart
      | succ i => exact others i name there
    · intro all
      exact ⟨all 0 first rfl, fun i => all (i + 1)⟩

theorem Hunt.not_shows_of_dropped {h : Hunt} {name : String} {handle : TableHandle} {t : Table}
    (dropped : h.store.find? handle = none) : ¬h.Shows name handle t := by
  rintro ⟨v, found, own, read⟩
  obtain ⟨_, same, rest⟩ := bind_eq_ok.1 read
  obtain rfl := Except.ok.inj ((Variables.resolve_eq_ok.2 found).symm.trans same)
  simp only [Store.table, Store.get, own, dropped] at rest
  cases rest

/-- Every table is what some name stands for just if all names differ. -/
theorem Hunt.KeepsLast.nodup_iff {h : Hunt} {names : List String} {tables : List Table}
    {handles : List TableHandle} (keeps : h.KeepsLast names tables handles)
    (named : names.length = handles.length) (held : tables.length = handles.length) :
    (∀ handle ∈ handles, ∃ name t, h.Shows name handle t) ↔ names.Nodup := by
  rw [nodup_iff_drop]
  constructor
  · intro shown i name there repeated
    have less : i < handles.length := named ▸ (List.getElem?_eq_some_iff.1 there).1
    have dropped := keeps.lost i name handles[i] there (List.getElem?_eq_getElem less) repeated
    obtain ⟨_, _, shows⟩ := shown handles[i] (List.getElem_mem less)
    exact not_shows_of_dropped dropped shows
  · intro last handle member
    obtain ⟨i, less, rfl⟩ := List.getElem_of_mem member
    have own : i < names.length := named.symm ▸ less
    have holds : i < tables.length := held.symm ▸ less
    exact ⟨names[i], _, keeps.kept i names[i] tables[i] handles[i] (List.getElem?_eq_getElem own)
      (List.getElem?_eq_getElem holds) (List.getElem?_eq_getElem less)
      (last i _ (List.getElem?_eq_getElem own))⟩

namespace Hunt

variable {h : Hunt} {now : Moment} {statement : PlacedStatement} {module : String}
  {inputs : List String} {params : List (String × Value)} {m : Module} {completion : Completion}

/-- Whether a module that is applied gives certain tables for its outputs. -/
def ModuleGives (h : Hunt) (time : Instant) (statement : PlacedStatement) (m : Module)
    (inputs : List String) (params : List (String × Value)) (tables : List Table) : Prop :=
  ∃ operands given, (h.scene time statement).moduleOperands inputs = .ok operands ∧
    m.run h.exchange.count ⟨operands.map Prod.snd, Dict.ofList params⟩ = .given given ∧
    List.Forall₂ (fun o t => ∃ raw, given.tables.find? o.name = some raw ∧ o.conform raw = .ok t)
      m.outputs tables

theorem length_outputNames (target : Option String) (inputs outputs : List String) :
    (outputNames target inputs outputs).length = outputs.length :=
  List.length_mapIdx

/-- The tables of a module are made for its outputs in order, under their names. -/
theorem tables_moduleProduct (s : Scene) (module : String) (inputs : List String)
    (lineage : List Nat) {collected : List (OutputSpec × Table)} (millis : Nat)
    (declared : collected.map Prod.fst = m.outputs) :
    (s.moduleProduct module inputs lineage (collected, millis)).tables.map NewTable.name =
        outputNames s.statement.statement.output inputs (m.outputs.map OutputSpec.name) ∧
      (s.moduleProduct module inputs lineage (collected, millis)).tables.map NewTable.table =
        collected.map Prod.snd := by
  have named : collected.map (fun o => o.1.name) = m.outputs.map OutputSpec.name := by
    rw [← declared, List.map_map]
    rfl
  have lengths : (outputNames s.statement.statement.output inputs
      (m.outputs.map OutputSpec.name)).length = collected.length := by
    rw [length_outputNames, ← named, List.length_map]
  simp only [Scene.moduleProduct, named, List.map_map]
  constructor
  · calc ((outputNames s.statement.statement.output inputs
          (m.outputs.map OutputSpec.name)).zip collected).map Prod.fst
      _ = outputNames s.statement.statement.output inputs (m.outputs.map OutputSpec.name) :=
        List.map_fst_zip (Nat.le_of_eq lengths)
  · calc ((outputNames s.statement.statement.output inputs
          (m.outputs.map OutputSpec.name)).zip collected).map (Prod.snd ∘ Prod.snd)
      _ = (((outputNames s.statement.statement.output inputs
          (m.outputs.map OutputSpec.name)).zip collected).map Prod.snd).map Prod.snd :=
        (List.map_map ..).symm
      _ = collected.map Prod.snd := by
        rw [List.map_snd_zip (Nat.le_of_eq lengths.symm)]

/-- What is left of the outputs of a module that was applied with success. -/
theorem keepsLast_of_applied (reachable : h.Reachable)
    (applies : statement.statement.command = .apply module inputs params)
    (registered : h.modules.find? module = some m)
    (completed : (h.run now statement).2 = .ok completion) :
    let names := outputNames statement.statement.output inputs (m.outputs.map OutputSpec.name)
    ∃ tables, h.ModuleGives now.time statement m inputs params tables ∧
      (m.outputs.map OutputSpec.name).Nodup ∧ tables.length = m.outputs.length ∧
      completion.bound.map VariableSummary.name = names ∧
      (h.run now statement).1.KeepsLast names tables (h.nextHandles m.outputs.length) := by
  obtain ⟨plan, product, exchange, disk, planned, answered, derived, sound, same⟩ :=
    commit_of_completed reachable.sound completed
  rw [same] at completed ⊢
  have applied : (h.scene now.time statement).planApply module inputs params = .ok plan := by
    have command : (h.scene now.time statement).statement.statement.command = _ := applies
    unfold Scene.plan at planned
    rw [command] at planned
    exact planned
  obtain ⟨_, found, operands, read, _, _, rfl⟩ := Scene.planApply_eq_ok.1 applied
  obtain rfl := Option.some.inj (registered.symm.trans found)
  obtain ⟨given, collected, run, taken, rfl⟩ := answered_of_invoke answered
  obtain ⟨specs, distinct, each⟩ := OutputSpec.collect_eq_ok taken
  obtain ⟨names, tables⟩ := tables_moduleProduct (h.scene now.time statement) module inputs
    (Scene.addNodes [] (operands.map (fun o => o.1.id))) given.millis specs
  obtain ⟨keeps, listed⟩ := keepsLast_of_commit sound reachable.faithful derived completed
  rw [names] at listed
  refine ⟨collected.map Prod.snd, ⟨operands, given, read, run, ?_⟩, distinct, ?_, listed, ?_⟩
  · rw [← specs, List.forall₂_map_left_iff, List.forall₂_map_right_iff]
    exact List.forall₂_same.2 each
  · rw [← specs, List.length_map, List.length_map]
  · have count := congrArg List.length names
    rw [List.length_map, length_outputNames, List.length_map] at count
    rw [names, tables, count] at keeps
    exact keeps

/-- A module that was applied with success has bound its outputs one after another. Their names
differ, and no output is lost, just if there is an assignment or no output for which no input is left
has the name of an input. -/
theorem run_apply (reachable : h.Reachable)
    (applies : statement.statement.command = .apply module inputs params)
    (registered : h.modules.find? module = some m) (apart : inputs.Nodup)
    (completed : (h.run now statement).2 = .ok completion) :
    let names := outputNames statement.statement.output inputs (m.outputs.map OutputSpec.name)
    let handles := h.nextHandles m.outputs.length
    let free := statement.statement.output.isSome = true ∨
      ∀ o ∈ m.outputs.drop inputs.length, o.name ∉ inputs
    ∃ tables, h.ModuleGives now.time statement m inputs params tables ∧
      completion.bound.map VariableSummary.name = names ∧
      (h.run now statement).1.KeepsLast names tables handles ∧ (names.Nodup ↔ free) ∧
      ((∀ handle ∈ handles, ∃ name t, (h.run now statement).1.Shows name handle t) ↔ free) := by
  intro names handles free
  obtain ⟨tables, gives, declared, held, listed, keeps⟩ :=
    keepsLast_of_applied reachable applies registered completed
  have differ : names.Nodup ↔ free := by
    rw [nodup_outputNames_iff apart declared, ← List.map_drop, List.forall_mem_map]
  have count : (h.nextHandles m.outputs.length).length = m.outputs.length := by
    rw [nextHandles, List.length_map, List.length_range']
  have named : names.length = handles.length := by
    rw [length_outputNames, List.length_map, count]
  exact ⟨tables, gives, listed, keeps, differ,
    (keeps.nodup_iff named (held.trans count.symm)).trans differ⟩

/-- A module with two outputs, of which the second has a given name. -/
def scorer (extra : String) : Module where
  name := "score"
  input := ⟨1, none, []⟩
  outputs := [⟨"first", none, []⟩, ⟨extra, none, []⟩]
  timeout := none
  run := fun _ _ => .given ⟨Dict.ofList
    [("first", Table.ofRows "process" [⟨"f1", Dict.ofList [("name", .str "first")]⟩]),
      (extra, Table.ofRows "process" [⟨"s1", Dict.ofList [("name", .str "second")]⟩])], 0⟩

def scoring (extra : String) : Hunt := recorded.registerModule (scorer extra)

theorem reachable_scoring (extra : String) : (scoring extra).Reachable :=
  reachable_recorded.registerModule _

def applyScore : PlacedStatement :=
  ⟨"APPLY score ON a", 1, 1, none, .apply "score" ["a"] []⟩

theorem run_apply_extra :
    ∃ completion, ((scoring "extra").run epoch applyScore).2 = .ok completion ∧
      completion.bound.map VariableSummary.name = ["a", "extra"] ∧
      ∀ handle ∈ (scoring "extra").nextHandles 2, ∃ name t,
        ((scoring "extra").run epoch applyScore).1.Shows name handle t := by
  have completed : ∃ completion, ((scoring "extra").run epoch applyScore).2 = .ok completion := by
    rw [scoring, recorded_eq]
    exact ⟨_, rfl⟩
  have registered : (scoring "extra").modules.find? "score" = some (scorer "extra") := by
    rw [scoring, recorded_eq]
    rfl
  obtain ⟨completion, completed⟩ := completed
  obtain ⟨_, _, listed, _, _, lossless⟩ := run_apply (reachable_scoring "extra") rfl registered
    (List.nodup_singleton "a") completed
  refine ⟨completion, completed, listed.trans rfl, lossless.2 (.inr ?_)⟩
  decide

/-- An output for which no input is left and that has the name of an input takes the name from the
output that the input was left for, whose table is gone. -/
theorem run_apply_loses :
    ((scorer "a").outputs.map OutputSpec.name).Nodup ∧ (scoring "a").Reachable ∧
      ∃ completion, ((scoring "a").run epoch applyScore).2 = .ok completion ∧
        completion.bound.map VariableSummary.name = ["a", "a"] ∧
        ∃ handle ∈ (scoring "a").nextHandles 2, ∀ name t,
          ¬((scoring "a").run epoch applyScore).1.Shows name handle t := by
  have completed : ∃ completion, ((scoring "a").run epoch applyScore).2 = .ok completion := by
    rw [scoring, recorded_eq]
    exact ⟨_, rfl⟩
  have registered : (scoring "a").modules.find? "score" = some (scorer "a") := by
    rw [scoring, recorded_eq]
    rfl
  obtain ⟨completion, completed⟩ := completed
  obtain ⟨_, _, _, _, listed, keeps⟩ :=
    keepsLast_of_applied (reachable_scoring "a") rfl registered completed
  have dropped := keeps.lost 0 "a" ⟨(scoring "a").store.created + 1⟩ rfl rfl (.head _)
  exact ⟨by decide, reachable_scoring "a", completion, completed, listed.trans rfl, _, .head _,
    fun name t => not_shows_of_dropped dropped⟩

end Hunt
end ThreatHunt
