import ThreatHunt.Proofs.Keyed
import ThreatHunt.Variables.Lineage
import ThreatHunt.Hunt.Basic

/-!
What lineage leads to. The walk through the lineage meets exactly the nodes to which a chain of
derivations leads from the identifiers that it starts with.
-/

namespace ThreatHunt.Variables

/-- Whether a node has an identifier. -/
def Known (nodes : List Variable) (id : Nat) : Prop := ∃ v ∈ nodes, v.id = id

/-- The identifiers to which lineage leads from some roots. -/
inductive Leads (nodes : List Variable) (roots : List Nat) : Nat → Prop where
  | root {id : Nat} (member : id ∈ roots) : Leads nodes roots id
  | parent {v : Variable} {id : Nat} (met : Leads nodes roots v.id) (member : v ∈ nodes)
      (derived : id ∈ v.lineage) : Leads nodes roots id

variable {nodes : List Variable} {seen queue roots more : List Nat}

theorem Leads.trans {id : Nat} (led : Leads nodes roots id)
    (all : ∀ root ∈ roots, Leads nodes more root) : Leads nodes more id := by
  induction led with
  | root member => exact all _ member
  | parent _ member derived ih => exact .parent ih member derived

theorem Leads.mono {id : Nat} (led : Leads nodes roots id) (all : ∀ root ∈ roots, root ∈ more) :
    Leads nodes more id :=
  led.trans (fun root member => .root (all root member))

theorem leads_of_mem_walk {v : Variable} (met : v ∈ walk nodes seen queue) :
    v ∈ nodes ∧ Leads nodes queue v.id := by
  fun_induction walk nodes seen queue with
  | case1 => exact absurd met List.not_mem_nil
  | case2 seen id queue known ih =>
    obtain ⟨member, led⟩ := ih met
    exact ⟨member, led.mono (fun _ => List.mem_cons_of_mem _)⟩
  | case3 seen id queue fresh w found ih =>
    obtain ⟨present, same⟩ := Keyed.of_find?_eq_some found
    have start : Leads nodes (id :: queue) w.id := .root (by simp [same])
    rcases List.mem_cons.1 met with rfl | later
    · exact ⟨present, start⟩
    · obtain ⟨member, led⟩ := ih later
      refine ⟨member, led.trans (fun root either => ?_)⟩
      rcases List.mem_append.1 either with waiting | derived
      · exact .root (List.mem_cons_of_mem _ waiting)
      · exact .parent start present derived
  | case4 seen id queue fresh absent ih =>
    obtain ⟨member, led⟩ := ih met
    exact ⟨member, led.mono (fun _ => List.mem_cons_of_mem _)⟩

/-- A walk that meets or has seen each node of its queue, and each node behind one of these. -/
structure Covers (nodes : List Variable) (covered : Variable → Prop) (queue : List Nat) : Prop where
  start : ∀ v ∈ nodes, v.id ∈ queue → covered v
  next : ∀ v ∈ nodes, covered v → ∀ w ∈ nodes, w.id ∈ v.lineage → covered w

theorem Covers.led {covered : Variable → Prop} (covers : Covers nodes covered queue)
    {v : Variable} (member : v ∈ nodes) (led : Leads nodes queue v.id) : covered v := by
  generalize known : v.id = id at led
  induction led generalizing v with
  | root present => exact covers.start v member (known ▸ present)
  | parent _ present derived ih =>
    exact covers.next _ present (ih present rfl) v member (known ▸ derived)

theorem Covers.congr {covered covered' : Variable → Prop} (covers : Covers nodes covered more)
    (same : ∀ v ∈ nodes, covered v ↔ covered' v)
    (start : ∀ v ∈ nodes, v.id ∈ queue → v.id ∈ more ∨ covered' v) :
    Covers nodes covered' queue where
  start := fun v member waiting =>
    (start v member waiting).elim (fun later => (same v member).1 (covers.start v member later)) id
  next := fun v member old w other derived =>
    (same w other).1 (covers.next v member ((same v member).2 old) w other derived)

/-- What is behind a seen node is seen or waits. -/
def Closed (nodes : List Variable) (seen queue : List Nat) : Prop :=
  ∀ v ∈ nodes, v.id ∈ seen → ∀ id ∈ v.lineage, id ∈ seen ∨ id ∈ queue

theorem Closed.skip {id : Nat} (closed : Closed nodes seen (id :: queue)) (known : id ∈ seen) :
    Closed nodes seen queue := by
  intro v member present parent derived
  rcases closed v member present parent derived with old | waiting
  · exact .inl old
  · rcases List.mem_cons.1 waiting with rfl | later
    · exact .inl known
    · exact .inr later

/-- A node is seen once all that is behind it waits. -/
theorem Closed.see {id : Nat} (closed : Closed nodes seen (id :: queue))
    (kept : ∀ other ∈ queue, other ∈ more)
    (behind : ∀ v ∈ nodes, v.id = id → ∀ parent ∈ v.lineage, parent ∈ more) :
    Closed nodes (id :: seen) more := by
  intro v member present parent derived
  rcases List.mem_cons.1 present with this | earlier
  · exact .inr (behind v member this parent derived)
  · rcases closed v member earlier parent derived with known | waiting
    · exact .inl (List.mem_cons_of_mem _ known)
    · rcases List.mem_cons.1 waiting with rfl | later
      · exact .inl (List.mem_cons_self ..)
      · exact .inr (kept parent later)

/-- If the nodes behind all seen ones are seen or wait, nothing is left out. -/
theorem covers_walk (distinct : (nodes.map Variable.id).Nodup) (closed : Closed nodes seen queue) :
    Covers nodes (fun v => v.id ∈ seen ∨ v ∈ walk nodes seen queue) queue := by
  fun_induction walk nodes seen queue with
  | case1 seen =>
    refine ⟨fun _ _ present => absurd present List.not_mem_nil, ?_⟩
    rintro v member (known | absent) w other derived
    · exact .inl ((closed v member known w.id derived).resolve_right List.not_mem_nil)
    · exact absurd absent List.not_mem_nil
  | case2 seen id queue known ih =>
    have covers := ih (closed.skip known)
    refine ⟨fun v member present => ?_, covers.next⟩
    rcases List.mem_cons.1 present with same | later
    · exact .inl (same ▸ known)
    · exact covers.start v member later
  | case3 seen id queue fresh met found ih =>
    obtain ⟨present, same⟩ := Keyed.of_find?_eq_some found
    have here : ∀ v ∈ nodes, v.id = id ↔ v = met := fun v member =>
      ⟨fun this => Keyed.eq_of_key distinct member present (this.trans same.symm),
        fun this => this ▸ same⟩
    have covers := ih (closed.see (fun _ => List.mem_append_left _)
      (fun v member this _ derived =>
        List.mem_append_right _ ((here v member).1 this ▸ derived)))
    refine covers.congr (fun v member => ?_) (fun v member waiting => ?_)
    · simp only [List.mem_cons, here v member]
      tauto
    · rcases List.mem_cons.1 waiting with this | later
      · exact .inr (.inr (List.mem_cons.2 (.inl ((here v member).1 this))))
      · exact .inl (List.mem_append_left _ later)
  | case4 seen id queue fresh absent ih =>
    have none := Keyed.of_find?_eq_none absent
    have covers := ih (closed.see (fun _ there => there)
      (fun v member this => absurd this (none v member)))
    refine covers.congr (fun v member => ?_) (fun v member waiting => ?_)
    · simp only [List.mem_cons, none v member, false_or]
    · exact .inl ((List.mem_cons.1 waiting).resolve_left (none v member))

/-- A walk meets exactly the nodes to which lineage leads. -/
theorem mem_walk (distinct : (nodes.map Variable.id).Nodup) {v : Variable} :
    v ∈ walk nodes [] roots ↔ v ∈ nodes ∧ Leads nodes roots v.id := by
  refine ⟨leads_of_mem_walk, fun ⟨member, led⟩ => ?_⟩
  have covers : Covers nodes (fun v => v.id ∈ [] ∨ v ∈ walk nodes [] roots) roots :=
    covers_walk distinct (fun _ _ absurdly => absurd absurdly List.not_mem_nil)
  exact (covers.led member led).resolve_left List.not_mem_nil

end ThreatHunt.Variables

/-!
Binding and forgetting. A node is derived from older nodes that are still there; both binding and
the collection of garbage keep it so, and what is left after a collection is what names lead to.
-/

namespace ThreatHunt.Variables

/-- The identifiers to which the names lead. -/
def LedTo (vs : Variables) (id : Nat) : Prop :=
  Leads vs.nodes (vs.names.entries.map Prod.snd) id

/-- Each node has an identifier of its own, below the next one. Names stand for nodes, and nodes
are derived from older nodes. -/
structure WellFormed (vs : Variables) : Prop where
  distinct : (vs.nodes.map Variable.id).Nodup
  below : ∀ v ∈ vs.nodes, v.id < vs.nextId
  named : ∀ e ∈ vs.names.entries, Known vs.nodes e.2
  older : ∀ v ∈ vs.nodes, ∀ id ∈ v.lineage, id < v.id ∧ Known vs.nodes id

theorem wellFormed_empty : empty.WellFormed :=
  ⟨List.nodup_nil, by simp [empty], by simp [empty, Dict.empty], by simp [empty]⟩

theorem node?_of_mem {vs : Variables} (distinct : (vs.nodes.map Variable.id).Nodup) {v : Variable}
    (member : v ∈ vs.nodes) : vs.node? v.id = some v :=
  Keyed.find?_eq_some distinct member (fun _ _ => decide_eq_true_iff)

/-- The current node of a name is there, and the name stands for its identifier. -/
theorem names_of_find? {vs : Variables} {name : String} {v : Variable}
    (found : vs.find? name = some v) : vs.names.find? name = some v.id ∧ v ∈ vs.nodes := by
  obtain ⟨id, named, node⟩ := Option.bind_eq_some_iff.1 found
  obtain ⟨member, rfl⟩ := Keyed.of_find?_eq_some node
  exact ⟨named, member⟩

theorem mem_of_find? {vs : Variables} {name : String} {v : Variable}
    (found : vs.find? name = some v) : v ∈ vs.nodes := (names_of_find? found).2

theorem resolve_eq_ok {vs : Variables} {name : String} {v : Variable} :
    vs.resolve name = .ok v ↔ vs.find? name = some v := by
  unfold resolve
  cases vs.find? name <;> simp

theorem known_of_mem {vs : Variables} {v : Variable} (member : v ∈ vs.nodes) :
    Known vs.nodes v.id := ⟨v, member, rfl⟩

theorem known_of_ledTo {vs : Variables} (wellFormed : vs.WellFormed) {id : Nat}
    (led : vs.LedTo id) : Known vs.nodes id := by
  induction led with
  | root member =>
    obtain ⟨e, entry, rfl⟩ := List.mem_map.1 member
    exact wellFormed.named e entry
  | parent _ member derived => exact (wellFormed.older _ member _ derived).2

theorem node?_isSome_iff {vs : Variables} {id : Nat} :
    (vs.node? id).isSome = true ↔ Known vs.nodes id := by
  simp [node?, Known]

/-- A binding is refused only for lineage that is not there. -/
theorem bind_of_known {vs : Variables} (now : Instant) {b : Binding}
    (known : ∀ id ∈ b.lineage, Known vs.nodes id) :
    vs.bind now b = .ok (nodeOf vs.nextId now b,
      ⟨vs.nodes ++ [nodeOf vs.nextId now b], vs.names.insert b.name vs.nextId, vs.nextId + 1⟩) := by
  have none : b.lineage.find? (fun id => (vs.node? id).isNone) = none := by
    refine List.find?_eq_none.2 (fun id member => ?_)
    have there := node?_isSome_iff.2 (known id member)
    simp [Option.isNone_iff_eq_none, Option.isSome_iff_ne_none.1 there]
  simp only [bind, none]

/-- Either a binding is refused or all of its lineage is there. -/
theorem refused_or_known (vs : Variables) (now : Instant) (b : Binding) :
    (∃ id, vs.bind now b = .error (.internal (.unknownNode id))) ∨
      ∀ id ∈ b.lineage, Known vs.nodes id := by
  cases missing : b.lineage.find? (fun id => (vs.node? id).isNone) with
  | some id => exact .inl ⟨id, by simp only [bind, missing]⟩
  | none =>
    refine .inr (fun id member => ?_)
    have there := List.find?_eq_none.1 missing id member
    rw [← node?_isSome_iff]
    simpa [Option.isSome_iff_ne_none] using there

theorem Known.append {nodes : List Variable} {id : Nat} (known : Known nodes id)
    (more : List Variable) : Known (nodes ++ more) id := by
  obtain ⟨v, member, same⟩ := known
  exact ⟨v, List.mem_append_left _ member, same⟩

theorem WellFormed.bind {vs : Variables} (wellFormed : vs.WellFormed) (now : Instant) {b : Binding}
    (known : ∀ id ∈ b.lineage, Known vs.nodes id) :
    WellFormed ⟨vs.nodes ++ [nodeOf vs.nextId now b], vs.names.insert b.name vs.nextId,
      vs.nextId + 1⟩ where
  distinct := by
    rw [List.map_append, List.nodup_append]
    refine ⟨wellFormed.distinct, List.nodup_singleton _, fun id old other new same => ?_⟩
    obtain ⟨v, member, rfl⟩ := List.mem_map.1 old
    rw [List.mem_singleton.1 new] at same
    exact absurd (wellFormed.below v member) (same ▸ Nat.lt_irrefl _)
  below := fun v member => by
    rcases List.mem_append.1 member with old | new
    · exact Nat.lt_succ_of_lt (wellFormed.below v old)
    · rw [List.mem_singleton.1 new]
      exact Nat.lt_succ_self _
  named := fun e member => by
    rcases Dict.mem_insertEntry member with rfl | old
    · exact ⟨_, List.mem_append_right _ (List.mem_singleton_self _), rfl⟩
    · exact (wellFormed.named e old).append _
  older := fun v member id derived => by
    rcases List.mem_append.1 member with old | new
    · obtain ⟨less, there⟩ := wellFormed.older v old id derived
      exact ⟨less, there.append _⟩
    · rw [List.mem_singleton.1 new] at derived ⊢
      obtain ⟨w, member, rfl⟩ := known id derived
      exact ⟨wellFormed.below w member, ⟨w, List.mem_append_left _ member, rfl⟩⟩

/-- Bindings whose lineage is there all succeed: each adds its node behind the others. -/
theorem bindAll_of_known (now : Instant) {bs : List Binding} {vs : Variables}
    (wellFormed : vs.WellFormed) (known : ∀ b ∈ bs, ∀ id ∈ b.lineage, Known vs.nodes id) :
    ∃ new, (Hunt.bindAll now vs bs).2 = .ok new ∧
      (Hunt.bindAll now vs bs).1.nodes = vs.nodes ++ new ∧
      (Hunt.bindAll now vs bs).1.WellFormed ∧
      List.Forall₂ (fun b v => v = nodeOf v.id now b) bs new := by
  induction bs generalizing vs with
  | nil => exact ⟨[], rfl, (List.append_nil _).symm, wellFormed, .nil⟩
  | cons b rest ih =>
    have first := known b (List.mem_cons_self ..)
    have bound := bind_of_known now first
    obtain ⟨new, outcome, nodes, kept, each⟩ := ih (wellFormed.bind now first)
      (fun c later id derived => (known c (List.mem_cons_of_mem _ later) id derived).append _)
    simp only [Hunt.bindAll, bound, outcome, nodes]
    exact ⟨_ :: new, rfl, by simp, kept, .cons rfl each⟩

theorem contains_reachable {vs : Variables} (wellFormed : vs.WellFormed) {v : Variable}
    (member : v ∈ vs.nodes) :
    (vs.reachable.map Variable.id).contains v.id = true ↔ vs.LedTo v.id := by
  rw [List.contains_iff_mem]
  constructor
  · intro met
    obtain ⟨w, walked, same⟩ := List.mem_map.1 met
    exact same ▸ ((mem_walk wellFormed.distinct).1 walked).2
  · intro led
    exact List.mem_map_of_mem ((mem_walk wellFormed.distinct).2 ⟨member, led⟩)

/-- The nodes that a collection of garbage keeps are those to which the names lead. -/
theorem mem_collectGarbage {vs : Variables} (wellFormed : vs.WellFormed) {v : Variable} :
    v ∈ vs.collectGarbage.2.nodes ↔ v ∈ vs.nodes ∧ vs.LedTo v.id := by
  simp only [collectGarbage, List.mem_filter]
  exact and_congr_right (contains_reachable wellFormed)

theorem mem_collectGarbage_dead {vs : Variables} (wellFormed : vs.WellFormed) {v : Variable} :
    v ∈ vs.collectGarbage.1 ↔ v ∈ vs.nodes ∧ ¬vs.LedTo v.id := by
  simp only [collectGarbage, List.mem_filter, Bool.not_eq_true', ← Bool.not_eq_true]
  exact and_congr_right (fun member => not_congr (contains_reachable wellFormed member))

/-- A collection of garbage does not change what the names lead to. -/
theorem ledTo_collectGarbage {vs : Variables} (wellFormed : vs.WellFormed) {id : Nat} :
    vs.collectGarbage.2.LedTo id ↔ vs.LedTo id := by
  constructor
  · intro led
    induction led with
    | root member => exact .root member
    | parent _ member derived ih =>
      exact .parent ih ((mem_collectGarbage wellFormed).1 member).1 derived
  · intro led
    induction led with
    | root member => exact .root member
    | parent before member derived ih =>
      exact .parent ih ((mem_collectGarbage wellFormed).2 ⟨member, before⟩) derived

theorem WellFormed.collectGarbage {vs : Variables} (wellFormed : vs.WellFormed) :
    vs.collectGarbage.2.WellFormed := by
  have kept : ∀ id, vs.LedTo id → Known vs.collectGarbage.2.nodes id := by
    intro id led
    obtain ⟨v, member, rfl⟩ := known_of_ledTo wellFormed led
    exact ⟨v, (mem_collectGarbage wellFormed).2 ⟨member, led⟩, rfl⟩
  refine ⟨Keyed.distinct_filter wellFormed.distinct _, fun v member => ?_, fun e entry => ?_,
    fun v member id derived => ?_⟩
  · exact wellFormed.below v ((mem_collectGarbage wellFormed).1 member).1
  · exact kept e.2 (.root (List.mem_map_of_mem entry))
  · obtain ⟨old, led⟩ := (mem_collectGarbage wellFormed).1 member
    exact ⟨(wellFormed.older v old id derived).1, kept id (.parent led old derived)⟩

end ThreatHunt.Variables
