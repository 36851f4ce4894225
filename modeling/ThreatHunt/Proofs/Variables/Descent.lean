import ThreatHunt.Proofs.Table.Merging
import ThreatHunt.Proofs.Variables.Lineage

/-!
Distances in the lineage. The walk goes through the lineage layer by layer: it meets each node once,
and meets the nodes in the order of their distance from where it starts.
-/

namespace ThreatHunt.Variables

variable {nodes : List Variable} {roots seen near far queue : List Nat} {n : Nat}

/-- The identifiers to which a chain of so many derivations leads from some roots. -/
inductive LeadsIn (nodes : List Variable) (roots : List Nat) : Nat → Nat → Prop where
  | root {id : Nat} (member : id ∈ roots) : LeadsIn nodes roots 0 id
  | parent {n : Nat} {v : Variable} {id : Nat} (met : LeadsIn nodes roots n v.id)
      (member : v ∈ nodes) (derived : id ∈ v.lineage) : LeadsIn nodes roots (n + 1) id

theorem leads_iff_leadsIn {id : Nat} : Leads nodes roots id ↔ ∃ n, LeadsIn nodes roots n id := by
  constructor
  · intro led
    induction led with
    | root member => exact ⟨0, .root member⟩
    | parent _ member derived ih =>
      obtain ⟨n, chain⟩ := ih
      exact ⟨n + 1, .parent chain member derived⟩
  · rintro ⟨n, chain⟩
    induction chain with
    | root member => exact .root member
    | parent _ member derived ih => exact .parent ih member derived

/-- The chains from a node are those from its lineage with one derivation more. -/
theorem leadsIn_succ_iff (distinct : (nodes.map Variable.id).Nodup) {v : Variable}
    (member : v ∈ nodes) {id : Nat} :
    LeadsIn nodes [v.id] (n + 1) id ↔ LeadsIn nodes v.lineage n id := by
  constructor
  · intro chain
    generalize length : n + 1 = m at chain
    induction chain generalizing n with
    | root => exact absurd length (Nat.succ_ne_zero n)
    | @parent k w id met present derived ih =>
      obtain rfl : n = k := Nat.succ.inj length
      cases met with
      | root here =>
        have same := Keyed.eq_of_key distinct present member (List.mem_singleton.1 here)
        exact .root (same ▸ derived)
      | parent before other between => exact .parent (ih rfl) present derived
  · intro chain
    induction chain with
    | root derived => exact .parent (.root (List.mem_singleton_self _)) member derived
    | parent _ present derived ih => exact .parent ih present derived

/-- The length of the shortest chain of derivations to an identifier. -/
structure Distance (nodes : List Variable) (roots : List Nat) (n id : Nat) : Prop where
  chain : LeadsIn nodes roots n id
  least : ∀ m, LeadsIn nodes roots m id → n ≤ m

theorem Distance.ofLineage (distinct : (nodes.map Variable.id).Nodup) {v : Variable}
    (member : v ∈ nodes) {id : Nat} (apart : id ≠ v.id) (distance : Distance nodes v.lineage n id) :
    Distance nodes [v.id] (n + 1) id where
  chain := (leadsIn_succ_iff distinct member).2 distance.chain
  least := by
    rintro (_ | m) chain
    · cases chain with
      | root here => exact absurd (List.mem_singleton.1 here) apart
    · exact Nat.succ_le_succ (distance.least m ((leadsIn_succ_iff distinct member).1 chain))

/-- A walk between two layers: all that is nearer than `n` is seen, `near` holds what is left of the
layer at `n`, and `far` waits behind it at the next one. -/
structure Frontier (nodes : List Variable) (roots : List Nat) (n : Nat)
    (seen near far : List Nat) : Prop where
  nearer : ∀ m < n, ∀ id, LeadsIn nodes roots m id → id ∈ seen
  layer : ∀ id, LeadsIn nodes roots n id → id ∈ seen ∨ id ∈ near
  here : ∀ id ∈ near, LeadsIn nodes roots n id
  next : ∀ id ∈ far, LeadsIn nodes roots (n + 1) id
  behind : Closed nodes seen (near ++ far)

theorem frontier_start (nodes : List Variable) (roots : List Nat) :
    Frontier nodes roots 0 [] roots [] where
  nearer := fun m below => absurd below (Nat.not_lt_zero m)
  layer := fun id chain => by
    cases chain with
    | root member => exact .inr member
  here := fun _ member => .root member
  next := fun _ member => absurd member List.not_mem_nil
  behind := fun _ _ present => absurd present List.not_mem_nil

/-- Once a layer is done, what waits behind it is the whole next layer. -/
theorem Frontier.shift (frontier : Frontier nodes roots n seen [] far) :
    Frontier nodes roots (n + 1) seen far [] := by
  have done : ∀ id, LeadsIn nodes roots n id → id ∈ seen := fun id chain =>
    (frontier.layer id chain).resolve_right List.not_mem_nil
  constructor
  case nearer =>
    intro m below id chain
    rcases Nat.lt_succ_iff_lt_or_eq.1 below with less | rfl
    · exact frontier.nearer m less id chain
    · exact done id chain
  case layer =>
    intro id chain
    cases chain with
    | parent met member derived => exact frontier.behind _ member (done _ met) id derived
  case here => exact frontier.next
  case next => exact fun _ member => absurd member List.not_mem_nil
  case behind => simpa using frontier.behind

/-- What a walk turns to next is in the layer that it is in or begins the next one. -/
theorem Frontier.head {id : Nat} (frontier : Frontier nodes roots n seen near far)
    (waiting : id :: queue = near ++ far) :
    ∃ m near' far', n ≤ m ∧ queue = near' ++ far' ∧
      Frontier nodes roots m seen (id :: near') far' := by
  cases near with
  | nil =>
    obtain rfl : id :: queue = far := waiting
    exact ⟨n + 1, queue, [], Nat.le_succ n, (List.append_nil queue).symm, frontier.shift⟩
  | cons first rest =>
    obtain ⟨rfl, rfl⟩ := List.cons.inj waiting
    exact ⟨n, rest, far, Nat.le_refl n, rfl, frontier⟩

theorem Frontier.skip {id : Nat} (frontier : Frontier nodes roots n seen (id :: near) far)
    (known : id ∈ seen) : Frontier nodes roots n seen near far where
  nearer := frontier.nearer
  layer := fun other chain => by
    rcases frontier.layer other chain with old | waiting
    · exact .inl old
    · rcases List.mem_cons.1 waiting with rfl | later
      · exact .inl known
      · exact .inr later
  here := fun other member => frontier.here other (List.mem_cons_of_mem _ member)
  next := frontier.next
  behind := frontier.behind.skip known

/-- An identifier is seen once the identifiers behind it wait, one layer further on. -/
theorem Frontier.see {id : Nat} (frontier : Frontier nodes roots n seen (id :: near) far)
    (behind : List Nat) (all : ∀ v ∈ nodes, v.id = id → ∀ parent ∈ v.lineage, parent ∈ behind)
    (only : ∀ parent ∈ behind, ∃ v ∈ nodes, v.id = id ∧ parent ∈ v.lineage) :
    Frontier nodes roots n (id :: seen) near (far ++ behind) where
  nearer := fun m below other chain => List.mem_cons_of_mem _ (frontier.nearer m below other chain)
  layer := fun other chain => by
    rcases frontier.layer other chain with old | waiting
    · exact .inl (List.mem_cons_of_mem _ old)
    · rcases List.mem_cons.1 waiting with rfl | later
      · exact .inl (List.mem_cons_self ..)
      · exact .inr later
  here := fun other member => frontier.here other (List.mem_cons_of_mem _ member)
  next := fun other member => by
    rcases List.mem_append.1 member with old | new
    · exact frontier.next other old
    · obtain ⟨v, present, rfl, derived⟩ := only other new
      exact .parent (frontier.here v.id (List.mem_cons_self ..)) present derived
  behind := by
    apply frontier.behind.see
    · intro other member
      rw [← List.append_assoc]
      exact List.mem_append_left _ member
    · intro v member same parent derived
      exact List.mem_append_right _ (List.mem_append_right _ (all v member same parent derived))

/-- What is in the layer of a walk and not seen yet is as far away as the layer. -/
theorem Frontier.distance {id : Nat} (frontier : Frontier nodes roots n seen (id :: near) far)
    (fresh : id ∉ seen) : Distance nodes roots n id where
  chain := frontier.here id (List.mem_cons_self ..)
  least := fun m chain => by
    by_contra farther
    exact fresh (frontier.nearer m (Nat.lt_of_not_le farther) id chain)

/-- A walk meets nodes in the order of their distance, none nearer than its own layer. -/
theorem exists_distances (distinct : (nodes.map Variable.id).Nodup)
    (frontier : Frontier nodes roots n seen near far) (waiting : queue = near ++ far) :
    ∃ distances : List Nat,
      List.Forall₂ (fun v d => Distance nodes roots d v.id) (walk nodes seen queue) distances ∧
      distances.Pairwise (· ≤ ·) ∧ ∀ d ∈ distances, n ≤ d := by
  fun_induction walk nodes seen queue generalizing n near far with
  | case1 => exact ⟨[], .nil, .nil, fun _ absent => absurd absent List.not_mem_nil⟩
  | case2 seen id queue known ih =>
    obtain ⟨m, near, far, later, rest, frontier⟩ := frontier.head waiting
    obtain ⟨distances, each, sorted, above⟩ := ih (frontier.skip known) rest
    exact ⟨distances, each, sorted, fun d member => Nat.le_trans later (above d member)⟩
  | case3 seen id queue fresh v found ih =>
    obtain ⟨m, near, far, later, rfl, frontier⟩ := frontier.head waiting
    obtain ⟨present, same⟩ := Keyed.of_find?_eq_some found
    have next := frontier.see v.lineage
      (fun w member this parent derived =>
        Keyed.eq_of_key distinct member present (this.trans same.symm) ▸ derived)
      (fun parent derived => ⟨v, present, same, derived⟩)
    obtain ⟨distances, each, sorted, above⟩ := ih next (List.append_assoc ..)
    refine ⟨m :: distances, .cons (same ▸ frontier.distance fresh) each,
      List.pairwise_cons.2 ⟨above, sorted⟩, fun d member => ?_⟩
    rcases List.mem_cons.1 member with rfl | further
    · exact later
    · exact Nat.le_trans later (above d further)
  | case4 seen id queue fresh absent ih =>
    obtain ⟨m, near, far, later, rest, frontier⟩ := frontier.head waiting
    have none := Keyed.of_find?_eq_none absent
    have next := frontier.see [] (fun v member this => absurd this (none v member))
      (fun _ absent => absurd absent List.not_mem_nil)
    obtain ⟨distances, each, sorted, above⟩ := ih next (by rw [rest, List.append_nil])
    exact ⟨distances, each, sorted, fun d member => Nat.le_trans later (above d member)⟩

theorem not_mem_seen_of_mem_walk {v : Variable} (met : v ∈ walk nodes seen queue) :
    v.id ∉ seen := by
  fun_induction walk nodes seen queue with
  | case1 => exact absurd met List.not_mem_nil
  | case2 seen id queue known ih => exact ih met
  | case3 seen id queue fresh w found ih =>
    have same := (Keyed.of_find?_eq_some found).2
    rcases List.mem_cons.1 met with rfl | later
    · exact same ▸ fresh
    · exact fun old => ih later (List.mem_cons_of_mem _ old)
  | case4 seen id queue fresh absent ih => exact fun old => ih met (List.mem_cons_of_mem _ old)

/-- A walk meets no identifier twice. -/
theorem nodup_walk (nodes : List Variable) (seen queue : List Nat) :
    ((walk nodes seen queue).map Variable.id).Nodup := by
  fun_induction walk nodes seen queue with
  | case1 => exact List.nodup_nil
  | case2 seen id queue known ih => exact ih
  | case3 seen id queue fresh v found ih =>
    have same := (Keyed.of_find?_eq_some found).2
    apply List.nodup_cons.2
    constructor
    · intro again
      obtain ⟨w, met, twice⟩ := List.mem_map.1 again
      exact not_mem_seen_of_mem_walk met (List.mem_cons.2 (.inl (twice.trans same)))
    · exact ih
  | case4 seen id queue fresh absent ih => exact ih

end ThreatHunt.Variables

/-!
Descent. Whatever is bound, collected and cleared, nodes are derived from older ones only; the
lineage of a name is what its node descends from, and the dependents of a name are the names in
whose lineage its node is.
-/

namespace ThreatHunt.Variables

variable {nodes : List Variable} {seen stack roots : List Nat} {target : Nat}

theorem leads_of_meets (met : meets nodes target seen stack = true) : Leads nodes stack target := by
  fun_induction meets nodes target seen stack with
  | case1 => exact absurd met Bool.false_ne_true
  | case2 seen stack => exact .root (List.mem_cons_self ..)
  | case3 seen id stack other known ih => exact (ih met).mono (fun _ => List.mem_cons_of_mem _)
  | case4 seen id stack other fresh v found ih =>
    obtain ⟨present, same⟩ := Keyed.of_find?_eq_some found
    apply (ih met).trans
    intro root either
    rcases List.mem_append.1 either with derived | waiting
    · exact .parent (.root (same ▸ List.mem_cons_self ..)) present (List.mem_reverse.1 derived)
    · exact .root (List.mem_cons_of_mem _ waiting)
  | case5 seen id stack other fresh absent ih =>
    exact (ih met).mono (fun _ => List.mem_cons_of_mem _)

/-- What is behind a set of nodes that leaves nothing out is in it. -/
theorem Closed.mem_of_leads {all : List Nat} (closed : Closed nodes all [])
    (start : ∀ id ∈ roots, id ∈ all) {id : Nat} (led : Leads nodes roots id) : id ∈ all := by
  induction led with
  | root member => exact start _ member
  | parent _ member derived ih =>
    exact (closed _ member ih _ derived).resolve_right List.not_mem_nil

/-- A walk that misses its target has seen all that is behind it, and the target is not there. -/
theorem closed_of_not_meets (distinct : (nodes.map Variable.id).Nodup)
    (closed : Closed nodes seen stack) (fresh : target ∉ seen)
    (missed : meets nodes target seen stack = false) :
    ∃ all, (∀ id ∈ seen, id ∈ all) ∧ (∀ id ∈ stack, id ∈ all) ∧ Closed nodes all [] ∧
      target ∉ all := by
  fun_induction meets nodes target seen stack with
  | case1 seen =>
    exact ⟨seen, fun _ old => old, fun _ absent => absurd absent List.not_mem_nil, closed, fresh⟩
  | case2 => exact absurd missed Bool.noConfusion
  | case3 seen id stack other known ih =>
    obtain ⟨all, old, waiting, whole, apart⟩ := ih (closed.skip known) fresh missed
    exact ⟨all, old, List.forall_mem_cons.2 ⟨old id known, waiting⟩, whole, apart⟩
  | case4 seen id stack other unseen v found ih =>
    obtain ⟨present, same⟩ := Keyed.of_find?_eq_some found
    have next : Closed nodes (id :: seen) (v.lineage.reverse ++ stack) := by
      apply closed.see (fun _ => List.mem_append_right _)
      intro w member this parent derived
      obtain rfl := Keyed.eq_of_key distinct member present (this.trans same.symm)
      exact List.mem_append_left _ (List.mem_reverse.2 derived)
    have apart : target ∉ id :: seen := by simp [Ne.symm other, fresh]
    obtain ⟨all, old, waiting, whole, apart⟩ := ih next apart missed
    obtain ⟨here, before⟩ := List.forall_mem_cons.1 old
    exact ⟨all, before, List.forall_mem_cons.2
      ⟨here, fun w member => waiting w (List.mem_append_right _ member)⟩, whole, apart⟩
  | case5 seen id stack other unseen absent ih =>
    have none := Keyed.of_find?_eq_none absent
    have next : Closed nodes (id :: seen) stack :=
      closed.see (fun _ there => there) (fun v member this => absurd this (none v member))
    have apart : target ∉ id :: seen := by simp [Ne.symm other, fresh]
    obtain ⟨all, old, waiting, whole, apart⟩ := ih next apart missed
    obtain ⟨here, before⟩ := List.forall_mem_cons.1 old
    exact ⟨all, before, List.forall_mem_cons.2 ⟨here, waiting⟩, whole, apart⟩

/-- A walk in depth comes to its target just if lineage leads there. -/
theorem meets_iff (distinct : (nodes.map Variable.id).Nodup) :
    meets nodes target [] stack = true ↔ Leads nodes stack target := by
  apply Iff.intro leads_of_meets
  intro led
  by_contra missed
  obtain ⟨all, -, waiting, whole, apart⟩ := closed_of_not_meets distinct
    (fun _ _ absurdly => absurd absurdly List.not_mem_nil) List.not_mem_nil
    (Bool.not_eq_true _ ▸ missed)
  exact apart (whole.mem_of_leads waiting led)

/-- An operation on variables, as a caller gives it. -/
inductive Operation where
  | bind (now : Instant) (b : Binding)
  | collectGarbage
  | clear

/-- What an operation leaves. A binding that is refused changes nothing. -/
def Operation.apply (vs : Variables) : Operation → Variables
  | .bind now b =>
    match vs.bind now b with
    | .ok made => made.2
    | .error _ => vs
  | .collectGarbage => vs.collectGarbage.2
  | .clear => vs.clear.2

/-- The variables after some operations. -/
def after (ops : List Operation) : Variables := ops.foldl Operation.apply empty

theorem WellFormed.clear {vs : Variables} : vs.clear.2.WellFormed :=
  ⟨List.nodup_nil, by simp [Variables.clear], by simp [Variables.clear, Dict.empty],
    by simp [Variables.clear]⟩

theorem WellFormed.apply {vs : Variables} (wellFormed : vs.WellFormed) (op : Operation) :
    (op.apply vs).WellFormed := by
  cases op with
  | bind now b =>
    rcases refused_or_known vs now b with ⟨id, refused⟩ | known
    · simpa only [Operation.apply, refused] using wellFormed
    · simpa only [Operation.apply, bind_of_known now known] using wellFormed.bind now known
  | collectGarbage => exact wellFormed.collectGarbage
  | clear => exact WellFormed.clear

theorem WellFormed.foldl_apply {vs : Variables} (wellFormed : vs.WellFormed)
    (ops : List Operation) : (ops.foldl Operation.apply vs).WellFormed := by
  induction ops generalizing vs with
  | nil => exact wellFormed
  | cons op rest ih => exact ih (wellFormed.apply op)

theorem wellFormed_after (ops : List Operation) : (after ops).WellFormed :=
  wellFormed_empty.foldl_apply ops

variable {vs : Variables} {v : Variable}

theorem WellFormed.isAcyclic (wellFormed : vs.WellFormed) : vs.isAcyclic = true :=
  List.all_eq_true.2 (fun v member => List.all_eq_true.2 (fun id derived =>
    decide_eq_true (wellFormed.older v member id derived).1))

/-- A chain of derivations goes down at each step. -/
theorem WellFormed.add_le_of_leadsIn (wellFormed : vs.WellFormed) {n id : Nat}
    (chain : LeadsIn vs.nodes [target] n id) : id + n ≤ target := by
  induction chain with
  | root member => exact Nat.le_of_eq (List.mem_singleton.1 member)
  | parent _ member derived ih =>
    have less := (wellFormed.older _ member _ derived).1
    omega

/-- The nodes that a node was derived from, directly or through others, each once and the nearest
first. -/
structure ListsAncestors (nodes : List Variable) (v : Variable) (ancestors : List Variable) :
    Prop where
  distinct : (ancestors.map Variable.id).Nodup
  complete : ∀ w, w ∈ ancestors ↔ w ∈ nodes ∧ ∃ n, 0 < n ∧ LeadsIn nodes [v.id] n w.id
  nearest : ∃ distances : List Nat,
    List.Forall₂ (fun w d => Distance nodes [v.id] d w.id) ancestors distances ∧
    distances.Pairwise (· ≤ ·)

theorem leads_lineage_iff (distinct : (nodes.map Variable.id).Nodup) (member : v ∈ nodes)
    {id : Nat} :
    Leads nodes v.lineage id ↔ ∃ n, 0 < n ∧ LeadsIn nodes [v.id] n id := by
  rw [leads_iff_leadsIn]
  constructor
  · rintro ⟨n, chain⟩
    exact ⟨n + 1, Nat.succ_pos n, (leadsIn_succ_iff distinct member).2 chain⟩
  · rintro ⟨_ | n, positive, chain⟩
    · exact absurd positive (Nat.lt_irrefl 0)
    · exact ⟨n, (leadsIn_succ_iff distinct member).1 chain⟩

theorem WellFormed.listsAncestors (wellFormed : vs.WellFormed) (member : v ∈ vs.nodes) :
    ListsAncestors vs.nodes v (vs.ancestors v) where
  distinct := nodup_walk _ _ _
  complete := fun w => by
    rw [ancestors, mem_walk wellFormed.distinct, leads_lineage_iff wellFormed.distinct member]
  nearest := by
    obtain ⟨distances, each, sorted, -⟩ := exists_distances wellFormed.distinct
      (frontier_start vs.nodes v.lineage) (List.append_nil _).symm
    refine ⟨distances.map (· + 1), ?_, sorted.map _ (fun _ _ => Nat.succ_le_succ)⟩
    rw [List.forall₂_map_right_iff]
    apply each.imp
    intro w d distance
    apply distance.ofLineage wellFormed.distinct member
    -- The node itself is not behind its lineage, which is older.
    intro same
    have down := wellFormed.add_le_of_leadsIn
      ((leadsIn_succ_iff wellFormed.distinct member).2 distance.chain)
    omega

theorem WellFormed.find?_eq_some_iff (wellFormed : vs.WellFormed) {name : String} :
    vs.find? name = some v ↔ vs.names.find? name = some v.id ∧ v ∈ vs.nodes := by
  constructor
  · exact names_of_find?
  · rintro ⟨named, member⟩
    exact Option.bind_eq_some_iff.2 ⟨v.id, named, node?_of_mem wellFormed.distinct member⟩

/-- Every bound name has a current node. -/
theorem WellFormed.exists_find? (wellFormed : vs.WellFormed) {name : String}
    (bound : vs.contains name = true) : ∃ v, vs.find? name = some v := by
  obtain ⟨id, named⟩ := Option.isSome_iff_exists.1 bound
  obtain ⟨v, member, rfl⟩ := wellFormed.named _ (Dict.mem_of_find? named)
  exact ⟨v, wellFormed.find?_eq_some_iff.2 ⟨named, member⟩⟩

theorem resolve_of_find? {name : String} (found : vs.find? name = some v) :
    vs.resolve name = .ok v := by
  simp only [resolve, found]

theorem lineage_of_find? {name : String} (found : vs.find? name = some v) :
    vs.lineage name = .ok (vs.ancestors v) := by
  simp only [lineage, resolve_of_find? found]
  rfl

theorem lineage_eq_ok {name : String} {ancestors : List Variable}
    (listed : vs.lineage name = .ok ancestors) :
    ∃ w, vs.find? name = some w ∧ vs.ancestors w = ancestors := by
  cases found : vs.find? name with
  | none =>
    simp only [lineage, resolve, found] at listed
    cases listed
  | some w =>
    rw [lineage_of_find? found] at listed
    exact ⟨w, rfl, Except.ok.inj listed⟩

/-- One node descends from another if the other is among its ancestors. -/
theorem WellFormed.descendsFrom_iff (wellFormed : vs.WellFormed) {w : Variable}
    (member : v ∈ vs.nodes) (other : w ∈ vs.nodes) :
    vs.descendsFrom w.id v.id = true ↔ v ∈ vs.ancestors w := by
  rw [descendsFrom, node?_of_mem wellFormed.distinct other, meets_iff wellFormed.distinct]
  rw [ancestors, mem_walk wellFormed.distinct]
  constructor
  · intro led
    exact ⟨member, led.mono (fun _ => List.mem_reverse.1)⟩
  · rintro ⟨-, led⟩
    exact led.mono (fun _ => List.mem_reverse.2)

/-- The dependents of a name are the names in whose lineage its node is. -/
theorem WellFormed.dependents_spec (wellFormed : vs.WellFormed) {name : String}
    (found : vs.find? name = some v) :
    ∃ ds, vs.dependents name = .ok ds ∧ ∀ other, other ∈ ds ↔
      ∃ behind, vs.lineage other = .ok behind ∧ v ∈ behind := by
  have member := (wellFormed.find?_eq_some_iff.1 found).2
  refine ⟨_, by rw [dependents, resolve_of_find? found]; rfl, fun other => ?_⟩
  simp only [List.mem_map, List.mem_filter, Bool.and_eq_true, bne_iff_ne]
  constructor
  · rintro ⟨e, ⟨entry, -, descends⟩, rfl⟩
    obtain ⟨w, there, same⟩ := wellFormed.named e entry
    have current := wellFormed.find?_eq_some_iff.2 ⟨same ▸ Dict.find?_of_mem entry, there⟩
    exact ⟨_, lineage_of_find? current,
      (wellFormed.descendsFrom_iff member there).1 (same ▸ descends)⟩
  · rintro ⟨_, listed, behind⟩
    obtain ⟨w, current, rfl⟩ := lineage_eq_ok listed
    obtain ⟨named, there⟩ := wellFormed.find?_eq_some_iff.1 current
    refine ⟨(other, w.id), ⟨Dict.mem_of_find? named, ?_,
      (wellFormed.descendsFrom_iff member there).2 behind⟩, rfl⟩
    -- A node is older than what descends from it.
    obtain ⟨-, n, positive, chain⟩ := ((wellFormed.listsAncestors there).complete v).1 behind
    have down := wellFormed.add_le_of_leadsIn chain
    show w.id ≠ v.id
    omega

/-- Lineage after any operations. Each node was derived from older nodes that are there, so no chain
of derivations comes back. The lineage of a bound name lists the nodes behind its node, and a name
is a dependent of another just if the node of that one is in its lineage. -/
theorem lineage_after (ops : List Operation) :
    (after ops).isAcyclic = true ∧
    (∀ v ∈ (after ops).nodes, ∀ id ∈ v.lineage,
      id < v.id ∧ ∃ w ∈ (after ops).nodes, w.id = id) ∧
    (∀ id n, ¬LeadsIn (after ops).nodes [id] (n + 1) id) ∧
    ∀ name, (after ops).contains name = true →
      ∃ v ancestors, (after ops).find? name = some v ∧
        (after ops).lineage name = .ok ancestors ∧
        ListsAncestors (after ops).nodes v ancestors ∧
        ∃ ds, (after ops).dependents name = .ok ds ∧ ∀ other, other ∈ ds ↔
          ∃ behind, (after ops).lineage other = .ok behind ∧ v ∈ behind := by
  have wellFormed := wellFormed_after ops
  refine ⟨wellFormed.isAcyclic, wellFormed.older, fun id n chain => ?_, fun name bound => ?_⟩
  · have down := wellFormed.add_le_of_leadsIn chain
    omega
  · obtain ⟨v, found⟩ := wellFormed.exists_find? bound
    have member := (wellFormed.find?_eq_some_iff.1 found).2
    exact ⟨v, _, found, lineage_of_find? found, wellFormed.listsAncestors member,
      wellFormed.dependents_spec found⟩

/-! The equations by which walks are evaluated. -/

theorem walk_nil (nodes : List Variable) (seen : List Nat) : walk nodes seen [] = [] := by
  rw [walk]

theorem walk_cons (nodes : List Variable) (seen : List Nat) (id : Nat) (queue : List Nat) :
    walk nodes seen (id :: queue) =
      if id ∈ seen then walk nodes seen queue
      else match nodes.find? (fun v => v.id = id) with
        | some v => v :: walk nodes (id :: seen) (queue ++ v.lineage)
        | none => walk nodes (id :: seen) queue := by
  rw [walk]
  split
  · rfl
  · split <;> rename_i found <;> rw [found]

theorem meets_nil (nodes : List Variable) (target : Nat) (seen : List Nat) :
    meets nodes target seen [] = false := by
  rw [meets]

theorem meets_cons (nodes : List Variable) (target : Nat) (seen : List Nat) (id : Nat)
    (stack : List Nat) :
    meets nodes target seen (id :: stack) =
      if id = target then true
      else if id ∈ seen then meets nodes target seen stack
      else match nodes.find? (fun v => v.id = id) with
        | some v => meets nodes target (id :: seen) (v.lineage.reverse ++ stack)
        | none => meets nodes target (id :: seen) stack := by
  rw [meets]
  split
  · rfl
  · split
    · rfl
    · split <;> rename_i found <;> rw [found]

/-- A binding of a name to a node with some lineage. -/
def derived (name : String) (lineage : List Nat) : Binding :=
  { name, lineage, handle := default, schema := default, rowCount := 0, birth := default }

/-- A node that is reached in two ways, a binding that is refused, and names that are bound anew. -/
def diamond : Variables :=
  after ([derived "a" [], derived "b" [0], derived "c" [0], derived "d" [1, 2], derived "e" [9],
    derived "a" [3], derived "c" []].map (.bind default))

theorem nodes_diamond : diamond.nodes =
    [nodeOf 0 default (derived "a" []), nodeOf 1 default (derived "b" [0]),
      nodeOf 2 default (derived "c" [0]), nodeOf 3 default (derived "d" [1, 2]),
      nodeOf 4 default (derived "a" [3]), nodeOf 5 default (derived "c" [])] :=
  rfl

theorem lineage_after_diamond :
    diamond.contains "d" = true ∧ ∃ v ancestors ds, diamond.find? "d" = some v ∧
      diamond.lineage "d" = .ok ancestors ∧ ancestors.map Variable.id = [1, 2, 0] ∧
      ListsAncestors diamond.nodes v ancestors ∧
      diamond.dependents "d" = .ok ds ∧ ds = ["a"] := by
  have bound : diamond.contains "d" = true := by decide +kernel
  have found : diamond.find? "d" = some (nodeOf 3 default (derived "d" [1, 2])) := rfl
  have entries : diamond.names.entries = [("a", 4), ("b", 1), ("c", 5), ("d", 3)] := rfl
  have ids : (diamond.ancestors (nodeOf 3 default (derived "d" [1, 2]))).map Variable.id =
      [1, 2, 0] := by
    rw [Variables.ancestors, nodes_diamond]
    simp [walk_cons, walk_nil, nodeOf, derived]
  have names : diamond.dependents "d" = .ok ["a"] := by
    simp [dependents, resolve_of_find? found, entries, descendsFrom, node?, nodes_diamond,
      meets_cons, meets_nil, nodeOf, derived]
  obtain ⟨v, ancestors, named, listed, spec, ds, others, -⟩ := (lineage_after _).2.2.2 "d" bound
  obtain rfl := Option.some.inj (found.symm.trans named)
  obtain rfl := Except.ok.inj ((lineage_of_find? found).symm.trans listed)
  exact ⟨bound, _, _, ds, found, listed, ids, spec, others,
    Except.ok.inj (others.symm.trans names)⟩

end ThreatHunt.Variables
