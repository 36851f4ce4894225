import ThreatHunt.Proofs.Variables.Descent

/-!
The collection of garbage. What it takes away is exactly what no chain of derivations leads to from
the current node of a name, and nothing that may be asked of a name tells whether it took place.
-/

namespace ThreatHunt.Variables

variable {nodes : List Variable} {keep : Variable → Bool} {seen queue roots : List Nat}

/-- A look-up is not concerned with nodes of other identifiers. -/
theorem find?_filter_of_kept {id : Nat} (kept : ∀ v ∈ nodes, v.id = id → keep v = true) :
    (nodes.filter keep).find? (fun v => v.id = id) = nodes.find? (fun v => v.id = id) := by
  induction nodes with
  | nil => rfl
  | cons w rest ih =>
    have later := ih (fun v member => kept v (List.mem_cons_of_mem _ member))
    by_cases same : w.id = id
    · simp [kept w (List.mem_cons_self ..) same, same]
    · by_cases stays : keep w = true
      · simp [stays, same, later]
      · simp [stays, same, later]

/-- Nodes to which nothing leads do not bear on what is led to. -/
theorem leads_filter_iff (kept : ∀ v ∈ nodes, Leads nodes roots v.id → keep v = true) {id : Nat} :
    Leads (nodes.filter keep) roots id ↔ Leads nodes roots id := by
  constructor
  · intro led
    induction led with
    | root member => exact .root member
    | parent _ member derived ih => exact .parent ih (List.mem_of_mem_filter member) derived
  · intro led
    induction led with
    | root member => exact .root member
    | parent before member derived ih =>
      exact .parent ih (List.mem_filter.2 ⟨member, kept _ member before⟩) derived

/-- A walk takes no notice of nodes to which nothing in its queue leads. -/
theorem walk_filter (kept : ∀ v ∈ nodes, Leads nodes queue v.id → keep v = true) :
    walk (nodes.filter keep) seen queue = walk nodes seen queue := by
  have found : ∀ id rest, (∀ v ∈ nodes, Leads nodes (id :: rest) v.id → keep v = true) →
      (nodes.filter keep).find? (fun v => v.id = id) = nodes.find? (fun v => v.id = id) := by
    intro id rest kept
    apply find?_filter_of_kept
    intro v member same
    exact kept v member (.root (same ▸ List.mem_cons_self ..))
  fun_induction walk nodes seen queue with
  | case1 seen => rw [walk_nil]
  | case2 seen id queue known ih =>
    rw [walk_cons, if_pos known]
    apply ih
    intro v member led
    exact kept v member (led.mono (fun _ => List.mem_cons_of_mem _))
  | case3 seen id queue fresh w met ih =>
    obtain ⟨present, same⟩ := Keyed.of_find?_eq_some met
    rw [walk_cons, if_neg fresh, found id queue kept, met]
    simp only [List.cons.injEq, true_and]
    apply ih
    intro v member led
    apply kept v member
    apply led.trans
    intro root either
    rcases List.mem_append.1 either with waiting | derived
    · exact .root (List.mem_cons_of_mem _ waiting)
    · exact .parent (.root (same ▸ List.mem_cons_self ..)) present derived
  | case4 seen id queue fresh absent ih =>
    rw [walk_cons, if_neg fresh, found id queue kept, absent]
    apply ih
    intro v member led
    exact kept v member (led.mono (fun _ => List.mem_cons_of_mem _))

variable {vs : Variables} {v : Variable} {name : String} {id : Nat}

/-- Whether a chain of derivations, perhaps an empty one, leads from the current node of a name to
an identifier. -/
def Reaches (vs : Variables) (name : String) (id : Nat) : Prop :=
  ∃ v n, vs.find? name = some v ∧ LeadsIn vs.nodes [v.id] n id

/-- Each chain from the names begins at one of them. -/
theorem WellFormed.ledTo_iff (wellFormed : vs.WellFormed) :
    vs.LedTo id ↔ ∃ name, vs.Reaches name id := by
  constructor
  · intro led
    induction led with
    | root member =>
      obtain ⟨e, entry, rfl⟩ := List.mem_map.1 member
      obtain ⟨w, there, same⟩ := wellFormed.named e entry
      have named : vs.names.find? e.1 = some w.id := same ▸ Dict.find?_of_mem entry
      exact ⟨e.1, w, 0, wellFormed.find?_eq_some_iff.2 ⟨named, there⟩, .root (by simp [same])⟩
    | parent _ member derived ih =>
      obtain ⟨name, w, n, found, chain⟩ := ih
      exact ⟨name, w, n + 1, found, .parent chain member derived⟩
  · rintro ⟨name, w, n, found, chain⟩
    have named := Dict.mem_of_find? (wellFormed.find?_eq_some_iff.1 found).1
    apply (leads_iff_leadsIn.2 ⟨n, chain⟩).mono
    intro root member
    rw [List.mem_singleton.1 member]
    exact List.mem_map.2 ⟨_, named, rfl⟩

/-- Whether a node is kept by a collection of garbage. -/
def isLive (vs : Variables) (v : Variable) : Bool := (vs.reachable.map Variable.id).contains v.id

theorem nodes_collectGarbage (vs : Variables) :
    vs.collectGarbage.2.nodes = vs.nodes.filter vs.isLive := rfl

theorem removed_collectGarbage (vs : Variables) :
    vs.collectGarbage.1 = vs.nodes.filter (fun v => !vs.isLive v) := rfl

theorem names_collectGarbage (vs : Variables) : vs.collectGarbage.2.names = vs.names := rfl

theorem WellFormed.isLive_of_ledTo (wellFormed : vs.WellFormed) (member : v ∈ vs.nodes)
    (led : vs.LedTo v.id) : vs.isLive v = true :=
  (contains_reachable wellFormed member).2 led

/-- The lineage of what the names lead to is led to as well. -/
theorem ledTo_of_lineage (member : v ∈ vs.nodes) (led : vs.LedTo v.id)
    (behind : Leads vs.nodes v.lineage id) : vs.LedTo id :=
  behind.trans (fun _ derived => .parent led member derived)

theorem WellFormed.ledTo_of_find? (wellFormed : vs.WellFormed) (found : vs.find? name = some v) :
    vs.LedTo v.id :=
  wellFormed.ledTo_iff.2 ⟨name, v, 0, found, .root (List.mem_singleton_self _)⟩

theorem WellFormed.node?_collectGarbage (wellFormed : vs.WellFormed) (led : vs.LedTo id) :
    vs.collectGarbage.2.node? id = vs.node? id := by
  rw [node?, node?, nodes_collectGarbage]
  apply find?_filter_of_kept
  intro v member same
  exact wellFormed.isLive_of_ledTo member (same ▸ led)

theorem WellFormed.find?_collectGarbage (wellFormed : vs.WellFormed) (name : String) :
    vs.collectGarbage.2.find? name = vs.find? name := by
  rw [find?, find?, names_collectGarbage]
  cases named : vs.names.find? name with
  | none => rfl
  | some id =>
    apply wellFormed.node?_collectGarbage
    exact .root (List.mem_map.2 ⟨_, Dict.mem_of_find? named, rfl⟩)

theorem WellFormed.resolve_collectGarbage (wellFormed : vs.WellFormed) (name : String) :
    vs.collectGarbage.2.resolve name = vs.resolve name := by
  rw [resolve, resolve, wellFormed.find?_collectGarbage]

theorem WellFormed.list_collectGarbage (wellFormed : vs.WellFormed) :
    vs.collectGarbage.2.list = vs.list := by
  rw [list, list, nodes_collectGarbage, List.filter_filter]
  apply List.filter_congr
  intro v member
  have current : vs.collectGarbage.2.isCurrent v = vs.isCurrent v := rfl
  rw [current]
  cases named : vs.isCurrent v with
  | false => rfl
  | true =>
    obtain ⟨e, entry, same⟩ := List.any_eq_true.1 named
    have led : vs.LedTo v.id := .root (List.mem_map.2 ⟨e, entry, beq_iff_eq.1 same⟩)
    rw [wellFormed.isLive_of_ledTo member led, Bool.and_self]

theorem WellFormed.ancestors_collectGarbage (wellFormed : vs.WellFormed) (member : v ∈ vs.nodes)
    (led : vs.LedTo v.id) : vs.collectGarbage.2.ancestors v = vs.ancestors v := by
  rw [ancestors, ancestors, nodes_collectGarbage]
  apply walk_filter
  intro w other behind
  exact wellFormed.isLive_of_ledTo other (ledTo_of_lineage member led behind)

theorem WellFormed.lineage_collectGarbage (wellFormed : vs.WellFormed) (name : String) :
    vs.collectGarbage.2.lineage name = vs.lineage name := by
  rw [lineage, lineage, wellFormed.resolve_collectGarbage]
  cases found : vs.find? name with
  | none => simp only [resolve, found, Except.map_error]
  | some v =>
    have member := (wellFormed.find?_eq_some_iff.1 found).2
    have same := wellFormed.ancestors_collectGarbage member (wellFormed.ledTo_of_find? found)
    simp only [resolve, found]
    exact congrArg Except.ok same

theorem WellFormed.descendsFrom_collectGarbage (wellFormed : vs.WellFormed) (member : v ∈ vs.nodes)
    (led : vs.LedTo v.id) (target : Nat) :
    vs.collectGarbage.2.descendsFrom v.id target = vs.descendsFrom v.id target := by
  have kept : ∀ w ∈ vs.nodes, Leads vs.nodes v.lineage.reverse w.id → vs.isLive w = true := by
    intro w other behind
    apply wellFormed.isLive_of_ledTo other
    exact ledTo_of_lineage member led (behind.mono (fun _ => List.mem_reverse.1))
  rw [descendsFrom, descendsFrom, wellFormed.node?_collectGarbage led,
    node?_of_mem wellFormed.distinct member]
  rw [Bool.eq_iff_iff, meets_iff wellFormed.distinct, meets_iff wellFormed.collectGarbage.distinct]
  exact leads_filter_iff kept

theorem WellFormed.dependents_collectGarbage (wellFormed : vs.WellFormed) (name : String) :
    vs.collectGarbage.2.dependents name = vs.dependents name := by
  rw [dependents, dependents, wellFormed.resolve_collectGarbage, names_collectGarbage]
  apply bind_congr
  intro target
  have same : ∀ e ∈ vs.names.entries, vs.collectGarbage.2.descendsFrom e.2 target.id =
      vs.descendsFrom e.2 target.id := by
    intro e entry
    obtain ⟨w, there, named⟩ := wellFormed.named e entry
    have led : vs.LedTo w.id := .root (List.mem_map.2 ⟨e, entry, named.symm⟩)
    rw [← named]
    exact wellFormed.descendsFrom_collectGarbage there led target.id
  have filtered : ∀ e ∈ vs.names.entries,
      (e.2 != target.id && vs.collectGarbage.2.descendsFrom e.2 target.id) =
      (e.2 != target.id && vs.descendsFrom e.2 target.id) := by
    intro e entry
    rw [same e entry]
  simp only [List.filter_congr filtered]

/-- Where all nodes are led to there is no garbage. -/
theorem WellFormed.collectGarbage_eq_self (wellFormed : vs.WellFormed)
    (led : ∀ v ∈ vs.nodes, vs.LedTo v.id) : vs.collectGarbage = ([], vs) := by
  have live : ∀ v ∈ vs.nodes, vs.isLive v = true :=
    fun v member => wellFormed.isLive_of_ledTo member (led v member)
  have removed : vs.collectGarbage.1 = [] := by
    rw [removed_collectGarbage, List.filter_eq_nil_iff]
    intro v member
    simp [live v member]
  have kept : vs.nodes.filter vs.isLive = vs.nodes := List.filter_eq_self.2 live
  apply Prod.ext removed
  show { vs with nodes := vs.nodes.filter vs.isLive } = vs
  rw [kept]

/-- What a collection of garbage takes away and what it leaves. -/
structure Collects (vs : Variables) (removed : List Variable) (rest : Variables) : Prop where
  /-- What is taken away is what no name reaches. -/
  removes : ∀ v, v ∈ removed ↔ v ∈ vs.nodes ∧ ∀ name, ¬vs.Reaches name v.id
  keeps : ∀ v, v ∈ rest.nodes ↔ v ∈ vs.nodes ∧ ∃ name, vs.Reaches name v.id
  /-- Each node is in one of the two parts, once. -/
  parts : (removed ++ rest.nodes).Perm vs.nodes
  resolve : ∀ name, rest.resolve name = vs.resolve name
  list : rest.list = vs.list
  lineage : ∀ name, rest.lineage name = vs.lineage name
  dependents : ∀ name, rest.dependents name = vs.dependents name
  /-- A second collection takes nothing away and changes nothing. -/
  again : rest.collectGarbage = ([], rest)

/-- Whatever was bound, collected and cleared before, a collection of garbage takes away exactly the
nodes that no bound name reaches, all answers about names stay the same, and a second one finds
nothing. -/
theorem collectGarbage_after (ops : List Operation) :
    Collects (after ops) (after ops).collectGarbage.1 (after ops).collectGarbage.2 := by
  have wellFormed := wellFormed_after ops
  constructor
  case removes =>
    intro v
    rw [mem_collectGarbage_dead wellFormed, wellFormed.ledTo_iff, not_exists]
  case keeps =>
    intro v
    rw [mem_collectGarbage wellFormed, wellFormed.ledTo_iff]
  case parts =>
    rw [removed_collectGarbage, nodes_collectGarbage]
    exact List.perm_append_comm.trans (List.filter_append_perm _ _)
  case resolve => exact wellFormed.resolve_collectGarbage
  case list => exact wellFormed.list_collectGarbage
  case lineage => exact wellFormed.lineage_collectGarbage
  case dependents => exact wellFormed.dependents_collectGarbage
  case again =>
    apply wellFormed.collectGarbage.collectGarbage_eq_self
    intro v member
    exact (ledTo_collectGarbage wellFormed).2 ((mem_collectGarbage wellFormed).1 member).2

/-- The first node of `a` stays for `b`, which was derived from it; that of `x` goes. -/
example : ((after ([derived "a" [], derived "b" [0], derived "x" [], derived "a" [],
    derived "x" []].map (.bind default))).collectGarbage.1.map Variable.id) = [2] := by
  cbv

end ThreatHunt.Variables
