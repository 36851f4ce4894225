import ThreatHunt.Proofs.Fetch.Replies
import ThreatHunt.Proofs.Hunt.Reachable
import ThreatHunt.Proofs.Table.Merging

/-!
The sources of a statement. Connectors are registered under their own names, and a bundle that is
opened goes by a locator that no registered connector has; so connectors of a statement that go by
one name are one.
-/

namespace ThreatHunt

def Registry.Named (r : Registry) : Prop := ∀ e ∈ r.entries.entries, e.2.name = e.1

theorem Registry.Named.register {r : Registry} (named : r.Named) (c : Connector) :
    (r.register c).Named := by
  intro e entry
  rcases Dict.mem_insertEntry entry with rfl | old
  · rfl
  · exact named e old

namespace Scene

variable {s : Scene} {entityType : String}

/-- Whether a connector is what its name stands for: a registered connector, or else one that was
opened. -/
def StandsFor (s : Scene) (opened : List Connector) (c : Connector) : Prop :=
  s.connectors.find? c.name = some c ∨
    (s.connectors.find? c.name = none ∧ opened.find? (fun o => o.name == c.name) = some c)

theorem StandsFor.opens {opened : List Connector} {c : Connector} (stands : s.StandsFor opened c)
    (other : Connector) : s.StandsFor (opened ++ [other]) c := by
  refine stands.imp_right (fun found => ⟨found.1, ?_⟩)
  rw [List.find?_append, found.2]
  rfl

theorem find?_of_named (named : s.connectors.Named) {name : String} {c : Connector}
    (found : s.connectors.find? name = some c) : s.connectors.find? c.name = some c := by
  have same : c.name = name := named _ (Dict.mem_of_find? found)
  rw [same, found]

theorem find?_of_registered (named : s.connectors.Named) {uri : String} {c : Connector}
    (found : s.registered? uri = some c) : s.connectors.find? c.name = some c := by
  unfold registered? at found
  split at found
  · rename_i full
    exact Option.some.inj found ▸ find?_of_named named full
  · obtain ⟨rest, _, short⟩ := Option.bind_eq_some_iff.1 found
    exact find?_of_named named short

theorem unregistered {uri : String} (missing : s.registered? uri = none) :
    s.connectors.find? uri = none := by
  unfold registered? at missing
  split at missing
  · nomatch missing
  · assumption

/-- A bundle is opened once under a locator that no registered connector has. -/
theorem standsFor_openBundle {opened : List Connector} {uri : String} {c : Connector}
    (absent : s.connectors.find? uri = none) (opens : s.openBundle opened uri = .ok c) :
    ∀ d, s.StandsFor opened d ∨ d = c →
      s.StandsFor (if opened.any (fun o => o.name == uri) then opened else opened ++ [c]) d := by
  unfold openBundle at opens
  split at opens
  · rename_i known found
    obtain rfl := Except.ok.inj opens
    have same : known.name = uri := by simpa using List.find?_some found
    have again : opened.any (fun o => o.name == uri) = true :=
      List.any_eq_true.2 ⟨known, List.mem_of_find?_eq_some found, beq_iff_eq.2 same⟩
    rw [if_pos again]
    rintro d (old | rfl)
    · exact old
    · exact .inr ⟨same ▸ absent, same ▸ found⟩
  · rename_i unknown
    have fresh : opened.any (fun o => o.name == uri) = false :=
      List.any_eq_false.2 (List.find?_eq_none.1 unknown)
    rw [fresh, if_neg Bool.false_ne_true]
    have same : c.name = uri := by
      split at opens
      · exact Except.ok.inj opens ▸ rfl
      · nomatch opens
    rintro d (old | rfl)
    · exact old.opens c
    · refine .inr ⟨same ▸ absent, ?_⟩
      rw [same, List.find?_append, unknown, Option.none_or]
      exact List.find?_cons_of_pos (beq_iff_eq.2 same)

theorem standsFor_addSource (named : s.connectors.Named) {found after : Sources} {source : Source}
    (stand : ∀ c ∈ found.connectors, s.StandsFor found.opened c)
    (added : s.addSource entityType found source = .ok after) :
    ∀ c ∈ after.connectors, s.StandsFor after.opened c := by
  -- A registered connector is put behind the others.
  have behind : ∀ c, s.connectors.find? c.name = some c →
      ∀ d ∈ found.connectors ++ [c], s.StandsFor found.opened d := by
    intro c registered d member
    rcases List.mem_append.1 member with old | new
    · exact stand d old
    · exact List.mem_singleton.1 new ▸ .inl registered
  cases adds_of_addSource added with
  | connector registered => exact behind _ (find?_of_named named registered)
  | held => exact stand
  | registered registered => exact behind _ (find?_of_registered named registered)
  | bundle missing _ opens =>
    intro d member
    refine standsFor_openBundle (unregistered missing) opens d ?_
    rcases List.mem_append.1 member with old | new
    · exact .inl (stand d old)
    · exact .inr (List.mem_singleton.1 new)

/-- The connectors of a statement are what their names stand for. -/
theorem standsFor_of_sourcesOf (named : s.connectors.Named) {listed : List Source}
    {sources : Sources} (found : s.sourcesOf entityType listed = .ok sources) :
    ∀ c ∈ sources.connectors, s.StandsFor sources.opened c := by
  rcases sourcesOf_eq_ok found with ⟨_, rfl⟩ | ⟨_, folded, _⟩
  · intro c member
    obtain ⟨e, entry, rfl⟩ := List.mem_map.1 (List.mem_of_mem_filter member)
    refine .inl ((congrArg s.connectors.entries.find? (named e entry)).trans ?_)
    exact Dict.find?_of_mem entry
  · exact Outcome.keeps_of_foldlM
      (fun found : Sources => ∀ c ∈ found.connectors, s.StandsFor found.opened c)
      (fun _ _ _ => standsFor_addSource named) (fun _ member => absurd member List.not_mem_nil)
      folded

theorem StandsFor.registered {opened : List Connector} {c d : Connector}
    (stands : s.StandsFor opened c) (found : s.connectors.find? c.name = some d) : d = c := by
  rcases stands with mine | ⟨none, _⟩
  · exact Option.some.inj (found.symm.trans mine)
  · rw [none] at found
    cases found

/-- The connectors of a statement that go by one name are one. -/
theorem apart_of_sourcesOf (named : s.connectors.Named) {listed : List Source} {sources : Sources}
    (found : s.sourcesOf entityType listed = .ok sources) :
    Connector.Apart sources.connectors := by
  have stand := standsFor_of_sourcesOf named found
  intro c first d second same
  rcases stand d second with its | ⟨none, its⟩
  · exact ((stand c first).registered (same ▸ its)).symm
  · rcases stand c first with mine | ⟨_, mine⟩
    · rw [← same, mine] at none
      cases none
    · rw [same] at mine
      exact Option.some.inj (mine.symm.trans its)

end Scene

namespace Hunt

variable {h : Hunt}

theorem named_commit {now : Instant} {statement : PlacedStatement} {product : Product}
    (named : h.connectors.Named) : (h.commit now statement product).1.connectors.Named := by
  unfold commit
  dsimp only
  split
  · exact named
  · split
    · exact named
    · exact List.foldlRecOn product.connectors Registry.register named
        (fun _ kept c _ => kept.register c)

/-- In every hunt the connectors are registered under their own names. -/
theorem Reachable.named (reached : h.Reachable) : h.connectors.Named := by
  induction reached with
  | start config disk => exact fun _ entry => absurd entry List.not_mem_nil
  | registerConnector _ c ih => exact ih.register c
  | registerModule _ m ih => exact ih
  | @run h before now statement ih =>
    apply run_keeps (fun g => g.connectors.Named) now statement (fun _ _ => ih)
    intro exchange disk product
    exact named_commit (h := { h with exchange := exchange, disk := disk }) ih
  | close _ ih => exact fun _ entry => absurd entry List.not_mem_nil
  | meanwhile _ exchange disk ih => exact ih

end Hunt
end ThreatHunt
