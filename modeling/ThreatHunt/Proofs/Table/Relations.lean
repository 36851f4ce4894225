import Mathlib.Data.List.Induction
import Mathlib.Logic.Basic
import Mathlib.Tactic.Tauto
import ThreatHunt.Proofs.Keyed
import ThreatHunt.Table.Basic
import ThreatHunt.Fetch.Exchange
import ThreatHunt.Hunt.Relating

/-!
Recorded edges. An edge is recorded if no edge of its relationship was seen before, so of all
sightings of a relationship the first is kept, with its time.
-/

namespace ThreatHunt.Edge

/-- Whether an edge is the first sighting of its relationship. -/
def First (sightings : List Edge) (e : Edge) : Prop :=
  sightings.find? (fun s => s.key == e.key) = some e

theorem recordAll_append (known new more : List Edge) :
    recordAll known (new ++ more) = recordAll (recordAll known new) more :=
  List.foldl_append

theorem recordAll_single_of_known {known : List Edge} {e : Edge}
    (seen : known.any (fun k => k.key == e.key) = true) : recordAll known [e] = known :=
  if_pos seen

theorem recordAll_single_of_new {known : List Edge} {e : Edge}
    (new : ¬known.any (fun k => k.key == e.key) = true) : recordAll known [e] = known ++ [e] :=
  if_neg new

/-- A look-up by relationship finds the same with and without the later sightings. -/
theorem find?_recordAll (known new : List Edge) (key : String × String × String) :
    (recordAll known new).find? (fun e => e.key == key) =
      (known ++ new).find? (fun e => e.key == key) := by
  induction new using List.reverseRecOn with
  | nil => simp [recordAll]
  | append_singleton new e ih =>
    rw [recordAll_append, ← List.append_assoc, List.find?_append, ← ih]
    by_cases seen : (recordAll known new).any (fun k => k.key == e.key) = true
    · rw [recordAll_single_of_known seen]
      by_cases same : e.key = key
      · obtain ⟨k, member, alike⟩ := List.any_eq_true.1 seen
        have found : ((recordAll known new).find? (fun e => e.key == key)).isSome :=
          List.find?_isSome.2 ⟨k, member, same ▸ alike⟩
        rw [Option.or_of_isSome found]
      · simp [same]
    · rw [recordAll_single_of_new seen, List.find?_append]

theorem any_recordAll (known new : List Edge) (key : String × String × String) :
    (recordAll known new).any (fun e => e.key == key) =
      (known ++ new).any (fun e => e.key == key) := by
  rw [← List.isSome_find?, ← List.isSome_find?, find?_recordAll]

/-- Sightings that were put together before they are recorded leave no trace of that. -/
theorem recordAll_recordAll (known new : List Edge) :
    recordAll known (recordAll [] new) = recordAll known new := by
  induction new using List.reverseRecOn with
  | nil => rfl
  | append_singleton new e ih =>
    rw [recordAll_append [], recordAll_append known]
    by_cases seen : (recordAll [] new).any (fun k => k.key == e.key) = true
    · rw [recordAll_single_of_known seen, ih, recordAll_single_of_known]
      rw [any_recordAll] at seen ⊢
      rw [List.any_append]
      exact Bool.or_eq_true_iff.2 (.inr seen)
    · rw [recordAll_single_of_new seen, recordAll_append, ih]

/-- Of each relationship one sighting is kept, whatever is recorded behind it. -/
theorem nodup_recordAll {known : List Edge} (distinct : (known.map key).Nodup) (new : List Edge) :
    ((recordAll known new).map key).Nodup := by
  induction new using List.reverseRecOn with
  | nil => exact distinct
  | append_singleton new e ih =>
    rw [recordAll_append]
    by_cases seen : (recordAll known new).any (fun k => k.key == e.key) = true
    · rwa [recordAll_single_of_known seen]
    · rw [recordAll_single_of_new seen, List.map_append, List.nodup_append]
      refine ⟨ih, List.nodup_singleton _, ?_⟩
      intro key old other last
      obtain rfl := List.mem_singleton.1 last
      obtain ⟨k, member, rfl⟩ := List.mem_map.1 old
      intro same
      exact seen (List.any_eq_true.2 ⟨k, member, beq_iff_eq.2 same⟩)

theorem distinct_recordAll (sightings : List Edge) : ((recordAll [] sightings).map key).Nodup :=
  nodup_recordAll (by simp) sightings

/-- The recorded edges are the first sightings. -/
theorem mem_recordAll {sightings : List Edge} {e : Edge} :
    e ∈ recordAll [] sightings ↔ First sightings e := by
  have look : (recordAll [] sightings).find? (fun s => s.key == e.key) =
      sightings.find? (fun s => s.key == e.key) := find?_recordAll [] sightings e.key
  rw [First, ← look]
  constructor
  · intro member
    exact Keyed.find?_eq_some (distinct_recordAll sightings) member (fun _ _ => beq_iff_eq)
  · intro found
    exact List.mem_of_find?_eq_some found

end ThreatHunt.Edge

/-!
What the search for edges finds, told without how it is found: the edges that references show, those
that connectors answer, and the rows that an edge leads to.
-/

namespace ThreatHunt

namespace Relation

/-- Whether a value refers to an identifier: it is this text or lists it. -/
def RefersTo (v : Value) (id : String) : Prop :=
  v = .str id ∨ ∃ items, v = .list items ∧ .str id ∈ items

theorem mem_refsIn {v : Value} {id : String} : id ∈ refsIn v ↔ RefersTo v id := by
  have text : ∀ w : Value, w.str? = some id ↔ w = .str id := by
    intro w
    cases w <;> simp [Value.str?]
  cases v with
  | str s => simp [refsIn, RefersTo, eq_comm]
  | list items => simp [refsIn, RefersTo, List.mem_filterMap, text]
  | _ => simp [refsIn, RefersTo]

/-- The edges that a rule shows: a row at one end refers to a row at the other. -/
inductive Rule.Shows (r : Rule) (sources targets : List Entity) : Edge → Prop where
  | source {attr : String} (holder : r.holder = .source attr) {s t : Entity} (first : s ∈ sources)
      (second : t ∈ targets) (refers : RefersTo (s.get attr) t.id) :
      Rule.Shows r sources targets ⟨r.relation, s.id, t.id, none⟩
  | target {attr : String} (holder : r.holder = .target attr) {s t : Entity} (first : s ∈ sources)
      (second : t ∈ targets) (refers : RefersTo (t.get attr) s.id) :
      Rule.Shows r sources targets ⟨r.relation, s.id, t.id, none⟩

/-- Both ends of an edge that a rule shows are there. -/
theorem Rule.Shows.ends {r : Rule} {sources targets : List Entity} {e : Edge}
    (shows : r.Shows sources targets e) :
    e.source ∈ sources.map Entity.id ∧ e.target ∈ targets.map Entity.id := by
  cases shows with
  | source _ first second _ => exact ⟨List.mem_map_of_mem first, List.mem_map_of_mem second⟩
  | target _ first second _ => exact ⟨List.mem_map_of_mem first, List.mem_map_of_mem second⟩

/-- No rule is idle: some row refers to another one by its attribute. -/
theorem Rule.exists_shows (r : Rule) : ∃ sources targets e, r.Shows sources targets e := by
  let holder (attr : String) : Entity := ⟨"holder", Dict.empty.insert attr (.str "held")⟩
  let held : Entity := ⟨"held", Dict.empty⟩
  have refers : ∀ attr, RefersTo ((holder attr).get attr) held.id := by
    intro attr
    simp [RefersTo, holder, held, Entity.get, Dict.find?_insert]
  cases side : r.holder with
  | source attr =>
    exact ⟨[holder attr], [held], _, .source side (List.mem_singleton_self _)
      (List.mem_singleton_self _) (refers attr)⟩
  | target attr =>
    exact ⟨[held], [holder attr], _, .target side (List.mem_singleton_self _)
      (List.mem_singleton_self _) (refers attr)⟩

theorem Rule.mem_edges {r : Rule} {sources targets : List Entity} {e : Edge} :
    e ∈ r.edges sources targets ↔ r.Shows sources targets e := by
  cases holder : r.holder with
  | source attr =>
    simp only [Rule.edges, holder, List.mem_flatMap, List.mem_map, List.mem_filter, mem_refsIn,
      List.any_eq_true, beq_iff_eq]
    constructor
    · rintro ⟨s, first, id, ⟨refers, t, second, rfl⟩, rfl⟩
      exact .source holder first second refers
    · rintro (⟨same, first, second, refers⟩ | ⟨other, _, _, _⟩)
      · obtain rfl := Holder.source.inj (holder.symm.trans same)
        exact ⟨_, first, _, ⟨refers, _, second, rfl⟩, rfl⟩
      · rw [holder] at other
        nomatch other
  | target attr =>
    simp only [Rule.edges, holder, List.mem_flatMap, List.mem_map, List.mem_filter, mem_refsIn,
      List.any_eq_true, beq_iff_eq]
    constructor
    · rintro ⟨t, second, id, ⟨refers, s, first, rfl⟩, rfl⟩
      exact .target holder first second refers
    · rintro (⟨other, _, _, _⟩ | ⟨same, first, second, refers⟩)
      · rw [holder] at other
        nomatch other
      · obtain rfl := Holder.target.inj (holder.symm.trans same)
        exact ⟨_, second, _, ⟨refers, _, first, rfl⟩, rfl⟩

/-- The edges of a relation that references show from one table to another; those of `linked` may
run the other way. -/
inductive Shown (relation : String) (source target : Table) (e : Edge) : Prop where
  | forward {r : Rule} (rule : r ∈ rules) (named : relation = linked ∨ r.relation = relation)
      (fits : r.fits source.entityType target.entityType = true)
      (shows : r.Shows source.rows target.rows e)
  | backward {r : Rule} (rule : r ∈ rules) (any : relation = linked)
      (fits : r.fits target.entityType source.entityType = true)
      (shows : r.Shows target.rows source.rows e)

theorem mem_edges {relation : String} {source target : Table} {e : Edge} :
    e ∈ edges relation source target ↔ Shown relation source target e := by
  have skipped : ∀ r : Rule, (relation != linked && r.relation != relation) = true ↔
      ¬(relation = linked ∨ r.relation = relation) := by
    simp
  unfold edges
  rw [List.mem_flatMap]
  constructor
  · rintro ⟨r, rule, member⟩
    split at member
    · exact absurd member List.not_mem_nil
    · rename_i taken
      have named := not_not.1 ((skipped r).not.1 taken)
      rcases List.mem_append.1 member with there | back
      · split at there
        · exact .forward rule named ‹_› (Rule.mem_edges.1 there)
        · exact absurd there List.not_mem_nil
      · split at back
        · rename_i both
          obtain ⟨any, fits⟩ := Bool.and_eq_true_iff.1 both
          exact .backward rule (beq_iff_eq.1 any) fits (Rule.mem_edges.1 back)
        · exact absurd back List.not_mem_nil
  · rintro (⟨rule, named, fits, shows⟩ | ⟨rule, any, fits, shows⟩)
    · refine ⟨_, rule, ?_⟩
      rw [if_neg ((skipped _).not.2 (not_not.2 named)), if_pos fits]
      exact List.mem_append_left _ (Rule.mem_edges.2 shows)
    · refine ⟨_, rule, ?_⟩
      rw [if_neg ((skipped _).not.2 (not_not.2 (.inl any)))]
      refine List.mem_append_right _ ?_
      rw [if_pos (by simp [any, fits])]
      exact Rule.mem_edges.2 shows

/-- The edges of a relation other than `linked` run from the first table to the second, each shown
by a rule of the relation. -/
theorem mem_edges_of_ne {relation : String} (other : relation ≠ linked) {source target : Table}
    {e : Edge} :
    e ∈ edges relation source target ↔ ∃ r ∈ rules, r.relation = relation ∧
      r.fits source.entityType target.entityType = true ∧ r.Shows source.rows target.rows e := by
  rw [mem_edges]
  constructor
  · rintro (⟨rule, named, fits, shows⟩ | ⟨_, any, _, _⟩)
    · exact ⟨_, rule, named.resolve_left other, fits, shows⟩
    · exact absurd any other
  · rintro ⟨r, rule, named, fits, shows⟩
    exact .forward rule (.inr named) fits shows

theorem connects_eq_true {relation source target : String} :
    connects relation source target = true ↔
      ∃ r ∈ rules, (relation = linked ∨ r.relation = relation) ∧
        (r.fits source target = true ∨ relation = linked ∧ r.fits target source = true) := by
  simp [connects]

theorem connects_of_mem_edges {relation : String} {source target : Table} {e : Edge}
    (member : e ∈ edges relation source target) :
    connects relation source.entityType target.entityType = true := by
  rw [connects_eq_true]
  rcases mem_edges.1 member with ⟨rule, named, fits, _⟩ | ⟨rule, any, fits, _⟩
  · exact ⟨_, rule, named, .inl fits⟩
  · exact ⟨_, rule, .inl any, .inr ⟨any, fits⟩⟩

theorem isBuiltin_of_connects {relation source target : String}
    (accepted : connects relation source target = true) : isBuiltin relation = true := by
  obtain ⟨r, rule, named, _⟩ := connects_eq_true.1 accepted
  rw [isBuiltin, Bool.or_eq_true, beq_iff_eq, List.any_eq_true]
  exact named.imp_right (fun same => ⟨r, rule, beq_iff_eq.2 same⟩)

/-- A relation connects two types just if there are tables of these types with an edge. -/
theorem connects_iff {relation first second : String} :
    connects relation first second = true ↔ ∃ source target : Table,
      source.entityType = first ∧ target.entityType = second ∧
        edges relation source target ≠ [] := by
  constructor
  · intro accepted
    obtain ⟨r, rule, named, fits⟩ := connects_eq_true.1 accepted
    obtain ⟨sources, targets, e, shows⟩ := r.exists_shows
    rcases fits with fits | ⟨any, fits⟩
    · refine ⟨.ofRows first sources, .ofRows second targets, rfl, rfl, ?_⟩
      exact List.ne_nil_of_mem (mem_edges.2 (.forward rule named fits shows))
    · refine ⟨.ofRows first targets, .ofRows second sources, rfl, rfl, ?_⟩
      exact List.ne_nil_of_mem (mem_edges.2 (.backward rule any fits shows))
  · rintro ⟨source, target, rfl, rfl, found⟩
    obtain ⟨e, member⟩ := List.exists_mem_of_ne_nil _ found
    exact connects_of_mem_edges member

/-- Whether an edge counts in a search: it is of the relation, and not known to lie outside the
window. -/
structure Admissible (relation : String) (window : Option Window) (e : Edge) : Prop where
  named : relation = linked ∨ e.relation = relation
  inside : ∀ w t, window = some w → e.observedAt = some t → w.contains t = true

theorem counts_iff {relation : String} {window : Option Window} {e : Edge} :
    counts relation window e = true ↔ Admissible relation window e := by
  have inside : e.within window = true ↔
      ∀ w t, window = some w → e.observedAt = some t → w.contains t = true := by
    cases window <;> cases seen : e.observedAt <;> simp [Edge.within, seen]
  rw [counts, Bool.and_eq_true, inside, Bool.or_eq_true, beq_iff_eq, beq_iff_eq]
  exact ⟨fun both => ⟨both.1, both.2⟩, fun admissible => ⟨admissible.named, admissible.inside⟩⟩

/-- Whether an edge goes from one of some entities to another; one of `linked` may go back. -/
def Goes (relation : String) (sources : List String) (id : String) (e : Edge) : Prop :=
  (e.source ∈ sources ∧ e.target = id) ∨
    (relation = linked ∧ e.target ∈ sources ∧ e.source = id)

theorem leadsTo_iff {relation : String} {sources : List String} {id : String} {e : Edge} :
    leadsTo relation sources id e = true ↔ Goes relation sources id e := by
  simp [leadsTo, Goes, and_assoc]

end Relation

namespace Exchange

/-- The edges in the answers of connectors, each asked after those before it. -/
inductive Answers (x : Exchange) (q : RelationQuery) (connectors : List Connector) (e : Edge) :
    Prop where
  | intro {i : Nat} {c : Connector} {edges : List Edge} (asked : connectors[i]? = some c)
      (answered : c.client.relate (x.count + i) q = .given edges) (member : e ∈ edges)

theorem count_record (x : Exchange) (r : Request) : (x.record r).count = x.count + 1 := by
  simp [count, record]

theorem answers_cons {x : Exchange} {q : RelationQuery} {c : Connector} {rest : List Connector}
    {e : Edge} (r : Request) :
    x.Answers q (c :: rest) e ↔
      (∃ edges, c.client.relate x.count q = .given edges ∧ e ∈ edges) ∨
        (x.record r).Answers q rest e := by
  constructor
  · rintro ⟨asked, answered, member⟩
    rename_i i d edges
    cases i with
    | zero => exact .inl ⟨edges, Option.some.inj asked ▸ answered, member⟩
    | succ i =>
      refine .inr ⟨asked, ?_, member⟩
      rw [count_record, Nat.add_right_comm, Nat.add_assoc]
      exact answered
  · rintro (⟨edges, answered, member⟩ | ⟨asked, answered, member⟩)
    · exact ⟨(rfl : (c :: rest)[0]? = some c), answered, member⟩
    · rename_i i d edges
      refine .intro (i := i + 1) asked ?_ member
      rw [count_record, Nat.add_right_comm, Nat.add_assoc] at answered
      exact answered

theorem mem_relate {patience : Nat} {q : RelationQuery} {x : Exchange} {connectors : List Connector}
    {e : Edge} :
    e ∈ (x.relate patience q connectors).2.edges ↔
      isOf q.relation e = true ∧ x.Answers q connectors e := by
  induction connectors generalizing x with
  | nil =>
    constructor
    · exact fun member => absurd member List.not_mem_nil
    · rintro ⟨_, asked, _, _⟩
      simp at asked
  | cons c rest ih =>
    rw [answers_cons (.relation c.name)]
    have later := ih (x := x.record (.relation c.name))
    rw [relate]
    cases answer : c.client.relate x.count q with
    | given edges =>
      simp only [Answer.within, List.mem_append, List.mem_filter, later, Answer.given.injEq,
        exists_eq_left']
      tauto
    | failed text => simp [Answer.within, later]
    | silent => simp [Answer.within, later]

end Exchange
end ThreatHunt
