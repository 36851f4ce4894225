import Mathlib
import ThreatHunt.Connector.Bundle
import ThreatHunt.Proofs.Command.Reading
import ThreatHunt.Proofs.Hunt.Around
import ThreatHunt.Proofs.Hunt.Sightings

/-!
Names of relations in any letter case. What a search names, what a connector declares and what a
bundle holds is put in lower case; an edge of any other connector stays as it is spelled. So a search
uses an edge that is spelled in lower case, in whatever case it names the relation, and of the edges
that are spelled otherwise only a search for `linked` uses any.
-/

namespace ThreatHunt

open Outcome

theorem Text.lower_lower (word : String) : Text.lower (Text.lower word) = Text.lower word := by
  rw [Text.lower, Text.lower, String.toList_ofList, List.map_map]
  exact congrArg _ (List.map_congr_left (fun c _ => Char.toLower_toLower_eq_toLower c))

/-- Whether the relation of an edge is spelled in lower case. -/
def Edge.IsLower (e : Edge) : Prop := Text.lower e.relation = e.relation

namespace Relation

/-- Whether a word names the relation of an edge, in whatever case either is written. -/
def Names (word : String) (e : Edge) : Prop :=
  Text.lower word = linked ∨ Text.lower e.relation = Text.lower word

theorem admissible_lower_iff {word : String} {window : Option Window} {e : Edge} :
    Admissible (Text.lower word) window e ↔
      Names word e ∧ (Text.lower word = linked ∨ e.IsLower) ∧ e.within window = true := by
  rw [← counts_iff, counts, Bool.and_eq_true, Bool.or_eq_true, beq_iff_eq, beq_iff_eq]
  constructor
  · rintro ⟨any | same, inside⟩
    · exact ⟨.inl any, .inl any, inside⟩
    · have low : e.IsLower := by rw [Edge.IsLower, same, Text.lower_lower]
      exact ⟨.inr (low.trans same), .inr low, inside⟩
  · rintro ⟨any | same, spelled, inside⟩
    · exact ⟨.inl any, inside⟩
    · exact ⟨spelled.imp_right (fun low => low.symm.trans same), inside⟩

end Relation

/-- A relation that is declared in any case can be asked for in any case. -/
theorem Capabilities.supportsRelation_withRelations {c : Capabilities} {declared : List String}
    {word : String} :
    (c.withRelations declared).supportsRelation (Text.lower word) = true ↔
      ∃ r ∈ declared, Text.lower word = Relation.linked ∨ Text.lower r = Text.lower word := by
  simp [supportsRelation, withRelations, Relation.linked, or_comm]

/-- Whether all edges that a connector answers with are spelled in lower case. -/
def Connector.AnswersLower (c : Connector) : Prop :=
  ∀ count,
    (∀ q response, c.client.answer count q = .given response → ∀ e ∈ response.edges, e.IsLower) ∧
    ∀ q edges, c.client.relate count q = .given edges → ∀ e ∈ edges, e.IsLower

namespace Bundle

variable {b after : Bundle} {doc object : Json} {edges : List Edge} {index : Nat}

/-- Whether all edges of a bundle are spelled in lower case. -/
def IsLower (b : Bundle) : Prop := ∀ e ∈ b.edges, e.IsLower

theorem isLower_normalEdge (e : Edge) : (normalEdge e).IsLower := Text.lower_lower e.relation

theorem IsLower.addEdges (lower : b.IsLower) (added : ∀ e ∈ edges, e.IsLower) :
    (b.addEdges edges).IsLower := by
  intro e member
  rcases List.mem_append.1 member with old | new
  · exact lower e old
  · exact added e new

theorem edges_addTables {tables : List (String × Json)} (added : b.addTables tables = .ok after) :
    after.edges = b.edges := by
  induction tables generalizing b with
  | nil => exact congrArg Bundle.edges (Except.ok.inj added).symm
  | cons t rest ih =>
    obtain ⟨entityType, records⟩ := t
    cases records with
    | arr records =>
      obtain ⟨rows, _, others⟩ := bind_eq_ok.1 added
      have kept := ih others
      exact kept
    | _ => cases added

theorem isLower_of_readEdges (read : readEdges doc = .ok edges) : ∀ e ∈ edges, e.IsLower := by
  unfold readEdges at read
  split at read
  · rw [← Except.ok.inj read]
    intro e member
    obtain ⟨raw, _, rfl⟩ := List.mem_map.1 member
    exact isLower_normalEdge raw
  · cases read

theorem isLower_of_objectEdge? {e : Edge} (made : objectEdge? object = some e) : e.IsLower := by
  unfold objectEdge? at made
  obtain ⟨_, _, made⟩ := Option.bind_eq_some_iff.1 made
  obtain ⟨_, _, made⟩ := Option.bind_eq_some_iff.1 made
  obtain ⟨_, _, made⟩ := Option.bind_eq_some_iff.1 made
  rw [← Option.some.inj made]
  exact isLower_normalEdge _

theorem IsLower.addObject (lower : b.IsLower) (added : b.addObject index object = .ok after) :
    after.IsLower := by
  unfold Bundle.addObject at added
  split at added
  · split at added
    · cases added
    · split at added
      · rename_i e made
        rw [← Except.ok.inj added]
        exact lower.addEdges (List.forall_mem_singleton.2 (isLower_of_objectEdge? made))
      · cases added
    · obtain ⟨rows, _, same⟩ := bind_eq_ok.1 added
      rw [← pure_eq_ok.1 same]
      exact lower
  · cases added

theorem IsLower.addObjects {objects : List Json} (lower : b.IsLower)
    (added : b.addObjects index objects = .ok after) : after.IsLower := by
  induction objects generalizing b index with
  | nil => exact Except.ok.inj added ▸ lower
  | cons object rest ih =>
    obtain ⟨_, first, others⟩ := bind_eq_ok.1 added
    exact ih (lower.addObject first) others

theorem isLower_empty : empty.IsLower := fun _ member => absurd member List.not_mem_nil

/-- Bundles are read with all edges in lower case. -/
theorem isLower_of_ofJson (read : ofJson doc = .ok b) : b.IsLower := by
  unfold ofJson at read
  split at read
  · obtain ⟨tabled, tables, read⟩ := bind_eq_ok.1 read
    have lower : tabled.IsLower := by
      intro e member
      rw [edges_addTables tables] at member
      exact isLower_empty e member
    split at read
    · obtain ⟨edges, listed, rfl⟩ := map_eq_ok.1 read
      exact lower.addEdges (isLower_of_readEdges listed)
    · exact pure_eq_ok.1 read ▸ lower
  · cases read
  · exact isLower_empty.addObjects read
  · split at read
    · split at read
      · exact isLower_empty.addObjects read
      · cases read
    · cases read

theorem eq_answer_of_answer? {timeAttributes : List String} {q : EntityQuery} {response : Response}
    (answered : answer? timeAttributes b q = .ok response) :
    response = answer timeAttributes b q := by
  unfold answer? at answered
  split at answered
  · obtain ⟨_, _, same⟩ := bind_eq_ok.1 answered
    exact (pure_eq_ok.1 same).symm
  · exact (pure_eq_ok.1 answered).symm

theorem IsLower.connector (lower : b.IsLower) (name : String) (timeAttributes : List String) :
    (b.connector name timeAttributes).AnswersLower := by
  have touching : ∀ ids, ∀ e ∈ b.edgesTouching ids, e.IsLower :=
    fun _ e member => lower e (List.mem_of_mem_filter member)
  intro count
  constructor
  · intro q response given
    simp only [Bundle.connector, client] at given
    split at given
    · rename_i made answered
      obtain rfl := Answer.given.inj given
      rw [eq_answer_of_answer? answered, answer]
      split
      · exact fun _ member => absurd member List.not_mem_nil
      · exact touching _
    · cases given
  · intro q edges given
    rw [← Answer.given.inj given]
    exact fun e member => touching q.ids e (List.mem_of_mem_filter member)

end Bundle

namespace Hunt

open ThreatHunt.Relation (Enters Goes Names Shown linked)

variable {h : Hunt} {sightings : List Edge} {word : String} {source target : Table}
  {window : Option Window}

/-- Whether a search that names a relation uses an edge: it was recorded, shows in references or is
answered, has the relation, is spelled as searches are, and was seen inside the window. -/
structure Uses (h : Hunt) (sightings : List Edge) (word : String) (source target : Table)
    (window : Option Window) (e : Edge) : Prop where
  origin : e.First sightings ∨ Shown (Text.lower word) source target e ∨
    h.exchange.Answers ⟨Text.lower word, source.ids, window⟩
      (h.connectors.forRelation (Text.lower word)) e
  names : Names word e
  spelled : Text.lower word = linked ∨ e.IsLower
  inside : e.within window = true

theorem Observes.uses_iff (observes : h.Observes sightings) {e : Edge} :
    h.Uses sightings word source target window e ↔
      h.Sees (Text.lower word) source target window e ∧
        Relation.Admissible (Text.lower word) window e := by
  rw [observes.sees_iff, Relation.admissible_lower_iff]
  constructor
  · rintro ⟨origin, names, spelled, inside⟩
    exact ⟨origin, names, spelled, inside⟩
  · rintro ⟨origin, names, spelled, inside⟩
    exact ⟨origin, names, spelled, inside⟩

/-- Whether a search around a variable uses an edge that relates an entity of a pool to it. -/
def UsesAround (h : Hunt) (sightings : List Edge) (word : String) (reversed : Bool)
    (pool around : Table) (window : Option Window) (id : String) : Prop :=
  if reversed then
    ∃ e, h.Uses sightings word around pool window e ∧ Goes (Text.lower word) around.ids id e
  else ∃ e, h.Uses sightings word pool around window e ∧ Enters (Text.lower word) around.ids id e

theorem Observes.joined_iff (observes : h.Observes sightings) {id : String} :
    h.Joined (Text.lower word) source target window id ↔
      ∃ e, h.Uses sightings word source target window e ∧
        Goes (Text.lower word) source.ids id e := by
  simp only [Joined, observes.uses_iff, and_assoc]

theorem Observes.related_iff (observes : h.Observes sightings) {reversed : Bool}
    {pool around : Table} {id : String} :
    h.Related (Text.lower word) reversed pool around window id ↔
      h.UsesAround sightings word reversed pool around window id := by
  simp only [Related, UsesAround, observes.joined_iff, observes.uses_iff, and_assoc]

/-- Whether something tells that there is a relation of a name. -/
def KnowsRelation (h : Hunt) (sightings : List Edge) (word : String) : Prop :=
  Text.lower word = linked ∨ h.connectors.forRelation (Text.lower word) ≠ [] ∨
    ∃ e ∈ sightings, Names word e ∧ e.IsLower

theorem Observes.edgesOf_ne_nil (observes : h.Observes sightings) {e : Edge}
    (seen : e ∈ sightings) : h.store.edgesOf (some e.relation) ≠ [] := by
  have some : h.store.edges.any (fun k => k.key == e.key) = true := by
    rw [observes.edges, Edge.any_recordAll, List.nil_append]
    exact List.any_eq_true.2 ⟨e, seen, beq_self_eq_true _⟩
  obtain ⟨k, member, same⟩ := List.any_eq_true.1 some
  have named : k.relation = e.relation := congrArg Prod.fst (beq_iff_eq.1 same)
  exact List.ne_nil_of_mem (List.mem_filter.2 ⟨member, beq_iff_eq.2 named⟩)

/-- A relation that is known is not refused, whatever it is to connect. -/
theorem Observes.checks_of_known (observes : h.Observes sightings)
    (known : h.KnowsRelation sightings word) (time : Instant) (statement : PlacedStatement) :
    (h.scene time statement).checkRelation (Text.lower word) = .ok () ∧
      ∀ a b, (h.scene time statement).checkConnects (Text.lower word) a b = .ok () := by
  have facts : Text.lower word = linked ∨
      h.connectors.declares (Text.lower word) = true ∨
      h.store.edgesOf (some (Text.lower word)) ≠ [] := by
    rcases known with any | declared | ⟨e, seen, names, low⟩
    · exact .inl any
    · obtain ⟨c, member⟩ := List.exists_mem_of_ne_nil _ declared
      obtain ⟨present, supports⟩ := List.mem_filter.1 member
      obtain ⟨r, own, matching⟩ := List.any_eq_true.1 supports
      rcases Bool.or_eq_true_iff.1 matching with same | any
      · refine .inr (.inl (List.any_eq_true.2 ⟨c, present, ?_⟩))
        exact List.contains_iff_mem.2 (beq_iff_eq.1 same ▸ own)
      · exact .inl (beq_iff_eq.1 any)
    · rcases names with any | same
      · exact .inl any
      · exact .inr (.inr (low.symm.trans same ▸ observes.edgesOf_ne_nil seen))
  constructor
  · refine if_pos ?_
    rcases facts with any | declared | recorded
    · simp [Relation.isBuiltin, any]
    · simp [Hunt.scene, declared]
    · simp [Hunt.scene, recorded]
  · intro a b
    have alone : (h.scene time statement).isRuleOnly (Text.lower word) = false := by
      rcases facts with any | declared | recorded
      · simp [Scene.isRuleOnly, any]
      · simp [Scene.isRuleOnly, Hunt.scene, declared]
      · simp [Scene.isRuleOnly, Hunt.scene, recorded]
    simp [Scene.checkConnects, alone]

/-- Searches name relations and connectors declare them in any case. Of all edges that were observed,
that references show or that are answered, a search uses those that are spelled in lower case, and one
for `linked` those of any spelling. An edge of a bundle is spelled so, and a search that names a
relation of a connector or of such an edge is not refused. -/
theorem run_find_spelled (observes : h.Observes sightings) (word : String) :
    (∀ text placed relation, .ok placed ∈ Script.read text →
      placed.statement.command.relation? = some relation →
      ∃ written, relation = Text.lower written) ∧
    (∀ (c : Capabilities) declared,
      (c.withRelations declared).supportsRelation (Text.lower word) = true ↔
        ∃ r ∈ declared, Text.lower word = linked ∨ Text.lower r = Text.lower word) ∧
    (∀ doc b name timeAttributes, Bundle.ofJson doc = .ok b →
      (b.connector name timeAttributes).AnswersLower) ∧
    (h.KnowsRelation sightings word → ∀ time statement,
      (h.scene time statement).checkRelation (Text.lower word) = .ok () ∧
        ∀ a b, (h.scene time statement).checkConnects (Text.lower word) a b = .ok ()) ∧
    (∀ (now : Moment) (statement : PlacedStatement) first second span completion,
      statement.statement.command = .findBetween (Text.lower word) first second span →
      (h.run now statement).2 = .ok completion →
      ∃ source target window, ∃ joined : Entity → Bool,
        h.table first = .ok source ∧ h.table second = .ok target ∧
        (h.scene now.time statement).window span = .ok window ∧
        (∀ row ∈ target.rows, joined row = true ↔
          ∃ e, h.Uses sightings word source target window e ∧
            Goes (Text.lower word) source.ids row.id e) ∧
        (h.run now statement).1.table (h.scene now.time statement).outputName =
          .ok { target with rows := target.rows.filter joined }) ∧
    (∀ (now : Moment) (statement : PlacedStatement) entityType reversed input asked span limit
      completion,
      statement.statement.command =
        .findRelated entityType (Text.lower word) reversed input asked span limit →
      (h.run now statement).2 = .ok completion →
      ∃ pool around prepared window, ∃ found : Entity → Bool,
        h.table input = .ok around ∧
        (h.scene now.time statement).preparePattern entityType asked = .ok prepared ∧
        (h.scene now.time statement).window span = .ok window ∧
        (∃ tables, List.Forall₂ (fun v t => h.table v.name = .ok t)
          (h.vars.list.filter (fun v => v.entityType == entityType)) tables ∧
          pool = Scene.pool entityType tables) ∧
        (∀ row ∈ pool.rows, found row = true ↔
          Matches h.config.timeAttributes prepared window row ∧
            h.UsesAround sightings word reversed pool around window row.id) ∧
        (h.run now statement).1.table (h.scene now.time statement).outputName =
          .ok (Table.limit limit { pool with rows := pool.rows.filter found })) := by
  refine ⟨?_, ?_, ?_, observes.checks_of_known, ?_, ?_⟩
  · exact fun text placed relation member => Script.searches_of_mem_read member relation
  · exact fun c declared => Capabilities.supportsRelation_withRelations
  · exact fun doc b name timeAttributes read =>
      (Bundle.isLower_of_ofJson read).connector name timeAttributes
  · intro now statement first second span completion finds completed
    obtain ⟨source, target, window, joined, left, right, spanned, joins, bound⟩ :=
      joined_of_completed observes.reachable finds completed
    refine ⟨source, target, window, joined, left, right, spanned, ?_, bound⟩
    intro row member
    rw [joins row member, observes.joined_iff]
  · intro now statement entityType reversed input asked span limit completion finds completed
    obtain ⟨tables, around, prepared, window, found, listed, center, ready, spanned, finds, bound⟩ :=
      found_of_completed observes.reachable finds completed
    refine ⟨_, around, prepared, window, found, center, ready, spanned, ⟨tables, listed, rfl⟩, ?_,
      bound⟩
    intro row member
    rw [finds row member, observes.related_iff]

/-- A file that is seen to be accessed from another, with the relation in some spelling. -/
def accessedAs (relation : String) : Edge := ⟨relation, "f1", "f2", none⟩

def findSpelled (word : String) : PlacedStatement :=
  ⟨"r = FIND " ++ word ++ " BETWEEN a AND a", 1, 1, some "r",
    .findBetween (Text.lower word) "a" "a" none⟩

theorem run_find_spelled_upper :
    ∃ t, ((reported [accessedAs "accessed"]).run epoch (findSpelled "ACCESSED")).1.table "r" =
        .ok t ∧ "f2" ∈ t.ids := by
  have observes := reported_observes [accessedAs "accessed"]
  have completed : ∃ completion,
      ((reported [accessedAs "accessed"]).run epoch (findSpelled "ACCESSED")).2 =
        .ok completion := by
    have reached := observes.reachable
    rw [(reported_completes _).1] at reached ⊢
    exact (run_of_current reached epoch (findSpelled "ACCESSED") rfl rfl rfl
      (by decide +kernel) (by decide +kernel)).2
  obtain ⟨completion, completed⟩ := completed
  obtain ⟨source, target, window, joined, left, right, spanned, joins, bound⟩ :=
    (run_find_spelled observes "ACCESSED").2.2.2.2.1 epoch (findSpelled "ACCESSED") "a" "a" none
      completion rfl completed
  refine ⟨_, bound, ?_⟩
  rw [(reported_completes _).1] at left right
  obtain rfl := Except.ok.inj spanned
  have origin : "f1" ∈ source.ids := by
    rw [← Except.ok.inj left]
    decide +kernel
  obtain ⟨row, inside, last⟩ : ∃ row ∈ target.rows, row.id = "f2" := by
    rw [← Except.ok.inj right]
    decide +kernel
  have uses : (reported [accessedAs "accessed"]).Uses [accessedAs "accessed"] "ACCESSED" source
      target none (accessedAs "accessed") :=
    ⟨.inl rfl, .inr (by decide +kernel), .inr (by unfold Edge.IsLower; decide +kernel), rfl⟩
  have met := (joins row inside).2 ⟨_, uses, .inl ⟨origin, last.symm⟩⟩
  exact List.mem_map.2 ⟨row, List.mem_filter.2 ⟨inside, met⟩, last⟩

/-- A hunt in which files were seen to be accessed from each other, each time in another spelling. -/
def misspelled : Hunt := reported [⟨"accessed", "f2", "f1", none⟩, accessedAs "Accessed"]

/-- A search uses the edge of its own spelling and not the other one. -/
theorem run_find_misspelled_fails :
    misspelled.Observes [⟨"accessed", "f2", "f1", none⟩, accessedAs "Accessed"] ∧
      Names "accessed" (accessedAs "Accessed") ∧ (accessedAs "Accessed").within none = true ∧
      ∃ a, misspelled.table "a" = .ok a ∧ "f2" ∈ a.ids ∧
        Goes "accessed" a.ids "f2" (accessedAs "Accessed") ∧
        ∃ completion t,
          (misspelled.run epoch (findSpelled "accessed")).2 = .ok completion ∧
          (misspelled.run epoch (findSpelled "accessed")).1.table "r" = .ok t ∧
          t.ids = ["f1"] := by
  have observes : misspelled.Observes _ := reported_observes _
  refine ⟨observes, .inr (by decide +kernel), rfl, ?_⟩
  have reached := observes.reachable
  have whole : misspelled = _ := (reported_completes _).1
  rw [whole] at reached ⊢
  obtain ⟨after, completion, completed⟩ := run_of_current reached epoch (findSpelled "accessed")
    rfl rfl rfl (by decide +kernel) (by decide +kernel)
  refine ⟨_, rfl, by decide +kernel, .inl ⟨by decide +kernel, rfl⟩, completion, ?_⟩
  rw [after]
  exact ⟨_, completed, rfl, by decide +kernel⟩

end Hunt
end ThreatHunt
