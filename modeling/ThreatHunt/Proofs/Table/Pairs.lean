import Mathlib.Data.List.FinRange
import Mathlib.Data.List.Forall2
import ThreatHunt.Proofs.Table.Joining

/-!
The pairs of a join. A join looks its matches up in an index, and still gives one row for each pair
of places whose rows match, in the order of the left places and then of the right ones. A row keeps
what its left row has and takes what that lacks from its match.
-/

namespace ThreatHunt

namespace Entity

variable {row l r : Entity}

/-- Whether a row has the attributes of a left row and of its match. -/
structure Joins (row l r : Entity) : Prop where
  kept : ∀ name value, l.attributes.find? name = some value → value.isNull = false →
    row.attributes.find? name = some value
  filled : ∀ name value, (l.get name).isNull = true → r.attributes.find? name = some value →
    row.attributes.find? name = some value
  /-- What neither row has is not there, and a null that is not filled stays. -/
  rest : ∀ name, (l.get name).isNull = true → r.attributes.find? name = none →
    row.attributes.find? name = l.attributes.find? name

theorem joins_absorb (l r : Entity) : (l.absorb r).Joins l r where
  kept := by
    intro name value found there
    have known : (l.get name).isNull = false := by rwa [get, found]
    rw [find?_absorb, known]
    exact found
  filled := by
    intro name value missing found
    rw [find?_absorb, if_pos missing, found]
    rfl
  rest := by
    intro name missing absent
    rw [find?_absorb, if_pos missing, absent]
    rfl

theorem Joins.rename (joins : row.Joins l r) (id : String) : Joins { row with id := id } l r :=
  ⟨joins.kept, joins.filled, joins.rest⟩

end Entity

namespace Table

section Places

variable {lefts rights : List Entity} (Match : Entity → Entity → Prop)

/-- The row of a left row and the match at a place. The first match leaves the identifier as it is,
and each further one is added to it. -/
structure RowAt (l : Entity) (rights : List Entity) (j : Fin rights.length) (row : Entity) :
    Prop where
  joins : row.Joins l rights[j]
  first : (∀ k < j, ¬Match l rights[k]) → row.id = l.id
  further : (∃ k < j, Match l rights[k]) → row.id = l.id ++ "+" ++ rights[j].id

/-- The rows of a join, for the pairs of places whose rows match. -/
structure JoinedAt (lefts rights : List Entity)
    (pairs : List (Fin lefts.length × Fin rights.length)) (rows : List Entity) : Prop where
  ordered : pairs.Pairwise (fun p q => p.1 < q.1 ∨ p.1 = q.1 ∧ p.2 < q.2)
  complete : ∀ i j, (i, j) ∈ pairs ↔ Match lefts[i] rights[j]
  rows : List.Forall₂ (fun p row => RowAt Match lefts[p.1] rights p.2 row) pairs rows

variable [DecidableRel Match]

/-- The places of the matches of a left row. -/
def placesOf (l : Entity) (rights : List Entity) : List (Fin rights.length) :=
  (List.finRange rights.length).filter (fun j => Match l rights[j])

theorem mem_placesOf {l : Entity} {j : Fin rights.length} :
    j ∈ placesOf Match l rights ↔ Match l rights[j] := by
  simp [placesOf]

theorem pairwise_placesOf (l : Entity) (rights : List Entity) :
    (placesOf Match l rights).Pairwise (· < ·) :=
  (List.pairwise_lt_finRange rights.length).filter _

theorem map_placesOf (l : Entity) (rights : List Entity) :
    (placesOf Match l rights).map (fun j => rights[j]) = rights.filter (fun r => Match l r) := by
  have all : rights = (List.finRange rights.length).map (fun j => rights[j]) :=
    (List.map_getElem_finRange rights).symm
  conv_rhs => rw [all]
  rw [List.filter_map]
  rfl

/-- The pairs of places whose rows match. -/
def pairs (lefts rights : List Entity) : List (Fin lefts.length × Fin rights.length) :=
  (List.finRange lefts.length).flatMap (fun i =>
    (placesOf Match lefts[i] rights).map (fun j => (i, j)))

theorem mem_pairs {i : Fin lefts.length} {j : Fin rights.length} :
    (i, j) ∈ pairs Match lefts rights ↔ Match lefts[i] rights[j] := by
  simp [pairs, mem_placesOf]

theorem pairwise_pairs (lefts rights : List Entity) :
    (pairs Match lefts rights).Pairwise (fun p q => p.1 < q.1 ∨ p.1 = q.1 ∧ p.2 < q.2) := by
  refine List.pairwise_flatMap.2 ⟨fun i _ => ?_, ?_⟩
  · exact List.pairwise_map.2
      ((pairwise_placesOf Match lefts[i] rights).imp (fun less => .inr ⟨rfl, less⟩))
  · refine (List.pairwise_lt_finRange lefts.length).imp (fun less p first q second => ?_)
    obtain ⟨_, _, rfl⟩ := List.mem_map.1 first
    obtain ⟨_, _, rfl⟩ := List.mem_map.1 second
    exact .inl less

/-- A left row and its matches give one row for each of their places. -/
theorem forall₂_joinRow (l : Entity) (rights : List Entity) :
    List.Forall₂ (RowAt Match l rights) (placesOf Match l rights)
      (joinRow l (rights.filter (fun r => Match l r))) := by
  have ordered := pairwise_placesOf Match l rights
  have all : ∀ k, Match l rights[k] → k ∈ placesOf Match l rights :=
    fun k => (mem_placesOf Match).2
  have each : ∀ k ∈ placesOf Match l rights, Match l rights[k] := fun k => (mem_placesOf Match).1
  rw [← map_placesOf Match]
  cases places : placesOf Match l rights with
  | nil => exact .nil
  | cons j others =>
    rw [places] at ordered all each
    obtain ⟨least, _⟩ := List.pairwise_cons.1 ordered
    have fresh : ∀ k < j, ¬Match l rights[k] := by
      intro k less matched
      rcases List.mem_cons.1 (all k matched) with rfl | later
      · exact lt_irrefl k less
      · exact lt_asymm less (least k later)
    have before := each j (List.mem_cons_self ..)
    rw [List.map_cons, joinRow]
    refine .cons ⟨Entity.joins_absorb l _, fun _ => rfl, ?_⟩ ?_
    · rintro ⟨k, less, matched⟩
      exact absurd matched (fresh k less)
    · rw [List.map_map, List.forall₂_map_right_iff, List.forall₂_same]
      intro k later
      refine ⟨(Entity.joins_absorb l _).rename _, fun none => ?_, fun _ => rfl⟩
      exact absurd before (none j (least k later))

theorem forall₂_pairs (lefts rights : List Entity) :
    List.Forall₂ (fun p row => RowAt Match lefts[p.1] rights p.2 row) (pairs Match lefts rights)
      (lefts.flatMap (fun l => joinRow l (rights.filter (fun r => Match l r)))) := by
  have all : lefts = (List.finRange lefts.length).map (fun i => lefts[i]) :=
    (List.map_getElem_finRange lefts).symm
  have rows : lefts.flatMap (fun l => joinRow l (rights.filter (fun r => Match l r))) =
      (List.finRange lefts.length).flatMap (fun i =>
        joinRow lefts[i] (rights.filter (fun r => Match lefts[i] r))) := by
    conv_lhs => rw [all]
    rw [List.flatMap_map]
  rw [rows, pairs]
  refine List.rel_flatMap (R := Eq) (List.forall₂_refl (List.finRange lefts.length)) ?_
  rintro i _ rfl
  exact List.forall₂_map_left_iff.2 (forall₂_joinRow Match lefts[i] rights)

end Places

variable {left right : Table} {leftAttr rightAttr : String}

/-- Whether two rows have the same key, neither being null. -/
def Matches (leftAttr rightAttr : String) (l r : Entity) : Prop :=
  (l.valueOf leftAttr).matchKey? ≠ none ∧
    (l.valueOf leftAttr).matchKey? = (r.valueOf rightAttr).matchKey?

instance : DecidableRel (Matches leftAttr rightAttr) :=
  fun l r => inferInstanceAs (Decidable ((l.valueOf leftAttr).matchKey? ≠ none ∧
    (l.valueOf leftAttr).matchKey? = (r.valueOf rightAttr).matchKey?))

theorem matchesOf_eq_filter (rows : List Entity) (l : Entity) :
    matchesOf leftAttr rightAttr rows l =
      rows.filter (fun r => Matches leftAttr rightAttr l r) := by
  unfold matchesOf
  split
  · rename_i key own
    refine List.filter_congr (fun r _ => ?_)
    rw [Bool.eq_iff_iff, beq_iff_eq, decide_eq_true_iff, Matches, own]
    exact ⟨fun same => ⟨Option.some_ne_none key, same.symm⟩, fun both => both.2.symm⟩
  · rename_i own
    simp [Matches, own]

theorem joinRows_eq_filter : joinRows left right leftAttr rightAttr =
    left.rows.flatMap (fun l =>
      joinRow l (right.rows.filter (fun r => Matches leftAttr rightAttr l r))) := by
  rw [joinRows_eq]
  simp only [matchesOf_eq_filter]

/-- A join gives one row for each pair of places whose rows have the same key, which is not null, in
the order of the left places and then of the right ones. -/
theorem joinRows_joinedAt (left right : Table) (leftAttr rightAttr : String) :
    ∃ pairs, JoinedAt (Matches leftAttr rightAttr) left.rows right.rows pairs
      (joinRows left right leftAttr rightAttr) := by
  refine ⟨pairs (Matches leftAttr rightAttr) left.rows right.rows, ?_, ?_, ?_⟩
  · exact pairwise_pairs _ left.rows right.rows
  · exact fun i j => mem_pairs _
  · rw [joinRows_eq_filter]
    exact forall₂_pairs _ left.rows right.rows

end Table
end ThreatHunt
