import Mathlib.Data.List.Induction
import ThreatHunt.Proofs.Keyed
import ThreatHunt.Table.Group

/-!
Groups of rows. There is one group for each key, in the order in which the keys are first seen, and
it holds the rows of its key in their order. A key tells the keys of all attributes as long as none
of these holds what keeps them apart.
-/

namespace ThreatHunt.Table

open Firsts

variable {keys attrs : List String} {key : String} {row other : Entity} {rows : List Entity}

theorem addToGroup_of_mem (members : String → List Entity) (distinct : keys.Nodup)
    (seen : key ∈ keys) :
    addToGroup key row (keys.map (fun k => (k, members k))) =
      keys.map (fun k => (k, if k = key then members k ++ [row] else members k)) := by
  induction keys with
  | nil => exact absurd seen List.not_mem_nil
  | cons first rest ih =>
    obtain ⟨apart, others⟩ := List.nodup_cons.1 distinct
    rw [List.map_cons, List.map_cons, addToGroup]
    by_cases here : first = key
    · have later : ∀ k ∈ rest, k ≠ key := by
        rintro k member rfl
        exact apart (here ▸ member)
      rw [if_pos here, if_pos here]
      refine congrArg _ (List.map_congr_left (fun k member => ?_))
      rw [if_neg (later k member)]
    · have later : key ∈ rest := (List.mem_cons.1 seen).resolve_left (Ne.symm here)
      rw [if_neg here, if_neg here, ih others later]

theorem addToGroup_of_not_mem (members : String → List Entity) (new : key ∉ keys) :
    addToGroup key row (keys.map (fun k => (k, members k))) =
      keys.map (fun k => (k, members k)) ++ [(key, [row])] := by
  induction keys with
  | nil => rfl
  | cons first rest ih =>
    obtain ⟨other, later⟩ := not_or.1 (mt List.mem_cons.2 new)
    rw [List.map_cons, addToGroup, if_neg (Ne.symm other), ih later]
    rfl

/-- The keys of rows in the order in which they are first seen. -/
def groupKeys (attrs : List String) (rows : List Entity) : List String :=
  (rows.map (groupKey attrs)).eraseDups

/-- The rows of a key. -/
def membersOf (attrs : List String) (rows : List Entity) (key : String) : List Entity :=
  rows.filter (fun row => groupKey attrs row = key)

theorem membersOf_concat : membersOf attrs (rows ++ [row]) key =
    if key = groupKey attrs row then membersOf attrs rows key ++ [row]
    else membersOf attrs rows key := by
  rw [membersOf, List.filter_append]
  split
  · rename_i own
    simp [membersOf, own]
  · rename_i apart
    simp [membersOf, Ne.symm apart]

/-- There is one group for each key, which holds the rows of the key. -/
theorem groups_eq (attrs : List String) (rows : List Entity) :
    groups attrs rows = (groupKeys attrs rows).map (fun key => (key, membersOf attrs rows key)) := by
  -- The last row stands behind the members of a group that is there, or opens one at the end.
  induction rows using List.reverseRecOn with
  | nil => rfl
  | append_singleton rows row ih =>
    have last : groups attrs (rows ++ [row]) =
        addToGroup (groupKey attrs row) row (groups attrs rows) := List.foldl_concat ..
    rw [last, ih, groupKeys, groupKeys, List.map_append, List.map_singleton]
    simp only [membersOf_concat]
    by_cases old : groupKey attrs row ∈ rows.map (groupKey attrs)
    · rw [eraseDups_concat_of_mem old]
      exact addToGroup_of_mem _ (nodup_eraseDups _) (List.mem_eraseDups.2 old)
    · have new : groupKey attrs row ∉ (rows.map (groupKey attrs)).eraseDups := by
        rwa [List.mem_eraseDups]
      have none : membersOf attrs rows (groupKey attrs row) = [] := by
        refine List.filter_eq_nil_iff.2 (fun r member same => old ?_)
        have own : groupKey attrs r = groupKey attrs row := of_decide_eq_true same
        exact own ▸ List.mem_map_of_mem member
      rw [eraseDups_concat_of_not_mem old, addToGroup_of_not_mem _ new, List.map_append]
      refine congrArg₂ _ (List.map_congr_left (fun k member => ?_)) (by simp [none])
      have apart : k ≠ groupKey attrs row := fun same => new (same ▸ member)
      rw [if_neg apart]

/-- Rows are in one group if they have one key. -/
theorem together_iff (first : row ∈ rows) (second : other ∈ rows) :
    (∃ g ∈ groups attrs rows, row ∈ g.2 ∧ other ∈ g.2) ↔
      groupKey attrs row = groupKey attrs other := by
  rw [groups_eq]
  constructor
  · rintro ⟨g, member, inside, inside'⟩
    obtain ⟨key, -, rfl⟩ := List.mem_map.1 member
    have own := of_decide_eq_true (List.mem_filter.1 inside).2
    have own' := of_decide_eq_true (List.mem_filter.1 inside').2
    exact own.trans own'.symm
  · intro same
    have key : groupKey attrs row ∈ groupKeys attrs rows :=
      List.mem_eraseDups.2 (List.mem_map_of_mem first)
    exact ⟨_, List.mem_map_of_mem key, List.mem_filter.2 ⟨first, decide_eq_true rfl⟩,
      List.mem_filter.2 ⟨second, decide_eq_true same.symm⟩⟩

/-- The part of a row's key that an attribute gives. -/
def keyPart (row : Entity) (attr : String) : String :=
  (row.valueOf attr).matchKey?.getD "null"

/-- Whether an attribute's part of the key does not hold what keeps the parts apart. -/
def Plain (row : Entity) (attr : String) : Prop := '\u001f' ∉ (keyPart row attr).toList

theorem splitOn_groupKey (some : attrs ≠ []) (plain : ∀ a ∈ attrs, Plain row a) :
    (groupKey attrs row).toList.splitOn '\u001f' =
      attrs.map (fun a => (keyPart row a).toList) := by
  have joined : (groupKey attrs row).toList =
      ['\u001f'].intercalate (attrs.map (fun a => (keyPart row a).toList)) := by
    rw [groupKey, String.toList_intercalate, List.map_map]
    rfl
  rw [joined]
  refine List.splitOn_intercalate _ ?_ (by simpa using some)
  intro part member
  obtain ⟨a, there, rfl⟩ := List.mem_map.1 member
  exact plain a there

/-- Plain rows have one key if they have one in each attribute. -/
theorem groupKey_eq_iff (plain : ∀ a ∈ attrs, Plain row a) (plain' : ∀ a ∈ attrs, Plain other a) :
    groupKey attrs row = groupKey attrs other ↔ ∀ a ∈ attrs, keyPart row a = keyPart other a := by
  constructor
  · intro same a member
    have some := List.ne_nil_of_mem member
    have parts := splitOn_groupKey some plain
    rw [same, splitOn_groupKey some plain'] at parts
    exact String.toList_inj.1 (List.map_inj_left.1 parts a member).symm
  · intro same
    exact congrArg keySeparator.intercalate (List.map_congr_left same)

end ThreatHunt.Table
