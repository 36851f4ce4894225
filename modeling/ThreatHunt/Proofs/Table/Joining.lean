import Mathlib.Data.List.Induction
import Mathlib.Data.List.Nodup
import ThreatHunt.Proofs.Number.Digits
import ThreatHunt.Proofs.Table.Merging
import ThreatHunt.Table.Join

/-!
The identifiers of a join. A further match of a row gets an identifier put together from two, which
may be that of another row. The identifiers are distinct unless two of them meet in this way, which
takes a left row with the sign between the halves in its identifier.
-/

namespace ThreatHunt

namespace Table

/-- The right rows that a left row is joined with. -/
def matchesOf (leftAttr rightAttr : String) (rows : List Entity) (left : Entity) : List Entity :=
  match (left.valueOf leftAttr).matchKey? with
  | some key => rowsWithKey rightAttr key rows
  | none => []

variable {left right : Table} {leftAttr rightAttr : String}

/-- The index has the rows of each key in their order. -/
theorem find?_indexRows (attr key : String) (rows : List Entity) :
    ((indexRows attr rows).find? key).getD [] = rowsWithKey attr key rows := by
  unfold indexRows rowsWithKey
  induction rows using List.reverseRecOn with
  | nil => rfl
  | append_singleton rows r ih =>
    rw [List.foldl_concat, List.filter_append, ← ih]
    cases own : (r.valueOf attr).matchKey? with
    | none => simp [own]
    | some k => by_cases same : k = key <;> simp [own, same, Dict.find?_insert]

theorem joinRows_eq : joinRows left right leftAttr rightAttr =
    left.rows.flatMap (fun l => joinRow l (matchesOf leftAttr rightAttr right.rows l)) := by
  unfold joinRows matchesOf
  refine List.flatMap_congr (fun l _ => ?_)
  cases (l.valueOf leftAttr).matchKey? with
  | none => rfl
  | some key => exact congrArg (joinRow l) (find?_indexRows rightAttr key right.rows)

theorem matchesOf_sublist (rows : List Entity) (l : Entity) :
    (matchesOf leftAttr rightAttr rows l).Sublist rows := by
  unfold matchesOf
  split
  · exact List.filter_sublist
  · exact List.nil_sublist rows

/-- The identifiers that a joined row was made from: that of the left row, and of a further match. -/
abbrev Label := String × Option String

/-- The identifier of a joined row. -/
def Label.text : Label → String
  | (left, none) => left
  | (left, some right) => left ++ "+" ++ right

def rowLabels (left : Entity) : List Entity → List Label
  | [] => []
  | _ :: others => (left.id, none) :: others.map (fun r => (left.id, some r.id))

/-- The labels of the rows of a join. -/
def labels (left right : Table) (leftAttr rightAttr : String) : List Label :=
  left.rows.flatMap (fun l => rowLabels l (matchesOf leftAttr rightAttr right.rows l))

theorem ids_joinRow (l : Entity) (ms : List Entity) :
    (joinRow l ms).map Entity.id = (rowLabels l ms).map Label.text := by
  cases ms with
  | nil => rfl
  | cons first others =>
    simp only [joinRow, rowLabels, List.map_cons, List.map_map]
    rfl

theorem ids_joinRows : (joinRows left right leftAttr rightAttr).map Entity.id =
    (labels left right leftAttr rightAttr).map Label.text := by
  rw [joinRows_eq, labels, List.map_flatMap, List.map_flatMap]
  simp only [ids_joinRow]

theorem fst_of_mem_rowLabels {l : Entity} {ms : List Entity} {x : Label}
    (member : x ∈ rowLabels l ms) : x.1 = l.id := by
  cases ms with
  | nil => exact absurd member List.not_mem_nil
  | cons first others =>
    rcases List.mem_cons.1 member with rfl | further
    · rfl
    · obtain ⟨r, _, rfl⟩ := List.mem_map.1 further
      rfl

theorem nodup_rowLabels (l : Entity) {ms : List Entity} (distinct : (ms.map Entity.id).Nodup) :
    (rowLabels l ms).Nodup := by
  cases ms with
  | nil => exact List.nodup_nil
  | cons first others =>
    obtain ⟨_, apart⟩ := List.nodup_cons.1 distinct
    refine List.nodup_cons.2 ⟨by simp, ?_⟩
    have ids : others.map (fun r => ((l.id, some r.id) : Label)) =
        (others.map Entity.id).map (fun id => (l.id, some id)) := by
      rw [List.map_map]
      rfl
    rw [ids]
    exact apart.map (fun a b same => by simpa using same)

/-- No two rows of a join have one label. -/
theorem nodup_labels (lefts : left.ids.Nodup) (rights : right.ids.Nodup) :
    (labels left right leftAttr rightAttr).Nodup := by
  refine List.nodup_flatMap.2 ⟨fun l _ => ?_, ?_⟩
  · exact nodup_rowLabels l (rights.sublist ((matchesOf_sublist right.rows l).map Entity.id))
  · refine (List.pairwise_map.1 lefts).imp (fun different x first second => different ?_)
    rw [← fst_of_mem_rowLabels first, fst_of_mem_rowLabels second]

theorem mem_labels_none {id : String} :
    (id, none) ∈ labels left right leftAttr rightAttr ↔
      ∃ l ∈ left.rows, matchesOf leftAttr rightAttr right.rows l ≠ [] ∧ l.id = id := by
  rw [labels, List.mem_flatMap]
  refine exists_congr (fun l => and_congr_right (fun _ => ?_))
  cases matchesOf leftAttr rightAttr right.rows l with
  | nil => simp [rowLabels]
  | cons first others => simp [rowLabels, eq_comm]

theorem mem_labels_some {id other : String} :
    (id, some other) ∈ labels left right leftAttr rightAttr ↔
      ∃ l ∈ left.rows, ∃ r ∈ (matchesOf leftAttr rightAttr right.rows l).tail,
        l.id = id ∧ r.id = other := by
  rw [labels, List.mem_flatMap]
  refine exists_congr (fun l => and_congr_right (fun _ => ?_))
  cases matchesOf leftAttr rightAttr right.rows l with
  | nil => simp [rowLabels]
  | cons first others => simp [rowLabels, and_comm]

/-- How two rows of a join can get one identifier. -/
inductive Clash (left right : Table) (leftAttr rightAttr : String) : Prop where
  /-- A combined identifier is that of a left row with a match. -/
  | whole {l r k : Entity} (first : l ∈ left.rows)
      (further : r ∈ (matchesOf leftAttr rightAttr right.rows l).tail) (second : k ∈ left.rows)
      (matched : matchesOf leftAttr rightAttr right.rows k ≠ [])
      (same : l.id ++ "+" ++ r.id = k.id)
  /-- Two identifiers are combined from different halves. -/
  | halves {l r k s : Entity} (first : l ∈ left.rows)
      (further : r ∈ (matchesOf leftAttr rightAttr right.rows l).tail) (second : k ∈ left.rows)
      (again : s ∈ (matchesOf leftAttr rightAttr right.rows k).tail)
      (apart : (l.id, r.id) ≠ (k.id, s.id)) (same : l.id ++ "+" ++ r.id = k.id ++ "+" ++ s.id)

/-- The rows of a join of tables with distinct identifiers have distinct identifiers, just if none
of the combined ones clashes. -/
theorem nodup_ids_joinRows (lefts : left.ids.Nodup) (rights : right.ids.Nodup) :
    ((joinRows left right leftAttr rightAttr).map Entity.id).Nodup ↔
      ¬Clash left right leftAttr rightAttr := by
  rw [ids_joinRows, List.nodup_map_iff_inj_on (nodup_labels lefts rights)]
  constructor
  · rintro injective (⟨first, further, second, matched, same⟩ |
      ⟨first, further, second, again, apart, same⟩)
    · have equal := injective _ (mem_labels_some.2 ⟨_, first, _, further, rfl, rfl⟩) _
        (mem_labels_none.2 ⟨_, second, matched, rfl⟩) same
      exact Option.some_ne_none _ (congrArg Prod.snd equal)
    · have equal := injective _ (mem_labels_some.2 ⟨_, first, _, further, rfl, rfl⟩) _
        (mem_labels_some.2 ⟨_, second, _, again, rfl, rfl⟩) same
      have halves := Prod.mk.inj equal
      exact apart (Prod.ext halves.1 (Option.some.inj halves.2))
  · rintro clear ⟨a, x⟩ first ⟨b, y⟩ second same
    cases x with
    | none =>
      cases y with
      | none => exact congrArg (fun id => (id, none)) same
      | some other =>
        obtain ⟨k, there, matched, rfl⟩ := mem_labels_none.1 first
        obtain ⟨l, here, r, further, rfl, rfl⟩ := mem_labels_some.1 second
        exact absurd (.whole here further there matched same.symm) clear
    | some one =>
      obtain ⟨l, here, r, further, rfl, rfl⟩ := mem_labels_some.1 first
      cases y with
      | none =>
        obtain ⟨k, there, matched, rfl⟩ := mem_labels_none.1 second
        exact absurd (.whole here further there matched same) clear
      | some other =>
        obtain ⟨k, there, s, again, rfl, rfl⟩ := mem_labels_some.1 second
        by_contra different
        refine clear (.halves here further there again (fun equal => different ?_) same)
        rw [(Prod.mk.inj equal).1, (Prod.mk.inj equal).2]

/-- Without the sign between the halves in the identifiers of the left rows nothing clashes. -/
theorem not_clash_of_plain (plain : ∀ l ∈ left.rows, '+' ∉ l.id.toList) :
    ¬Clash left right leftAttr rightAttr := by
  rintro (⟨first, further, second, matched, same⟩ | ⟨first, further, second, again, apart, same⟩)
  · refine plain _ second ?_
    rw [← same]
    simp
  · have chars := congrArg String.toList same
    simp only [String.toList_append, List.append_assoc] at chars
    obtain ⟨lefts, rights⟩ := Digits.cut_injective (plain _ first) (plain _ second) chars
    exact apart (Prod.ext (String.toList_inj.1 lefts) (String.toList_inj.1 rights))

theorem mem_joinRow {l row : Entity} {ms : List Entity} (member : row ∈ joinRow l ms) :
    ∃ r ∈ ms, row.attributes = (l.absorb r).attributes ∧
      (row.id = l.id ∨ row.id = l.id ++ "+" ++ r.id) := by
  cases ms with
  | nil => exact absurd member List.not_mem_nil
  | cons first others =>
    rcases List.mem_cons.1 member with rfl | further
    · exact ⟨first, List.mem_cons_self .., rfl, .inl rfl⟩
    · obtain ⟨r, there, rfl⟩ := List.mem_map.1 further
      exact ⟨r, List.mem_cons_of_mem _ there, rfl, .inr rfl⟩

/-- Where a joined row comes from. -/
theorem mem_joinRows {row : Entity} (member : row ∈ joinRows left right leftAttr rightAttr) :
    ∃ l ∈ left.rows, ∃ r ∈ right.rows, row.attributes = (l.absorb r).attributes ∧
      (row.id = l.id ∨ row.id = l.id ++ "+" ++ r.id) := by
  rw [joinRows_eq] at member
  obtain ⟨l, first, joined⟩ := List.mem_flatMap.1 member
  obtain ⟨r, there, made⟩ := mem_joinRow joined
  exact ⟨l, first, r, (matchesOf_sublist right.rows l).subset there, made⟩

end Table

namespace Schema

theorem mem_names_changeColumn {name other : String} {change : Kind → Kind} {fresh : Kind}
    {columns : List Column} :
    other ∈ (changeColumn name change fresh columns).map Column.name ↔
      other = name ∨ other ∈ columns.map Column.name := by
  induction columns with
  | nil => simp [changeColumn]
  | cons c rest ih =>
    rw [changeColumn]
    split
    · rename_i here
      simp [here]
    · rw [List.map_cons, List.map_cons, List.mem_cons, List.mem_cons, ih]
      tauto

/-- The names of unified schemas are those of all of them. -/
theorem mem_names_unify {schemas : List Schema} {name : String} :
    name ∈ (unify schemas).schema.names ↔ ∃ s ∈ schemas, name ∈ s.names := by
  have folded : ∀ (all start : List Column),
      name ∈ (all.foldl (fun columns c => observe columns c.name c.kind) start).map Column.name ↔
        name ∈ start.map Column.name ∨ name ∈ all.map Column.name := by
    intro all
    induction all with
    | nil => simp
    | cons c rest ih =>
      intro start
      rw [List.foldl_cons, ih, observe, mem_names_changeColumn, List.map_cons, List.mem_cons]
      tauto
  rw [unify, names]
  simp only [folded, List.map_nil, List.not_mem_nil, false_or, List.map_flatMap, List.mem_flatMap]
  rfl

end Schema
end ThreatHunt
