import Mathlib.Data.List.Perm.Subperm
import ThreatHunt.Proofs.Storage.Loading

/-!
Columns that are listed once. Columns that are observed, unified or completed have names of their
own. A projection has the columns that the list of names has, so it repeats a column where the list
repeats a name.
-/

namespace ThreatHunt

namespace Schema

/-- Whether no two columns have one name. -/
def Unrepeated (s : Schema) : Prop := s.names.Nodup

theorem nodup_observeAll (seen : List (String × Kind)) :
    ((observeAll [] seen).map Column.name).Nodup :=
  List.foldlRecOn (motive := fun columns : List Column => (columns.map Column.name).Nodup) seen _
    List.nodup_nil (fun _ unrepeated _ _ => nodup_changeColumn unrepeated)

theorem unrepeated_infer (entityType : String) (rows : List (Dict Value)) :
    (infer entityType rows).Unrepeated := by
  rw [Unrepeated, names, columns_infer]
  exact nodup_observeAll _

theorem unrepeated_unify (schemas : List Schema) : (unify schemas).schema.Unrepeated := by
  rw [Unrepeated, names, columns_unify]
  exact nodup_observeAll _

theorem mem_names_observeAll {name : String} {columns : List Column} {seen : List (String × Kind)} :
    name ∈ (observeAll columns seen).map Column.name ↔
      name ∈ columns.map Column.name ∨ name ∈ seen.map Prod.fst := by
  induction seen generalizing columns with
  | nil => simp [observeAll]
  | cons first rest ih =>
    have step : observeAll columns (first :: rest) =
        observeAll (observe columns first.1 first.2) rest := rfl
    rw [step, ih, observe, mem_names_changeColumn, List.map_cons, List.mem_cons]
    tauto

theorem mem_names_infer {entityType name : String} {rows : List (Dict Value)} :
    name ∈ (infer entityType rows).names ↔ ∃ row ∈ rows, row.contains name = true := by
  rw [names, columns_infer, mem_names_observeAll]
  simp only [List.map_nil, List.not_mem_nil, false_or, List.map_flatMap, List.mem_flatMap,
    List.map_map, Dict.contains_iff_mem_names]
  rfl

theorem name_of_column? {s : Schema} {name : String} {c : Column}
    (found : s.column? name = some c) : c.name = name := by
  have passed := List.find?_some found
  exact beq_iff_eq.1 passed

theorem column?_isSome {s : Schema} {name : String} :
    (s.column? name).isSome = true ↔ name ∈ s.names := by
  rw [column?, List.find?_isSome, names, List.mem_map]
  simp

/-- A projection lists the names that it is given, as often as they are given. -/
theorem names_project (s : Schema) (keep : List String) :
    (s.project keep).names = keep.filter (fun name => s.names.contains name) := by
  induction keep with
  | nil => rfl
  | cons name rest ih =>
    simp only [project, names, List.filterMap_cons] at ih ⊢
    cases found : s.column? name with
    | none =>
      have absent : name ∉ s.names := fun member =>
        absurd (column?_isSome.2 member) (by simp [found])
      rw [List.filter_cons_of_neg (by simpa [names] using absent)]
      exact ih
    | some c =>
      have present : name ∈ s.names := column?_isSome.1 (by simp [found])
      rw [List.filter_cons_of_pos (by simpa [names] using present), List.map_cons,
        name_of_column? found, ih]

end Schema

namespace Table

/-- Whether a table has each of its columns once. -/
def Unrepeated (t : Table) : Prop := t.schema.Unrepeated

theorem unrepeated_ofRows (entityType : String) (rows : List Entity) :
    (ofRows entityType rows).Unrepeated :=
  Schema.unrepeated_infer entityType _

theorem Unrepeated.limit {t : Table} (unrepeated : t.Unrepeated) (n : Option Nat) :
    (t.limit n).Unrepeated := by
  cases n <;> exact unrepeated

/-- The attributes that a refinement keeps stand once each, just if its list names them once. -/
theorem unrepeated_keepAttributes {schema : Schema} {rows : List Entity} {attrs : List String}
    {result : Schema × List Entity} (unrepeated : schema.Unrepeated)
    (kept : keepAttributes schema rows (some attrs) = .ok result) :
    result.1.Unrepeated ↔ "*" ∈ attrs ∨
      ((attrs.filter (fun a => a != "id")).filter (fun a => schema.names.contains a)).Nodup := by
  rw [keepAttributes_eq_ok kept]
  by_cases star : "*" ∈ attrs
  · rw [if_pos star]
    exact ⟨fun _ => .inl star, fun _ => unrepeated⟩
  · rw [if_neg star, Schema.Unrepeated, Schema.names_project]
    exact (or_iff_right star).symm

end Table

/-- Whether a list of attributes to keep names each once; the identifier is no column, and a star
keeps all columns. -/
def Refinement.NamesOnce (r : Refinement) : Prop :=
  ∀ attrs, r.attrs = some attrs → "*" ∈ attrs ∨ (attrs.filter (fun a => a != "id")).Nodup

theorem Table.unrepeated_refine {standard : SortOrder} {t refined : Table} {r : Refinement}
    (unrepeated : t.Unrepeated) (once : r.NamesOnce)
    (made : Table.refine standard t r = .ok refined) : refined.Unrepeated := by
  obtain ⟨page, ⟨schema, rows⟩, -, kept, rfl⟩ := Table.refine_eq_ok made
  show schema.Unrepeated
  cases named : r.attrs with
  | none =>
    rw [named] at kept
    obtain ⟨rfl, -⟩ := Prod.mk.inj (Except.ok.inj kept)
    exact unrepeated
  | some attrs =>
    rw [named] at kept
    apply (unrepeated_keepAttributes unrepeated kept).2
    exact (once attrs named).imp_right (fun each => each.filter _)

theorem Merge.unrepeated_replies (timeAttributes : List String) (q : EntityQuery)
    (rs : List Reply) : (replies timeAttributes q rs).table.Unrepeated :=
  Schema.unrepeated_unify _

theorem Scene.unrepeated_unite {entityType : String} {parts : List Table}
    (unrepeated : ∀ t ∈ parts, t.Unrepeated) : (unite entityType parts).1.Unrepeated := by
  unfold unite
  split
  · exact unrepeated _ (List.mem_singleton_self _)
  · exact Schema.unrepeated_unify _

/-- The columns of a frame may repeat a name; its table does not. -/
theorem Tabular.unrepeated_toTable (entityType : Option String) (f : Frame) :
    (toTable entityType f).Unrepeated := by
  unfold toTable
  extract_lets named ofRecords type skipped rows table projected
  have shown : table.Unrepeated := Table.unrepeated_ofRows type (Table.mergeRows rows)
  split
  · rename_i long
    have listed : table.schema.names ⊆ projected.names := by
      intro name member
      rw [Schema.names_project, List.mem_filter, List.contains_iff_mem]
      refine ⟨?_, member⟩
      obtain ⟨attributes, among, there⟩ := Schema.mem_names_infer.1 member
      obtain ⟨row, inside, rfl⟩ := List.mem_map.1 among
      exact within_rows type skipped f row inside name there
    -- As many columns as there are names leave no place for a second one of a name.
    have lengths : projected.names.length ≤ table.schema.names.length := by
      simp only [Schema.names, List.length_map, long, Nat.le_refl]
    exact ((shown.subperm listed).perm_of_length_le lengths).nodup_iff.1 shown
  · exact shown

namespace TableFile

/-- Whether the schema that a document declares, if it declares one, repeats no column. -/
def Document.Unrepeated (d : Document) : Prop :=
  ∀ declared, d.schema = some declared → declared.Unrepeated

theorem unrepeated_completeSchema {declared shown : Schema} (unrepeated : declared.Unrepeated) :
    (completeSchema declared shown).Unrepeated := by
  refine List.foldlRecOn (motive := fun columns : List Column =>
    (columns.map Column.name).Nodup) shown.columns _ unrepeated ?_
  intro columns distinct c _
  split
  · exact distinct
  · rename_i new
    rw [List.map_append, List.nodup_append]
    refine ⟨distinct, List.nodup_singleton _, ?_⟩
    intro name old other last same
    obtain ⟨d, member, rfl⟩ := List.mem_map.1 old
    rw [List.map_singleton, List.mem_singleton] at last
    exact new (List.any_eq_true.2 ⟨d, member, beq_iff_eq.2 (same.trans last)⟩)

theorem Document.Unrepeated.toTable {d : Document} (unrepeated : d.Unrepeated)
    (entityType : Option String) : (d.toTable entityType).Unrepeated := by
  unfold Document.toTable
  extract_lets type table
  cases own : d.schema with
  | none => exact Table.unrepeated_ofRows type _
  | some declared => exact unrepeated_completeSchema (unrepeated declared own)

theorem unrepeated_read {d : Disk} {path : String} {entityType : Option String} {t : Table}
    (loaded : TableFile.read d path entityType = .ok t)
    (unrepeated : ∀ document, HoldsDocument d path document → document.Unrepeated) :
    t.Unrepeated := by
  rcases read_eq_ok loaded with ⟨f, rfl⟩ | ⟨type, rows, rfl⟩ | ⟨document, holds, rfl⟩
  · exact Tabular.unrepeated_toTable entityType f
  · exact Table.unrepeated_ofRows type rows
  · exact (unrepeated document holds).toTable entityType

end TableFile
end ThreatHunt
