import Mathlib.Data.List.Induction
import Mathlib.Order.Bounds.Basic
import ThreatHunt.Proofs.Keyed
import ThreatHunt.Proofs.Table.Unrepeated

/-!
Unified schemas as least upper bounds. The columns of a unified schema have the names of all columns
in the order in which they are first seen, each with the least kind above all kinds that are
declared under the name. So the same bounds come from the same declarations in any order, from
repeated ones, and from schemas of which some were unified before. The schema that rows show is such
a bound too, so it does not matter whether it is inferred from all rows at once or part by part.
-/

namespace ThreatHunt

namespace Schema

open Firsts

variable {columns others : List Column} {name : String} {kind bound : Kind}

/-- Kinds below a bound under one name stay below it with all that is observed below it. -/
theorem kind_le_of_observeAll {seen : List (String × Kind)}
    (old : ∀ c ∈ columns, c.name = name → c.kind ≤ bound)
    (new : ∀ e ∈ seen, e.1 = name → e.2 ≤ bound) :
    ∀ c ∈ observeAll columns seen, c.name = name → c.kind ≤ bound := by
  induction seen generalizing columns with
  | nil => exact old
  | cons first rest ih =>
    refine ih (fun c member same => ?_) (fun e later => new e (List.mem_cons_of_mem _ later))
    have head := new first (List.mem_cons_self ..)
    rcases mem_changeColumn member with there | ⟨c', there, named, rfl⟩ | ⟨_, rfl⟩
    · exact old c there same
    · exact sup_le (old c' there (named.trans same)) (head same)
    · exact head same

/-- Columns with the same names, and under each name with the same upper bounds of their kinds. -/
structure SameBounds (columns others : List Column) : Prop where
  names : ∀ name, name ∈ columns.map Column.name ↔ name ∈ others.map Column.name
  bounds : ∀ name bound, (∀ c ∈ columns, c.name = name → c.kind ≤ bound) ↔
    ∀ c ∈ others, c.name = name → c.kind ≤ bound

namespace SameBounds

theorem symm (same : SameBounds columns others) : SameBounds others columns :=
  ⟨fun name => (same.names name).symm, fun name bound => (same.bounds name bound).symm⟩

theorem trans {more : List Column} (first : SameBounds columns others)
    (second : SameBounds others more) : SameBounds columns more :=
  ⟨fun name => (first.names name).trans (second.names name),
    fun name bound => (first.bounds name bound).trans (second.bounds name bound)⟩

theorem of_mem_iff (same : ∀ c, c ∈ columns ↔ c ∈ others) : SameBounds columns others :=
  ⟨fun name => by simp only [List.mem_map, same], fun name bound => by simp only [same]⟩

theorem append {columns' others' : List Column} (first : SameBounds columns others)
    (second : SameBounds columns' others') :
    SameBounds (columns ++ columns') (others ++ others') := by
  constructor
  · intro name
    rw [List.map_append, List.map_append, List.mem_append, List.mem_append, first.names,
      second.names]
  · intro name bound
    have left := first.bounds name bound
    have right := second.bounds name bound
    simp only [List.mem_append, or_imp, forall_and]
    exact and_congr left right

theorem mem_of_mem (same : SameBounds columns others)
    (distinct : (columns.map Column.name).Nodup) (distinct' : (others.map Column.name).Nodup)
    {c : Column} (member : c ∈ columns) : c ∈ others := by
  obtain ⟨c', member', named⟩ := List.mem_map.1 ((same.names c.name).1 (List.mem_map_of_mem member))
  -- Each of the two columns is the only one of its name.
  have least : c.kind ≤ c'.kind := by
    refine (same.bounds c.name c'.kind).2 (fun d there name => ?_) c member rfl
    rw [Keyed.eq_of_key distinct' there member' (name.trans named.symm)]
  have greatest : c'.kind ≤ c.kind := by
    refine (same.bounds c.name c.kind).1 (fun d there name => ?_) c' member' named
    rw [Keyed.eq_of_key distinct there member name]
  obtain rfl : c' = c := by
    cases c; cases c'
    exact congrArg₂ Column.mk named (le_antisymm greatest least)
  exact member'

/-- Columns of distinct names with the same bounds are the same, up to their order. -/
theorem perm (same : SameBounds columns others) (distinct : (columns.map Column.name).Nodup)
    (distinct' : (others.map Column.name).Nodup) : columns.Perm others :=
  (List.perm_ext_iff_of_nodup distinct.of_map distinct'.of_map).2 (fun _ =>
    ⟨same.mem_of_mem distinct distinct', same.symm.mem_of_mem distinct' distinct⟩)

end SameBounds

/-- Columns that are observed have the bounds of what was observed. -/
theorem sameBounds_observeAll (columns : List Column) :
    SameBounds (observeAll [] (columns.map (fun c => (c.name, c.kind)))) columns := by
  constructor
  · intro name
    rw [mem_names_observeAll, List.map_map]
    simp [Function.comp_def]
  · intro name bound
    refine ⟨fun below c member same => ?_, fun below => ?_⟩
    · have seen := List.mem_map_of_mem (f := fun c : Column => (c.name, c.kind)) member
      obtain ⟨c', there, named⟩ := List.mem_map.1 (takes_observeAll_nil seen).named
      exact ((takes_observeAll_nil seen).above c' there named).trans
        (below c' there (named.trans same))
    · refine kind_le_of_observeAll (fun c member => absurd member List.not_mem_nil) ?_
      intro e member same
      obtain ⟨c, there, rfl⟩ := List.mem_map.1 member
      exact below c there same

theorem sameBounds_unify (schemas : List Schema) :
    SameBounds (unify schemas).schema.columns (schemas.flatMap Schema.columns) :=
  columns_unify schemas ▸ sameBounds_observeAll _

/-- Schemas with the same bounds unify to columns with the same bounds. -/
theorem SameBounds.unify {schemas schemas' : List Schema}
    (same : SameBounds (schemas'.flatMap Schema.columns) (schemas.flatMap Schema.columns)) :
    SameBounds (unify schemas').schema.columns (unify schemas).schema.columns :=
  ((sameBounds_unify schemas').trans same).trans (sameBounds_unify schemas).symm

theorem perm_unify {schemas schemas' : List Schema}
    (same : SameBounds (schemas'.flatMap Schema.columns) (schemas.flatMap Schema.columns)) :
    (unify schemas').schema.columns.Perm (unify schemas).schema.columns :=
  same.unify.perm (unrepeated_unify schemas') (unrepeated_unify schemas)

/-- Schemas that were unified before have the bounds of the schemas that they came from. -/
theorem sameBounds_unified {schemas part rest others : List Schema}
    (parts : ∀ s, s ∈ schemas ↔ s ∈ part ∨ s ∈ rest)
    (unified : ∀ s, s ∈ others ↔ s = (unify part).schema ∨ s ∈ rest) :
    SameBounds (others.flatMap Schema.columns) (schemas.flatMap Schema.columns) := by
  have split : SameBounds (others.flatMap Schema.columns)
      ((unify part).schema.columns ++ rest.flatMap Schema.columns) :=
    .of_mem_iff (fun c => by simp [List.mem_flatMap, unified, or_and_right, exists_or])
  have join : SameBounds (part.flatMap Schema.columns ++ rest.flatMap Schema.columns)
      (schemas.flatMap Schema.columns) :=
    .of_mem_iff (fun c => by simp [List.mem_flatMap, parts, or_and_right, exists_or])
  exact (split.trans ((sameBounds_unify part).append (.of_mem_iff fun _ => Iff.rfl))).trans join

/-! Names in the order in which they are first seen. -/

theorem names_observe_of_mem (there : name ∈ columns.map Column.name) :
    (observe columns name kind).map Column.name = columns.map Column.name := by
  rw [observe]
  induction columns with
  | nil => exact absurd there List.not_mem_nil
  | cons first rest ih =>
    rw [changeColumn]
    split
    · rfl
    · rename_i other
      rw [List.map_cons, List.map_cons, ih ((List.mem_cons.1 there).resolve_left (Ne.symm other))]

theorem names_observe_of_not_mem (new : name ∉ columns.map Column.name) :
    (observe columns name kind).map Column.name = columns.map Column.name ++ [name] := by
  rw [observe]
  induction columns with
  | nil => rfl
  | cons first rest ih =>
    obtain ⟨other, later⟩ := not_or.1 (mt List.mem_cons.2 new)
    rw [changeColumn, if_neg (Ne.symm other), List.map_cons, List.map_cons, ih later]
    rfl

theorem names_observeAll (seen : List (String × Kind)) :
    (observeAll [] seen).map Column.name = (seen.map Prod.fst).eraseDups := by
  induction seen using List.reverseRecOn with
  | nil => rfl
  | append_singleton seen e ih =>
    have last : observeAll [] (seen ++ [e]) = observe (observeAll [] seen) e.1 e.2 :=
      List.foldl_concat ..
    rw [last, List.map_append]
    by_cases old : e.1 ∈ seen.map Prod.fst
    · rw [names_observe_of_mem (by rwa [ih, List.mem_eraseDups]), ih]
      exact (eraseDups_concat_of_mem old).symm
    · rw [names_observe_of_not_mem (by rwa [ih, List.mem_eraseDups]), ih]
      exact (eraseDups_concat_of_not_mem old).symm

theorem names_unify (schemas : List Schema) :
    (unify schemas).schema.names = (schemas.flatMap names).eraseDups := by
  rw [names, columns_unify, names_observeAll, List.map_map, List.map_flatMap]
  rfl

/-- Names are first seen in the same order whether or not some are put together before. -/
theorem names_unify_unified (front part back : List Schema) :
    (unify (front ++ (unify part).schema :: back)).schema.names =
      (unify (front ++ part ++ back)).schema.names := by
  have order := eraseDups_append_congr
    (eraseDups_append_eraseDups (front.flatMap names) (part.flatMap names)) (back.flatMap names)
  rw [← names_unify part] at order
  rw [names_unify, names_unify, List.flatMap_append, List.flatMap_append, List.flatMap_append,
    List.flatMap_cons, ← List.append_assoc, order]

/-- Columns with the same bounds and names in the same order are equal. -/
theorem SameBounds.eq (same : SameBounds columns others)
    (names : columns.map Column.name = others.map Column.name)
    (distinct : (columns.map Column.name).Nodup) : columns = others := by
  have distinct' : (others.map Column.name).Nodup := names ▸ distinct
  have size : columns.length = others.length := by simpa using congrArg List.length names
  refine List.ext_getElem size (fun i first second => ?_)
  have there := same.mem_of_mem distinct distinct' (List.getElem_mem first)
  refine Keyed.eq_of_key distinct' there (List.getElem_mem second) ?_
  have named := List.getElem_of_eq names (by rwa [List.length_map] : i < _)
  rwa [List.getElem_map, List.getElem_map] at named

/-- Schemas that stand together may be unified before, in their place. -/
theorem columns_unify_unified (front part back : List Schema) :
    (unify (front ++ (unify part).schema :: back)).schema.columns =
      (unify (front ++ part ++ back)).schema.columns := by
  have parts : ∀ s, s ∈ front ++ part ++ back ↔ s ∈ part ∨ s ∈ front ++ back := by
    intro s
    simp only [List.mem_append]
    tauto
  have unified : ∀ s, s ∈ front ++ (unify part).schema :: back ↔
      s = (unify part).schema ∨ s ∈ front ++ back := by
    intro s
    simp only [List.mem_append, List.mem_cons]
    tauto
  have same := sameBounds_unified parts unified
  exact same.unify.eq (names_unify_unified front part back) (unrepeated_unify _)

/-- Columns of distinct names are what observing them gives. -/
theorem observeAll_self (distinct : (columns.map Column.name).Nodup) :
    observeAll [] (columns.map (fun c => (c.name, c.kind))) = columns := by
  refine (sameBounds_observeAll columns).eq ?_ (nodup_observeAll _)
  rw [names_observeAll, List.map_map]
  exact eraseDups_of_nodup distinct

theorem columns_upsert (s : Schema) (name : String) (kind : Kind) :
    (s.upsert name kind).columns = observe s.columns name kind := by
  have fits : ∀ a b : Kind, (a.unify? b).getD .untyped = a.join b := by decide
  simp only [upsert, observe, fits]

/-- Putting columns into a schema one by one observes them. -/
theorem columns_foldl_upsert (s : Schema) (added : List Column) :
    (added.foldl (fun s c => s.upsert c.name c.kind) s).columns =
      observeAll s.columns (added.map (fun c => (c.name, c.kind))) := by
  induction added generalizing s with
  | nil => rfl
  | cons c rest ih =>
    rw [List.foldl_cons, ih, columns_upsert]
    rfl

/-- Putting a column into a schema unifies it with the schema. -/
theorem columns_upsert_unify (s : Schema) (name : String) (kind : Kind) (distinct : s.Unrepeated) :
    (s.upsert name kind).columns =
      (unify [s, ⟨s.entityType, [⟨name, kind⟩]⟩]).schema.columns := by
  have both : (unify [s, ⟨s.entityType, [⟨name, kind⟩]⟩]).schema.columns =
      observeAll (observeAll [] (s.columns.map (fun c => (c.name, c.kind)))) [(name, kind)] := by
    rw [columns_unify]
    simp [observeAll, List.flatMap_cons]
  rw [both, observeAll_self distinct, columns_upsert]
  rfl

/-- Columns that unify those of some schemas: the names of all in the order in which they are first
seen, each with the least kind above all that are declared under it. -/
structure Unifies (schemas : List Schema) (columns : List Column) : Prop where
  names : columns.map Column.name = (schemas.flatMap Schema.names).eraseDups
  kinds : ∀ c ∈ columns, IsLUB {kind | ∃ s ∈ schemas, ⟨c.name, kind⟩ ∈ s.columns} c.kind

theorem unifies_columns (schemas : List Schema) : Unifies schemas (unify schemas).schema.columns := by
  refine ⟨names_unify schemas, fun c member => ⟨?_, fun bound above => ?_⟩⟩
  · rintro kind ⟨s, there, column⟩
    exact (takes_unify there column).above c member rfl
  · refine ((sameBounds_unify schemas).bounds c.name bound).2 (fun d declared name => ?_) c member rfl
    obtain ⟨s, there, column⟩ := List.mem_flatMap.1 declared
    exact above ⟨s, there, name ▸ column⟩

/-- Unification gives the least upper bounds of what schemas declare. So the columns are the same up
to their order for the same schemas in any order and number, and for schemas of which some were
unified before, wherever these stand; where they stand together, and are replaced in their place,
the order is the same too. Putting the columns into one schema in turn gives the same bounds. -/
theorem unify_leastUpperBound (schemas : List Schema) :
    Unifies schemas (unify schemas).schema.columns ∧
      (∀ others : List Schema, (∀ s, s ∈ others ↔ s ∈ schemas) →
        (unify others).schema.columns.Perm (unify schemas).schema.columns) ∧
      (∀ part rest others : List Schema, (∀ s, s ∈ schemas ↔ s ∈ part ∨ s ∈ rest) →
        (∀ s, s ∈ others ↔ s = (unify part).schema ∨ s ∈ rest) →
        (unify others).schema.columns.Perm (unify schemas).schema.columns) ∧
      (∀ front part back : List Schema, schemas = front ++ part ++ back →
        (unify (front ++ (unify part).schema :: back)).schema.columns =
          (unify schemas).schema.columns) ∧
      (∀ entityType, ((schemas.flatMap Schema.columns).foldl (fun s c => s.upsert c.name c.kind)
        (empty entityType)).columns = (unify schemas).schema.columns) ∧
      ∀ (s : Schema) (name : String) (kind : Kind), s.Unrepeated →
        (s.upsert name kind).columns =
          (unify [s, ⟨s.entityType, [⟨name, kind⟩]⟩]).schema.columns := by
  refine ⟨unifies_columns schemas, fun others same => ?_, fun part rest others parts unified => ?_,
    ?_, fun entityType => ?_, columns_upsert_unify⟩
  · exact perm_unify (.of_mem_iff (fun c => by simp [List.mem_flatMap, same]))
  · exact perm_unify (sameBounds_unified parts unified)
  · rintro front part back rfl
    exact columns_unify_unified front part back
  · rw [columns_foldl_upsert, columns_unify]
    rfl

/-- Two of three schemas are unified first; their kinds of one column have no common kind but
`untyped`. -/
theorem unify_leastUpperBound_regrouped :
    let numbered : Schema := ⟨"process", [⟨"pid", .int⟩, ⟨"name", .null⟩]⟩
    let measured : Schema := ⟨"process", [⟨"pid", .float⟩]⟩
    let spelled : Schema := ⟨"process", [⟨"name", .str⟩, ⟨"pid", .str⟩]⟩
    (unify [numbered, (unify [measured, spelled]).schema]).schema.columns =
      [⟨"pid", .untyped⟩, ⟨"name", .str⟩] := by
  intro numbered measured spelled
  have whole : (unify [numbered, measured, spelled]).schema.columns =
      [⟨"pid", .untyped⟩, ⟨"name", .str⟩] := by decide
  rw [← whole]
  exact (unify_leastUpperBound [numbered, measured, spelled]).2.2.2.1 [numbered]
    [measured, spelled] [] rfl

/-! Inferred schemas unify what single values show. -/

/-- A column for each value of some rows. -/
def shownColumns (rows : List (Dict Value)) : List Column :=
  rows.flatMap (fun row => row.entries.map (fun e => ⟨e.1, e.2.kind⟩))

theorem shownColumns_append (rows rows' : List (Dict Value)) :
    shownColumns (rows ++ rows') = shownColumns rows ++ shownColumns rows' :=
  List.flatMap_append

theorem columns_infer_shown (entityType : String) (rows : List (Dict Value)) :
    (infer entityType rows).columns =
      (unify [⟨entityType, shownColumns rows⟩]).schema.columns := by
  rw [columns_infer, columns_unify, List.flatMap_singleton, shownColumns, List.map_flatMap]
  simp only [List.map_map, Function.comp_def]

theorem infer_eq_unify (entityType : String) (rows : List (Dict Value)) :
    infer entityType rows = (unify [⟨entityType, shownColumns rows⟩]).schema :=
  congrArg₂ Schema.mk rfl (columns_infer_shown entityType rows)

/-- The schema of rows that stand behind others unifies the schemas of both. -/
theorem infer_append (entityType : String) (rows rows' : List (Dict Value)) :
    infer entityType (rows ++ rows') =
      (unify [infer entityType rows, infer entityType rows']).schema := by
  have first := columns_unify_unified [] [⟨entityType, shownColumns rows⟩] [infer entityType rows']
  have second := columns_unify_unified [⟨entityType, shownColumns rows⟩]
    [⟨entityType, shownColumns rows'⟩] []
  rw [← infer_eq_unify] at first second
  have columns : (infer entityType (rows ++ rows')).columns =
      (unify [infer entityType rows, infer entityType rows']).schema.columns :=
    calc
      _ = (unify [⟨entityType, shownColumns rows ++ shownColumns rows'⟩]).schema.columns := by
        rw [columns_infer_shown, shownColumns_append]
      _ = (unify [⟨entityType, shownColumns rows⟩,
            ⟨entityType, shownColumns rows'⟩]).schema.columns := by
        rw [columns_unify, columns_unify]
        simp
      _ = (unify [⟨entityType, shownColumns rows⟩, infer entityType rows']).schema.columns :=
        second.symm
      _ = _ := first.symm
  have agreed : commonType [infer entityType rows, infer entityType rows'] = entityType := by
    simp [commonType, infer]
  exact congrArg₂ Schema.mk agreed.symm columns

end Schema
end ThreatHunt
