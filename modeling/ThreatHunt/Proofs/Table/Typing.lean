import Mathlib.Data.Fintype.Defs
import Mathlib.Data.List.Nodup
import Mathlib.Order.BoundedOrder.Basic
import Mathlib.Order.Lattice
import ThreatHunt.Hunt.Fetching
import ThreatHunt.Hunt.Relating
import ThreatHunt.Proofs.Outcome
import ThreatHunt.Proofs.Table.Joining
import ThreatHunt.Table.Group
import ThreatHunt.Table.Refine

/-!
Kinds as a lattice, and the columns that observation makes: each name once, with a kind at or above
every kind that was observed under it.
-/

namespace ThreatHunt

namespace Kind

instance : Fintype Kind := ⟨⟨all, by decide⟩, by intro k; cases k <;> decide⟩

/-- The order of kinds: `null` is the lowest, `int` is below `float`, and `untyped` is the highest. -/
def le (a b : Kind) : Prop := a = .null ∨ a = b ∨ (a = .int ∧ b = .float) ∨ b = .untyped

instance : LE Kind := ⟨le⟩

instance : DecidableLE Kind := fun a b =>
  inferInstanceAs (Decidable (a = .null ∨ a = b ∨ (a = .int ∧ b = .float) ∨ b = .untyped))

instance : SemilatticeSup Kind where
  sup := join
  le_refl := by decide
  le_trans := by decide
  le_antisymm := by decide
  le_sup_left := by decide
  le_sup_right := by decide
  sup_le := by decide

instance : BoundedOrder Kind where
  bot := .null
  bot_le := by decide
  top := .untyped
  le_top := by decide

end Kind

namespace Schema

variable {columns : List Column} {name other : String} {kind more : Kind}

/-- Whether columns have one of a name, and each such column takes values of a kind. -/
structure TakesKind (columns : List Column) (name : String) (kind : Kind) : Prop where
  named : name ∈ columns.map Column.name
  above : ∀ c ∈ columns, c.name = name → kind ≤ c.kind

theorem mem_changeColumn {change : Kind → Kind} {fresh : Kind} {c : Column}
    (member : c ∈ changeColumn name change fresh columns) :
    c ∈ columns ∨ (∃ old ∈ columns, old.name = name ∧ c = ⟨name, change old.kind⟩) ∨
      (name ∉ columns.map Column.name ∧ c = ⟨name, fresh⟩) := by
  induction columns with
  | nil => exact .inr (.inr ⟨List.not_mem_nil, List.mem_singleton.1 member⟩)
  | cons first rest ih =>
    rw [changeColumn] at member
    split at member
    · rename_i here
      rcases List.mem_cons.1 member with rfl | later
      · exact .inr (.inl ⟨first, List.mem_cons_self .., here, by rw [here]⟩)
      · exact .inl (List.mem_cons_of_mem _ later)
    · rename_i different
      rcases List.mem_cons.1 member with rfl | later
      · exact .inl (List.mem_cons_self ..)
      · rcases ih later with old | ⟨old, there, same, made⟩ | ⟨absent, made⟩
        · exact .inl (List.mem_cons_of_mem _ old)
        · exact .inr (.inl ⟨old, List.mem_cons_of_mem _ there, same, made⟩)
        · refine .inr (.inr ⟨?_, made⟩)
          rw [List.map_cons, List.mem_cons, not_or]
          exact ⟨fun same => different same.symm, absent⟩

theorem nodup_changeColumn {change : Kind → Kind} {fresh : Kind}
    (distinct : (columns.map Column.name).Nodup) :
    ((changeColumn name change fresh columns).map Column.name).Nodup := by
  induction columns with
  | nil => exact List.nodup_singleton name
  | cons first rest ih =>
    obtain ⟨apart, tail⟩ := List.nodup_cons.1 distinct
    rw [changeColumn]
    split
    · rename_i here
      exact List.nodup_cons.2 ⟨here ▸ apart, tail⟩
    · rename_i different
      refine List.nodup_cons.2 ⟨fun member => ?_, ih tail⟩
      rcases mem_names_changeColumn.1 member with same | there
      · exact different same
      · exact apart there

/-- What columns take, they still take after a further observation. -/
theorem TakesKind.observe (takes : TakesKind columns name kind) :
    TakesKind (observe columns other more) name kind where
  named := mem_names_changeColumn.2 (.inr takes.named)
  above := by
    intro c member same
    rcases mem_changeColumn member with old | ⟨old, there, named, rfl⟩ | ⟨absent, rfl⟩
    · exact takes.above c old same
    · exact (takes.above old there (named.trans same)).trans le_sup_left
    · obtain rfl : other = name := same
      exact absurd takes.named absent

theorem takes_observe (distinct : (columns.map Column.name).Nodup) :
    TakesKind (observe columns name kind) name kind where
  named := mem_names_changeColumn.2 (.inl rfl)
  above := by
    induction columns with
    | nil =>
      intro c member _
      rw [List.mem_singleton.1 member]
    | cons first rest ih =>
      obtain ⟨apart, tail⟩ := List.nodup_cons.1 distinct
      intro c member same
      rw [Schema.observe, changeColumn] at member
      split at member
      · rename_i here
        rcases List.mem_cons.1 member with rfl | later
        · exact le_sup_right
        · -- No other column has the name.
          exact absurd (List.mem_map.2 ⟨c, later, same.trans here.symm⟩) apart
      · rename_i different
        rcases List.mem_cons.1 member with rfl | later
        · exact absurd same different
        · exact ih tail c later same

/-- The columns of named kinds in the order in which they are observed. -/
def observeAll (columns : List Column) (seen : List (String × Kind)) : List Column :=
  seen.foldl (fun columns e => observe columns e.1 e.2) columns

theorem takes_observeAll {seen : List (String × Kind)}
    (distinct : (columns.map Column.name).Nodup) :
    (∀ name kind, TakesKind columns name kind → TakesKind (observeAll columns seen) name kind) ∧
      ∀ e ∈ seen, TakesKind (observeAll columns seen) e.1 e.2 := by
  induction seen generalizing columns with
  | nil => exact ⟨fun _ _ takes => takes, fun _ member => absurd member List.not_mem_nil⟩
  | cons first rest ih =>
    have after : ((observe columns first.1 first.2).map Column.name).Nodup :=
      nodup_changeColumn distinct
    obtain ⟨kept, all⟩ := ih after
    refine ⟨fun name kind takes => kept name kind takes.observe, fun e member => ?_⟩
    rcases List.mem_cons.1 member with rfl | later
    · exact kept e.1 e.2 (takes_observe distinct)
    · exact all e later

theorem takes_observeAll_nil {seen : List (String × Kind)} {e : String × Kind} (member : e ∈ seen) :
    TakesKind (observeAll [] seen) e.1 e.2 := by
  have unseen : (([] : List Column).map Column.name).Nodup := List.nodup_nil
  exact (takes_observeAll unseen).2 e member

/-- The column that is left of the kind that a name shows. -/
def ofShown (s : String × Option Kind) : Column := ⟨s.1, s.2.getD .untyped⟩

/-- A name shows no kind just where observation leaves `untyped`. -/
theorem map_ofShown_showKind (shown : List (String × Option Kind)) :
    (showKind name kind shown).map ofShown = observe (shown.map ofShown) name kind := by
  have fits : ∀ (slot : Option Kind) (k : Kind),
      (slot.bind (·.unify? k)).getD .untyped = (slot.getD .untyped).join k := by
    intro slot k
    cases slot with
    | none => cases k <;> rfl
    | some old => revert old k; decide
  induction shown with
  | nil => rfl
  | cons first rest ih =>
    rw [List.map_cons, showKind, observe, changeColumn]
    have called : (ofShown first).name = first.1 := rfl
    rw [called]
    by_cases here : first.1 = name
    · rw [if_pos here, if_pos here, List.map_cons, here]
      exact congrArg (fun kind => Column.mk name kind :: rest.map ofShown) (fits first.2 kind)
    · rw [if_neg here, if_neg here, List.map_cons, ih]
      rfl

theorem map_ofShown_showKinds (seen : List (String × Kind)) (shown : List (String × Option Kind)) :
    (seen.foldl (fun shown e => showKind e.1 e.2 shown) shown).map ofShown =
      observeAll (shown.map ofShown) seen := by
  induction seen generalizing shown with
  | nil => rfl
  | cons e rest ih =>
    rw [List.foldl_cons, ih, map_ofShown_showKind]
    rfl

theorem columns_infer (entityType : String) (rows : List (Dict Value)) :
    (infer entityType rows).columns =
      observeAll [] (rows.flatMap (fun row => row.entries.map (fun e => (e.1, e.2.kind)))) := by
  refine Eq.trans ?_ (map_ofShown_showKinds _ [])
  rw [List.foldl_flatMap]
  simp only [List.foldl_map]
  rfl

theorem columns_unify (schemas : List Schema) :
    (unify schemas).schema.columns =
      observeAll [] ((schemas.flatMap Schema.columns).map (fun c => (c.name, c.kind))) := by
  rw [observeAll, List.foldl_map]
  rfl

/-- Inferred columns take every value of the rows. -/
theorem takes_infer {entityType : String} {rows : List (Dict Value)} {row : Dict Value}
    (member : row ∈ rows) {value : Value} (found : row.find? name = some value) :
    TakesKind (infer entityType rows).columns name value.kind := by
  have seen : (name, value.kind) ∈
      rows.flatMap (fun row => row.entries.map (fun e => (e.1, e.2.kind))) :=
    List.mem_flatMap.2 ⟨row, member, List.mem_map.2 ⟨(name, value), Dict.mem_of_find? found, rfl⟩⟩
  exact columns_infer entityType rows ▸ takes_observeAll_nil seen

/-- Unified columns take what the columns of each schema do. -/
theorem takes_unify {schemas : List Schema} {s : Schema} (member : s ∈ schemas) {c : Column}
    (column : c ∈ s.columns) : TakesKind (unify schemas).schema.columns c.name c.kind := by
  have seen : (c.name, c.kind) ∈ (schemas.flatMap Schema.columns).map (fun c => (c.name, c.kind)) :=
    List.mem_map.2 ⟨c, List.mem_flatMap.2 ⟨s, member, column⟩, rfl⟩
  exact columns_unify schemas ▸ takes_observeAll_nil seen

end Schema
end ThreatHunt

/-!
Typed tables: each value of a row stands under a column that takes its kind. Whatever tables are
made into, by narrowing, grouping, joining or merging, they stay typed.
-/

namespace ThreatHunt

namespace Schema

theorem TakesKind.mono {columns : List Column} {name : String} {less kind : Kind}
    (takes : TakesKind columns name kind) (below : less ≤ kind) : TakesKind columns name less :=
  ⟨takes.named, fun c member same => below.trans (takes.above c member same)⟩

theorem takes_null {columns : List Column} {name : String}
    (named : name ∈ columns.map Column.name) : TakesKind columns name .null :=
  ⟨named, fun c _ _ => bot_le (a := c.kind)⟩

theorem TakesKind.project {schema : Schema} {name : String} {kind : Kind}
    (takes : TakesKind schema.columns name kind) {keep : List String} (kept : name ∈ keep) :
    TakesKind (schema.project keep).columns name kind := by
  obtain ⟨c, column⟩ : ∃ c, schema.column? name = some c := by
    obtain ⟨c, there, same⟩ := List.mem_map.1 takes.named
    exact Option.isSome_iff_exists.1 (List.find?_isSome.2 ⟨c, there, by simpa using same⟩)
  have called : c.name = name := by simpa using List.find?_some column
  refine ⟨?_, fun d member same => ?_⟩
  · exact List.mem_map.2 ⟨c, List.mem_filterMap.2 ⟨name, kept, column⟩, called⟩
  · obtain ⟨_, _, found⟩ := List.mem_filterMap.1 member
    exact takes.above d (List.mem_of_find?_eq_some found) same

/-- Whether a schema takes all that another takes. -/
def Covers (wide s : Schema) : Prop :=
  ∀ name kind, TakesKind s.columns name kind → TakesKind wide.columns name kind

theorem covers_unify {schemas : List Schema} {s : Schema} (member : s ∈ schemas) :
    (unify schemas).schema.Covers s := by
  intro name kind takes
  obtain ⟨c, column, rfl⟩ := List.mem_map.1 takes.named
  exact (takes_unify member column).mono (takes.above c column rfl)

end Schema

namespace Entity

open Schema (TakesKind Covers)

variable {schema : Schema} {e other : Entity}

/-- Whether each value of a row stands under a column that takes it. -/
def Fits (schema : Schema) (row : Entity) : Prop :=
  ∀ name value, row.attributes.find? name = some value → TakesKind schema.columns name value.kind

theorem Fits.covers {wide : Schema} (covers : wide.Covers schema) (fits : e.Fits schema) :
    e.Fits wide :=
  fun name value found => covers name value.kind (fits name value found)

theorem Fits.absorb (fits : e.Fits schema) (more : other.Fits schema) :
    (e.absorb other).Fits schema := by
  intro name value found
  rw [find?_absorb] at found
  split at found
  · rcases Option.or_eq_some_iff.1 found with theirs | ⟨_, mine⟩
    · exact more name value theirs
    · exact fits name value mine
  · exact fits name value found

theorem Fits.conformTo (fits : e.Fits schema) : (e.conformTo schema).Fits schema := by
  intro name value found
  rw [Entity.conformTo, Schema.find?_conform] at found
  rcases Option.or_eq_some_iff.1 found with own | ⟨_, added⟩
  · exact fits name value own
  · split at added
    · rename_i named
      rw [← Option.some.inj added]
      exact Schema.takes_null named
    · cases added

theorem Fits.congr (fits : e.Fits schema) (same : other.attributes = e.attributes) :
    other.Fits schema :=
  fun name value found => fits name value (same ▸ found)

/-- A row with the values under some names alone. -/
def keepOnly (keep : List String) (e : Entity) : Entity :=
  { e with attributes := e.attributes.filter (fun name _ => keep.contains name) }

theorem Fits.keepOnly (fits : e.Fits schema) (keep : List String) :
    (e.keepOnly keep).Fits (schema.project keep) := by
  intro name value found
  obtain ⟨kept, own⟩ := Dict.find?_filter found
  exact (fits name value own).project (List.contains_iff_mem.1 kept)

theorem fits_infer {entityType : String} {rows : List Entity} (member : e ∈ rows) :
    e.Fits (Schema.infer entityType (rows.map Entity.attributes)) :=
  fun _ _ found => Schema.takes_infer (List.mem_map_of_mem member) found

/-- Whether a row shows no more than a schema declares: no value is of a kind that its columns do not
take, and an attribute `id` is a column like any other. -/
structure Shows (schema : Schema) (row : Entity) : Prop where
  below : ∀ c ∈ schema.columns, (row.get c.name).kind ≤ c.kind
  /-- Every other attribute without a column is refused by the store. -/
  identified : row.attributes.contains "id" = true → "id" ∈ schema.names

theorem Fits.shows (fits : e.Fits schema) : e.Shows schema where
  below := by
    intro c column
    rw [get]
    cases found : e.attributes.find? c.name with
    | none => exact bot_le (a := c.kind)
    | some value => exact (fits c.name value found).above c column rfl
  identified := by
    intro there
    obtain ⟨value, found⟩ := Option.isSome_iff_exists.1 there
    exact (fits "id" value found).named

/-- A row of attributes that the schema knows fits it if it shows no more than is declared. -/
theorem Shows.fits (shows : e.Shows schema)
    (known : ∀ name, e.attributes.contains name = true → schema.has name = true) :
    e.Fits schema := by
  intro name value found
  have there : e.attributes.contains name = true := by rw [Dict.contains, found]; rfl
  refine ⟨?_, fun c column same => ?_⟩
  · have has := known name there
    simp only [Schema.has, Bool.or_eq_true, beq_iff_eq, List.contains_iff_mem] at has
    rcases has with rfl | named
    · exact shows.identified there
    · exact named
  · have kind := shows.below c column
    rw [same, get, found] at kind
    exact kind

end Entity

namespace Table

open Entity (Fits)

variable {t : Table} {schema : Schema} {rows : List Entity}

/-- Whether all rows fit the schema. -/
def Typed (t : Table) : Prop := ∀ row ∈ t.rows, row.Fits t.schema

theorem typed_ofRows (entityType : String) (rows : List Entity) : (ofRows entityType rows).Typed :=
  fun _ member => Entity.fits_infer member

theorem Typed.limit (typed : t.Typed) (n : Option Nat) : (t.limit n).Typed := by
  cases n with
  | none => exact typed
  | some n => exact fun row member => typed row (List.mem_of_mem_take member)

theorem Typed.retype (typed : t.Typed) (entityType : String) : (t.retype entityType).Typed := typed

theorem fits_conformRows (fit : ∀ row ∈ rows, row.Fits schema) :
    ∀ row ∈ conformRows schema rows, row.Fits schema := by
  intro row member
  obtain ⟨before, there, rfl⟩ := List.mem_map.1 member
  exact (fit before there).conformTo

/-- The union of typed tables fits each schema that covers theirs. -/
theorem fits_unionRows {tables : List Table} (typed : ∀ t ∈ tables, t.Typed)
    (covers : ∀ t ∈ tables, schema.Covers t.schema) :
    ∀ row ∈ conformRows schema (unionRows tables), row.Fits schema := by
  refine fits_conformRows (mergeRows_keep (fun _ _ mine its => mine.absorb its) ?_)
  intro row member
  obtain ⟨t, there, inside⟩ := List.mem_flatMap.1 member
  exact (typed t there row inside).covers (covers t there)

theorem covers_unify_schemas {tables : List Table} :
    ∀ t ∈ tables, (Schema.unify (tables.map Table.schema)).schema.Covers t.schema :=
  fun _ member => Schema.covers_unify (List.mem_map_of_mem member)

theorem fits_joinRows {left right : Table} {leftAttr rightAttr : String} (lefts : left.Typed)
    (rights : right.Typed) (first : schema.Covers left.schema) (second : schema.Covers right.schema) :
    ∀ row ∈ conformRows schema (joinRows left right leftAttr rightAttr), row.Fits schema := by
  refine fits_conformRows (fun row member => ?_)
  obtain ⟨l, mine, r, its, attributes, _⟩ := mem_joinRows member
  have both := ((lefts l mine).covers first).absorb ((rights r its).covers second)
  exact both.congr attributes

theorem filterRows_subset {pattern : Option Pattern} {kept : List Entity}
    (filtered : filterRows schema rows pattern = .ok kept) : ∀ row ∈ kept, row ∈ rows := by
  cases pattern with
  | none => exact fun row member => Except.ok.inj filtered ▸ member
  | some p =>
    simp only [filterRows, Outcome.bind_eq_ok, Outcome.pure_eq_ok] at filtered
    obtain ⟨_, _, _, _, _, _, rfl⟩ := filtered
    exact fun row member => List.mem_of_mem_filter member

theorem orderRows_subset {standard : SortOrder} {key : Option SortKey} {sorted : List Entity}
    (ordered : orderRows standard schema rows key = .ok sorted) : ∀ row ∈ sorted, row ∈ rows := by
  cases key with
  | none => exact fun row member => Except.ok.inj ordered ▸ member
  | some key =>
    simp only [orderRows, Outcome.bind_eq_ok, Outcome.pure_eq_ok] at ordered
    obtain ⟨_, _, rfl⟩ := ordered
    exact fun row member => List.mem_mergeSort.1 member

theorem pageRows_subset {offset limit : Option Nat} :
    ∀ row ∈ pageRows offset limit rows, row ∈ rows := by
  intro row member
  unfold pageRows at member
  cases limit with
  | none => exact List.mem_of_mem_drop member
  | some n => exact List.mem_of_mem_drop (List.mem_of_mem_take member)

/-- Keeping named attributes keeps everything if a star is among the names, and else the columns and
the values under the other names. -/
theorem keepAttributes_eq_ok {attrs : List String} {result : Schema × List Entity}
    (kept : keepAttributes schema rows (some attrs) = .ok result) :
    result = if "*" ∈ attrs then (schema, rows)
      else (schema.project (attrs.filter (fun a => a != "id")),
        rows.map (Entity.keepOnly (attrs.filter (fun a => a != "id")))) := by
  simp only [keepAttributes, Outcome.bind_eq_ok] at kept
  obtain ⟨_, -, rest⟩ := kept
  by_cases star : "*" ∈ attrs
  · rw [if_pos (List.contains_iff_mem.2 star)] at rest
    rw [if_pos star, ← Outcome.pure_eq_ok.1 rest]
  · rw [if_neg (fun there => star (List.contains_iff_mem.1 there))] at rest
    rw [if_neg star, ← Outcome.pure_eq_ok.1 rest]
    rfl

/-- A refinement that succeeds keeps attributes of some of the rows. -/
theorem refine_eq_ok {standard : SortOrder} {r : Refinement} {refined : Table}
    (made : Table.refine standard t r = .ok refined) :
    ∃ page kept, (∀ row ∈ page, row ∈ t.rows) ∧
      keepAttributes t.schema page r.attrs = .ok kept ∧
      refined = ⟨t.entityType, { kept.1 with entityType := t.entityType }, kept.2⟩ := by
  simp only [Table.refine, Outcome.bind_eq_ok, Outcome.pure_eq_ok] at made
  obtain ⟨filtered, first, sorted, second, kept, third, rfl⟩ := made
  refine ⟨_, kept, fun row member => ?_, third, rfl⟩
  exact filterRows_subset first row (orderRows_subset second row (pageRows_subset row member))

theorem keepAttributes_fits {attrs : Option (List String)} {result : Schema × List Entity}
    (fit : ∀ row ∈ rows, row.Fits schema) (kept : keepAttributes schema rows attrs = .ok result) :
    ∀ row ∈ result.2, row.Fits result.1 := by
  cases attrs with
  | none => exact Except.ok.inj kept ▸ fit
  | some attrs =>
    rw [keepAttributes_eq_ok kept]
    split
    · exact fit
    · intro row member
      obtain ⟨before, there, rfl⟩ := List.mem_map.1 member
      exact (fit before there).keepOnly _

theorem Typed.refine (typed : t.Typed) {standard : SortOrder} {r : Refinement} {refined : Table}
    (made : Table.refine standard t r = .ok refined) : refined.Typed := by
  obtain ⟨page, kept, source, narrowed, rfl⟩ := refine_eq_ok made
  exact keepAttributes_fits (fun row member => typed row (source row member)) narrowed

end Table

namespace Merge

/-- The merged answer to a query is typed, whatever was answered. -/
theorem typed_replies (timeAttributes : List String) (q : EntityQuery) (rs : List Reply) :
    (replies timeAttributes q rs).table.Typed := by
  have sighted : ∀ e ∈ (rs.map (Reply.kept timeAttributes q)).flatten,
      e.Fits (replies timeAttributes q rs).table.schema := by
    intro e member
    obtain ⟨kept, of, inside⟩ := List.mem_flatten.1 member
    have some : kept.isEmpty = false := by
      cases kept with
      | nil => exact absurd inside List.not_mem_nil
      | cons first rest => rfl
    have own : e.Fits (Schema.infer q.entityType (kept.map Entity.attributes)) :=
      Entity.fits_infer inside
    refine own.covers (Schema.covers_unify (List.mem_map_of_mem (List.mem_filter.2 ⟨of, ?_⟩)))
    rw [some]
    rfl
  refine Table.fits_conformRows (fun row member => ?_)
  have merged : ∀ row ∈ rows q.entityType (rs.map (Reply.kept timeAttributes q)).flatten,
      row.Fits (replies timeAttributes q rs).table.schema :=
    rows_keep (fun _ _ mine its => mine.absorb its) sighted
  split at member
  · exact merged row (List.mem_of_mem_take member)
  · exact merged row member

end Merge

namespace Scene

theorem typed_unite {entityType : String} {parts : List Table} (typed : ∀ t ∈ parts, t.Typed) :
    (unite entityType parts).1.Typed := by
  unfold unite
  split
  · exact typed _ (List.mem_singleton_self _)
  · exact Table.fits_unionRows typed Table.covers_unify_schemas

theorem typed_pool {entityType : String} {tables : List Table} (typed : ∀ t ∈ tables, t.Typed) :
    (pool entityType tables).Typed :=
  Table.fits_unionRows typed Table.covers_unify_schemas

end Scene
end ThreatHunt
