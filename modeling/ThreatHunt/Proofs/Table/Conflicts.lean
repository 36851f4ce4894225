import Mathlib.Data.Finset.Card
import Mathlib.Data.List.Perm.Subperm
import ThreatHunt.Proofs.Table.Bounds

/-!
Conflicts that unification reports. A column is reported just if kinds are declared for it that do
not fit together, with one exception: both kinds of numbers, which fit together, are reported where
some schema has the column as `untyped` already.
-/

namespace ThreatHunt

namespace Kind

/-- Whether a kind tells what the values are. -/
def Tells (k : Kind) : Prop := k ≠ .untyped ∧ k ≠ .null

instance (k : Kind) : Decidable k.Tells := inferInstanceAs (Decidable (_ ∧ _))

theorem ne_of_unify? {a b : Kind} (apart : a.unify? b = none) : a ≠ b := by
  rintro rfl
  simp [unify?] at apart

theorem sup_of_unify? : ∀ a b : Kind, a.unify? b = none → a ⊔ b = .untyped := by decide

/-- The kinds of numbers are the only ones that differ and fit together. -/
theorem numbers_of_unify? : ∀ a b : Kind, a.Tells → b.Tells → a ≠ b → a.unify? b ≠ none →
    (a = .int ∧ b = .float) ∨ (a = .float ∧ b = .int) := by decide

/-- What is no number fits together with no number. -/
theorem unify?_int : ∀ k : Kind, ¬k ≤ .float → k ≠ .untyped →
    k.Tells ∧ Kind.unify? .int k = none := by decide

end Kind

namespace Schema

variable {schemas : List Schema} {name : String} {kind : Kind}

/-- Whether one of some schemas has a column of a name and a kind. -/
def Declares (schemas : List Schema) (name : String) (kind : Kind) : Prop :=
  ∃ s ∈ schemas, ⟨name, kind⟩ ∈ s.columns

/-- Whether unification reports a column. -/
def Reports (schemas : List Schema) (name : String) : Prop :=
  name ∈ (unify schemas).conflicts.map KindConflict.name

instance : Decidable (Reports schemas name) :=
  inferInstanceAs (Decidable (name ∈ (unify schemas).conflicts.map KindConflict.name))

/-- Whether kinds are declared for a column that tell what its values are and do not fit together. -/
def Misfits (schemas : List Schema) (name : String) : Prop :=
  ∃ a b, Declares schemas name a ∧ Declares schemas name b ∧ a.Tells ∧ b.Tells ∧ a.unify? b = none

/-- Whether kinds that do not fit together are declared at two places of a list of schemas. -/
def MisfitsApart (schemas : List Schema) (name : String) : Prop :=
  ∃ s s', [s, s'].Subperm schemas ∧ ∃ a b, ⟨name, a⟩ ∈ s.columns ∧ ⟨name, b⟩ ∈ s'.columns ∧
    a.Tells ∧ b.Tells ∧ a.unify? b = none

/-- Whether a column is `untyped` in one schema and holds numbers of either kind in others. -/
def Absorbs (schemas : List Schema) (name : String) : Prop :=
  Declares schemas name .int ∧ Declares schemas name .float ∧ Declares schemas name .untyped

/-- The kinds that a report of a column would show. -/
def toldKinds (schemas : List Schema) (name : String) : List Kind :=
  (kindsOf name (schemas.flatMap Schema.columns)).filter (fun k => k != .untyped && k != .null)

theorem mem_toldKinds : kind ∈ toldKinds schemas name ↔ Declares schemas name kind ∧ kind.Tells := by
  have declared : kind ∈ kindsOf name (schemas.flatMap Schema.columns) ↔
      Declares schemas name kind := by
    rw [kindsOf, mem_distinct, List.mem_map]
    constructor
    · rintro ⟨c, member, rfl⟩
      obtain ⟨there, named⟩ := List.mem_filter.1 member
      obtain ⟨s, inside, column⟩ := List.mem_flatMap.1 there
      exact ⟨s, inside, beq_iff_eq.1 named ▸ column⟩
    · rintro ⟨s, inside, column⟩
      have there := List.mem_flatMap.2 ⟨s, inside, column⟩
      exact ⟨⟨name, kind⟩, List.mem_filter.2 ⟨there, beq_self_eq_true name⟩, rfl⟩
  rw [toldKinds, List.mem_filter, declared]
  simp [Kind.Tells]

theorem nodup_toldKinds : (toldKinds schemas name).Nodup := (nodup_distinct _).filter _

/-- Several kinds are told just if two different ones are declared. -/
theorem one_lt_toldKinds : 1 < (toldKinds schemas name).length ↔
    ∃ a b, a ≠ b ∧ (Declares schemas name a ∧ a.Tells) ∧ (Declares schemas name b ∧ b.Tells) := by
  rw [← List.toFinset_card_of_nodup nodup_toldKinds, Finset.one_lt_card]
  simp only [List.mem_toFinset, mem_toldKinds]
  constructor
  · rintro ⟨a, first, b, second, apart⟩
    exact ⟨a, b, apart, first, second⟩
  · rintro ⟨a, b, apart, first, second⟩
    exact ⟨a, first, b, second, apart⟩

theorem name_of_conflict? {all : List Column} {c : Column} {w : KindConflict}
    (made : conflict? all c = some w) : w.name = c.name := by
  simp only [conflict?, Option.ite_none_right_eq_some] at made
  rw [← Option.some.inj made.2]

/-- A column is reported if it ends as `untyped` though several kinds are told. -/
theorem reports_iff_column : Reports schemas name ↔
    ⟨name, .untyped⟩ ∈ (unify schemas).schema.columns ∧ 1 < (toldKinds schemas name).length := by
  rw [Reports, List.mem_map]
  constructor
  · rintro ⟨w, member, rfl⟩
    obtain ⟨c, column, made⟩ := List.mem_filterMap.1 member
    rw [name_of_conflict? made]
    simp only [conflict?, Option.ite_none_right_eq_some] at made
    obtain ⟨⟨untyped, several⟩, -⟩ := made
    exact ⟨untyped ▸ column, several⟩
  · rintro ⟨column, several⟩
    have made : conflict? (schemas.flatMap Schema.columns) ⟨name, .untyped⟩ =
        some ⟨name, toldKinds schemas name⟩ := if_pos ⟨rfl, several⟩
    exact ⟨_, List.mem_filterMap.2 ⟨_, column, made⟩, rfl⟩

theorem exists_column (declared : Declares schemas name kind) :
    ∃ c ∈ (unify schemas).schema.columns, c.name = name := by
  obtain ⟨s, there, column⟩ := declared
  exact List.mem_map.1 (takes_unify there column).named

/-- A column is `untyped` if what is declared for it has no other upper bound. -/
theorem untyped_of_sup {a b : Kind} (first : Declares schemas name a)
    (second : Declares schemas name b) (top : a ⊔ b = .untyped) :
    ⟨name, .untyped⟩ ∈ (unify schemas).schema.columns := by
  obtain ⟨c, column, rfl⟩ := exists_column first
  have bound := ((unifies_columns schemas).kinds c column).1
  have above : a ⊔ b ≤ c.kind := sup_le (bound first) (bound second)
  rw [top] at above
  have untyped : Kind.untyped = c.kind := le_antisymm above (le_top (a := c.kind))
  rw [untyped]
  exact column

theorem Misfits.reports (misfits : Misfits schemas name) : Reports schemas name := by
  obtain ⟨a, b, first, second, tells, tells', apart⟩ := misfits
  exact reports_iff_column.2 ⟨untyped_of_sup first second (Kind.sup_of_unify? a b apart),
    one_lt_toldKinds.2 ⟨a, b, Kind.ne_of_unify? apart, ⟨first, tells⟩, ⟨second, tells'⟩⟩⟩

theorem Absorbs.reports (absorbs : Absorbs schemas name) : Reports schemas name := by
  obtain ⟨int, float, untyped⟩ := absorbs
  exact reports_iff_column.2 ⟨untyped_of_sup untyped untyped rfl,
    one_lt_toldKinds.2 ⟨.int, .float, by decide, ⟨int, by decide⟩, ⟨float, by decide⟩⟩⟩

/-- A column with numbers of either kind is `untyped` for a reason: it is declared so, or as
something that is no number. -/
theorem misfits_or_absorbs (column : ⟨name, .untyped⟩ ∈ (unify schemas).schema.columns)
    (int : Declares schemas name .int) (float : Declares schemas name .float) :
    Misfits schemas name ∨ Absorbs schemas name := by
  by_cases declared : Declares schemas name .untyped
  · exact .inr ⟨int, float, declared⟩
  · have least := ((unifies_columns schemas).kinds _ column).2
    have short : ¬Kind.untyped ≤ .float := by decide
    have above : ¬∀ k, Declares schemas name k → k ≤ .float :=
      fun below => short (least (fun k there => below k there))
    push Not at above
    obtain ⟨k, there, large⟩ := above
    have other : k ≠ .untyped := fun same => declared (same ▸ there)
    obtain ⟨tells, apart⟩ := Kind.unify?_int k large other
    exact .inl ⟨.int, k, int, there, by decide, tells, apart⟩

theorem reports_iff : Reports schemas name ↔ Misfits schemas name ∨ Absorbs schemas name := by
  constructor
  · intro reports
    obtain ⟨column, several⟩ := reports_iff_column.1 reports
    obtain ⟨a, b, different, ⟨first, tells⟩, ⟨second, tells'⟩⟩ := one_lt_toldKinds.1 several
    by_cases apart : a.unify? b = none
    · exact .inl ⟨a, b, first, second, tells, tells', apart⟩
    · rcases Kind.numbers_of_unify? a b tells tells' different apart with ⟨rfl, rfl⟩ | ⟨rfl, rfl⟩
      · exact misfits_or_absorbs column first second
      · exact misfits_or_absorbs column second first
  · rintro (misfits | absorbs)
    · exact misfits.reports
    · exact absorbs.reports

/-- Schemas that list each column once do not misfit by themselves. -/
theorem misfits_iff_apart (unrepeated : ∀ s ∈ schemas, s.Unrepeated) :
    Misfits schemas name ↔ MisfitsApart schemas name := by
  constructor
  · rintro ⟨a, b, ⟨s, there, column⟩, ⟨s', there', column'⟩, tells, tells', apart⟩
    have different : s ≠ s' := by
      rintro rfl
      have same := Keyed.eq_of_key (unrepeated s there) column column' rfl
      exact Kind.ne_of_unify? apart (Column.mk.inj same).2
    have both : [s, s'].Subperm schemas := by
      refine List.subperm_of_subset (by simpa using different) ?_
      simp [there, there']
    exact ⟨s, s', both, a, b, column, column', tells, tells', apart⟩
  · rintro ⟨s, s', both, a, b, column, column', tells, tells', apart⟩
    exact ⟨a, b, ⟨s, both.subset (by simp), column⟩, ⟨s', both.subset (by simp), column'⟩, tells,
      tells', apart⟩

/-- No column is reported twice. -/
theorem nodup_reported (schemas : List Schema) :
    ((unify schemas).conflicts.map KindConflict.name).Nodup := by
  have part : ∀ columns : List Column,
      ((columns.filterMap (conflict? (schemas.flatMap Schema.columns))).map
        KindConflict.name).Sublist (columns.map Column.name) := by
    intro columns
    induction columns with
    | nil => exact List.Sublist.slnil
    | cons c rest ih =>
      cases made : conflict? (schemas.flatMap Schema.columns) c with
      | none => simpa [made] using ih.cons c.name
      | some w => simpa [made, name_of_conflict? made] using ih
  exact (unrepeated_unify schemas).sublist (part _)

/-- Unification reports a column, once, if kinds are declared for it that do not fit together, or if
it has numbers of either kind and is `untyped` in some schema. Unless the latter is so, two schemas
of the list are at odds about each column that is reported, and about no other. -/
theorem unify_reports (schemas : List Schema) (name : String) :
    (Reports schemas name ↔ Misfits schemas name ∨ Absorbs schemas name) ∧
      ((∀ s ∈ schemas, s.Unrepeated) → ¬Absorbs schemas name →
        (Reports schemas name ↔ MisfitsApart schemas name)) ∧
      ((unify schemas).conflicts.map KindConflict.name).Nodup := by
  refine ⟨reports_iff, fun unrepeated clear => ?_, nodup_reported schemas⟩
  rw [reports_iff, or_iff_left clear, misfits_iff_apart unrepeated]

/-- A schema that has the column as `untyped` neither makes nor hides a report. -/
theorem unify_reports_spelled :
    let schemas : List Schema := [⟨"process", [⟨"pid", .int⟩]⟩, ⟨"process", [⟨"pid", .untyped⟩]⟩,
      ⟨"process", [⟨"pid", .str⟩]⟩]
    MisfitsApart schemas "pid" := by
  intro schemas
  have unrepeated : ∀ s ∈ schemas, s.Unrepeated := by
    simp [schemas, Unrepeated, names]
  have clear : ¬Absorbs schemas "pid" := by
    rintro ⟨-, float, -⟩
    simp [Declares, schemas] at float
  have reports : Reports schemas "pid" := by decide
  exact ((unify_reports schemas "pid").2.1 unrepeated clear).1 reports

/-- Integers and floating point numbers fit together, and are reported where a third schema has the
column as `untyped`. -/
theorem unify_reports_absorbed :
    ¬∀ (schemas : List Schema) (name : String),
      Reports schemas name ↔ MisfitsApart schemas name := by
  intro exact
  let schemas : List Schema := [⟨"process", [⟨"load", .int⟩]⟩, ⟨"process", [⟨"load", .float⟩]⟩,
    ⟨"process", [⟨"load", .untyped⟩]⟩]
  have unrepeated : ∀ s ∈ schemas, s.Unrepeated := by
    simp [schemas, Unrepeated, names]
  have reports : Reports schemas "load" := by decide
  obtain ⟨a, b, first, second, tells, tells', apart⟩ :=
    (misfits_iff_apart unrepeated).2 ((exact schemas "load").1 reports)
  simp only [Declares, schemas, List.mem_cons, List.not_mem_nil, or_false, exists_eq_or_imp,
    exists_eq_left, Column.mk.injEq, true_and] at first second
  have fit : ∀ a b : Kind, (a = .int ∨ a = .float ∨ a = .untyped) →
      (b = .int ∨ b = .float ∨ b = .untyped) → a.Tells → b.Tells → a.unify? b ≠ none := by decide
  exact fit a b first second tells tells' apart

end Schema
end ThreatHunt
