import ThreatHunt.Proofs.Pattern.NormalText
import ThreatHunt.Proofs.Table.Merging

/-!
Conditions that outlast merging. Where each of several sightings meets a condition, the row merged
from them need not: a conjunction under a negation may be refuted by each sighting for another
reason, and by the row for none. It does for patterns that can only gain by further attributes, for
patterns about one attribute, and for what is made of these without alternatives.
-/

namespace ThreatHunt

namespace Entity

theorem valueOf_of_ne {e : Entity} {name : String} (other : name ≠ "id") :
    e.valueOf name = e.get name := by
  simp only [valueOf, get]
  cases e.attributes.find? name with
  | some v => rfl
  | none => simp [other]

theorem valueOf_id {e : Entity} (plain : e.attributes.contains "id" = false) :
    e.valueOf "id" = .str e.id := by
  have absent : e.attributes.find? "id" = none := by simpa [Dict.contains] using plain
  simp [valueOf, absent]

/-- A merged row shows what some sighting shows, and what the first one shows if that is not null.
An attribute called `id` would hide the identifier. -/
theorem MergedFrom.valueOf {row first : Entity} {others : List Entity}
    (merged : row.MergedFrom first others) {name : String}
    (plain : name = "id" → row.attributes.contains "id" = false) :
    (∃ e ∈ first :: others, row.valueOf name = e.valueOf name) ∧
      ((first.valueOf name).isNull = false → row.valueOf name = first.valueOf name) := by
  by_cases identifier : name = "id"
  · subst identifier
    have clear := plain rfl
    have own : first.attributes.contains "id" = false := by
      cases there : first.attributes.contains "id" with
      | false => rfl
      | true =>
        rw [merged.names first (List.mem_cons_self ..) "id" there] at clear
        nomatch clear
    have same : row.valueOf "id" = first.valueOf "id" := by
      rw [valueOf_id clear, valueOf_id own, merged.id]
    exact ⟨⟨first, List.mem_cons_self .., same⟩, fun _ => same⟩
  · simp only [valueOf_of_ne identifier]
    have given := merged.values name
    rw [List.map_cons, Value.firstOf_cons] at given
    by_cases missing : (first.get name).isNull
    · refine ⟨?_, fun there => absurd missing (by simp [there])⟩
      rw [if_pos missing] at given
      cases some : (Value.firstOf (others.map (fun e => e.get name))).isNull with
      | true =>
        refine ⟨first, List.mem_cons_self .., ?_⟩
        rw [given, Value.eq_null_of_isNull some, Value.eq_null_of_isNull missing]
      | false =>
        obtain ⟨e, member, same⟩ := List.mem_map.1 (Value.firstOf_mem some)
        exact ⟨e, List.mem_cons_of_mem _ member, given.trans same.symm⟩
    · rw [if_neg missing] at given
      exact ⟨⟨first, List.mem_cons_self .., given⟩, fun _ => given⟩

end Entity

theorem Comparison.admits_congr {c : Comparison} {e f : Entity}
    (same : e.valueOf c.attr = f.valueOf c.attr) : c.admits e = c.admits f := by
  unfold admits
  rw [same]

theorem Comparison.not_isNull_of_admits {c : Comparison} {e : Entity} (other : c.operator ≠ .isNull)
    (holds : c.admits e = true) : (e.valueOf c.attr).isNull = false := by
  cases missing : (e.valueOf c.attr).isNull with
  | false => rfl
  | true =>
    unfold admits at holds
    split at holds <;> simp_all

namespace Pattern

mutual

/-- Entities that show the same values to a pattern are told apart by none. -/
theorem admits_congr {e f : Entity} : ∀ p : Pattern,
    (∀ c ∈ p.comparisons, e.valueOf c.attr = f.valueOf c.attr) → admits e p = admits f p
  | .all parts, same => admitsAll_congr parts same
  | .any parts, same => admitsAny_congr parts same
  | .negation part, same => congrArg Bool.not (admits_congr part same)
  | .test c, same => Comparison.admits_congr (same c (List.mem_singleton_self c))

theorem admitsAll_congr {e f : Entity} : ∀ parts : List Pattern,
    (∀ c ∈ comparisonsOf parts, e.valueOf c.attr = f.valueOf c.attr) →
      admitsAll e parts = admitsAll f parts
  | [], _ => rfl
  | part :: rest, same => by
    have head := admits_congr part (fun c member => same c (List.mem_append_left _ member))
    have tail := admitsAll_congr rest (fun c member => same c (List.mem_append_right _ member))
    rw [admitsAll, admitsAll, head, tail]

theorem admitsAny_congr {e f : Entity} : ∀ parts : List Pattern,
    (∀ c ∈ comparisonsOf parts, e.valueOf c.attr = f.valueOf c.attr) →
      admitsAny e parts = admitsAny f parts
  | [], _ => rfl
  | part :: rest, same => by
    have head := admits_congr part (fun c member => same c (List.mem_append_left _ member))
    have tail := admitsAny_congr rest (fun c member => same c (List.mem_append_right _ member))
    rw [admitsAny, admitsAny, head, tail]

end

/-- A pattern without negations and tests for null. -/
inductive Growing : Pattern → Prop where
  | all {parts : List Pattern} : (∀ p ∈ parts, Growing p) → Growing (.all parts)
  | any {parts : List Pattern} : (∀ p ∈ parts, Growing p) → Growing (.any parts)
  | test {c : Comparison} : c.operator ≠ .isNull → Growing (.test c)

/-- A pattern that a merged row meets if all its sightings do: one that further attributes cannot
refute, one about a single attribute, or a conjunction of such patterns. -/
inductive Lasting : Pattern → Prop where
  | growing {p : Pattern} : Growing p → Lasting p
  | single {p : Pattern} (attr : String) : (∀ c ∈ p.comparisons, c.attr = attr) → Lasting p
  | all {parts : List Pattern} : (∀ p ∈ parts, Lasting p) → Lasting (.all parts)
  | neither {parts : List Pattern} : (∀ p ∈ parts, Lasting (.negation p)) →
      Lasting (.negation (.any parts))
  | twice {p : Pattern} : Lasting p → Lasting (.negation (.negation p))

/-- Whether a pattern reads an attribute. -/
def Reads (p : Pattern) (attr : String) : Prop := ∃ c ∈ p.comparisons, c.attr = attr

variable {p : Pattern} {e : Entity} {parts : List Pattern}

theorem Reads.part {part : Pattern} {attr : String} (reads : part.Reads attr)
    (member : part ∈ parts) : (Pattern.all parts).Reads attr ∧ (Pattern.any parts).Reads attr := by
  obtain ⟨c, there, same⟩ := reads
  have inside : c ∈ comparisonsOf parts := mem_comparisonsOf.2 ⟨part, member, there⟩
  exact ⟨⟨c, inside, same⟩, ⟨c, inside, same⟩⟩

theorem admits_all : admits e (.all parts) = true ↔ ∀ p ∈ parts, admits e p = true := by
  rw [admits, admitsAll_eq, List.all_eq_true]

theorem admits_any : admits e (.any parts) = true ↔ ∃ p ∈ parts, admits e p = true := by
  rw [admits, admitsAny_eq, List.any_eq_true]

theorem admits_negation : admits e (.negation p) = true ↔ ¬admits e p = true := by
  rw [admits, Bool.not_eq_true', Bool.not_eq_true]

theorem admits_neither :
    admits e (.negation (.any parts)) = true ↔ ∀ p ∈ parts, admits e (.negation p) = true := by
  rw [admits_negation, admits_any]
  constructor
  · exact fun none p member => admits_negation.2 (fun holds => none ⟨p, member, holds⟩)
  · rintro each ⟨p, member, holds⟩
    exact admits_negation.1 (each p member) holds

/-- What a growing pattern admits it still admits with more values. -/
theorem Growing.admits_of_admits (growing : Growing p) {e row : Entity}
    (holds : admits e p = true)
    (kept : ∀ attr, p.Reads attr → (e.valueOf attr).isNull = false →
      row.valueOf attr = e.valueOf attr) : admits row p = true := by
  induction growing with
  | all _ ih =>
    rw [admits_all] at holds ⊢
    exact fun p member => ih p member (holds p member)
      (fun attr reads => kept attr (reads.part member).1)
  | any _ ih =>
    rw [admits_any] at holds ⊢
    obtain ⟨p, member, met⟩ := holds
    exact ⟨p, member, ih p member met (fun attr reads => kept attr (reads.part member).2)⟩
  | @test c other =>
    have there := Comparison.not_isNull_of_admits other holds
    exact (Comparison.admits_congr
      (kept c.attr ⟨c, List.mem_singleton_self c, rfl⟩ there)).trans holds

variable {row first : Entity} {others : List Entity}

/-- A row merged from sightings that all match a lasting pattern matches it too. -/
theorem Lasting.admits_of_merged (lasting : Lasting p) (merged : row.MergedFrom first others)
    (plain : p.Reads "id" → row.attributes.contains "id" = false)
    (each : ∀ e ∈ first :: others, admits e p = true) : admits row p = true := by
  induction lasting with
  | growing growing =>
    refine growing.admits_of_admits (each first (List.mem_cons_self ..)) (fun attr reads => ?_)
    exact (merged.valueOf (fun same => plain (same ▸ reads))).2
  | @single p attr one =>
    by_cases reads : p.Reads attr
    · -- The row shows the one attribute as some sighting does, so it cannot be told from that.
      obtain ⟨e, member, same⟩ := (merged.valueOf (fun this => plain (this ▸ reads))).1
      exact (admits_congr p (fun c there => by rw [one c there, same])).trans (each e member)
    · have none : ∀ c ∈ p.comparisons, row.valueOf c.attr = first.valueOf c.attr :=
        fun c there => absurd ⟨c, there, one c there⟩ reads
      exact (admits_congr p none).trans (each first (List.mem_cons_self ..))
  | all _ ih =>
    rw [admits_all]
    exact fun p member => ih p member (fun reads => plain (reads.part member).1)
      (fun e there => admits_all.1 (each e there) p member)
  | neither _ ih =>
    rw [admits_neither]
    refine fun p member => ih p member (fun reads => plain ?_)
      (fun e there => admits_neither.1 (each e there) p member)
    have inside : p.Reads "id" := reads
    exact (inside.part member).2
  | twice _ ih =>
    have double : ∀ {e : Entity} {p : Pattern},
        admits e (.negation (.negation p)) = true ↔ admits e p = true := by
      intro e p
      rw [admits_negation, admits_negation, not_not]
    exact double.2 (ih plain (fun e there => double.1 (each e there)))

/-- A row of one sighting matches what that one matches. -/
theorem admits_of_single (merged : row.MergedFrom first [])
    (plain : p.Reads "id" → row.attributes.contains "id" = false)
    (holds : admits first p = true) : admits row p = true := by
  refine (admits_congr p (fun c member => ?_)).trans holds
  obtain ⟨e, there, same⟩ := (merged.valueOf (fun this => plain ⟨c, member, this⟩)).1
  rw [same, List.mem_singleton.1 there]

end Pattern

namespace Window

/-- Whether all that an entity has under certain attributes are instants. -/
def Timed (timeAttributes : List String) (e : Entity) : Prop :=
  ∀ a ∈ timeAttributes, (e.get a).isNull = false → (instantIn (e.get a)).isSome = true

variable {timeAttributes : List String} {w : Window}

theorem admits_iff {e : Entity} :
    w.admits timeAttributes e = true ↔
      (∀ a ∈ timeAttributes, instantIn (e.get a) = none) ∨
        ∃ a ∈ timeAttributes, ∃ t, instantIn (e.get a) = some t ∧ w.contains t = true := by
  rw [admits, Bool.or_eq_true, List.isEmpty_iff, List.filterMap_eq_nil_iff, List.any_eq_true]
  refine or_congr Iff.rfl ⟨?_, ?_⟩
  · rintro ⟨t, found, inside⟩
    obtain ⟨a, member, shown⟩ := List.mem_filterMap.1 found
    exact ⟨a, member, t, shown, inside⟩
  · rintro ⟨a, member, t, shown, inside⟩
    exact ⟨t, List.mem_filterMap.2 ⟨a, member, shown⟩, inside⟩

theorem not_isNull_of_instantIn {v : Value} {t : Instant} (shown : instantIn v = some t) :
    v.isNull = false := by
  cases v <;> first | rfl | nomatch shown

/-- The first sighting with an instant settles that the row made of all is admitted. -/
theorem admits_of_values {row : Entity} {sightings : List Entity}
    (values : ∀ a ∈ timeAttributes, row.get a = Value.firstOf (sightings.map (fun e => e.get a)))
    (timed : ∀ e ∈ sightings, Timed timeAttributes e)
    (each : ∀ e ∈ sightings, w.admits timeAttributes e = true) :
    w.admits timeAttributes row = true := by
  rw [admits_iff]
  induction sightings with
  | nil => exact .inl (fun a member => by rw [values a member]; rfl)
  | cons e rest ih =>
    have given : ∀ a ∈ timeAttributes, row.get a = if (e.get a).isNull then
        Value.firstOf (rest.map (fun e => e.get a)) else e.get a := fun a member => by
      rw [values a member, List.map_cons, Value.firstOf_cons]
    by_cases blank : ∀ a ∈ timeAttributes, (e.get a).isNull = true
    · exact ih (fun a member => by rw [given a member, if_pos (blank a member)])
        (fun f later => timed f (List.mem_cons_of_mem _ later))
        (fun f later => each f (List.mem_cons_of_mem _ later))
    · obtain ⟨a, member, there⟩ : ∃ a ∈ timeAttributes, (e.get a).isNull = false := by
        simpa using blank
      have shown := timed e (List.mem_cons_self ..) a member there
      rcases admits_iff.1 (each e (List.mem_cons_self ..)) with none | ⟨b, present, t, here, inside⟩
      · rw [none a member] at shown
        nomatch shown
      · refine .inr ⟨b, present, t, ?_, inside⟩
        rw [given b present, if_neg (by simp [not_isNull_of_instantIn here])]
        exact here

variable {window : Option Window} {row first : Entity} {others : List Entity}

/-- A window that admits all sightings of a row admits the row, if they have nothing but instants
where instants are looked for. -/
theorem admits?_of_merged (merged : row.MergedFrom first others)
    (timed : ∀ e ∈ first :: others, Timed timeAttributes e)
    (each : ∀ e ∈ first :: others, admits? timeAttributes window e = true) :
    admits? timeAttributes window row = true := by
  cases window with
  | none => rfl
  | some w => exact admits_of_values (fun a _ => merged.values a) timed each

theorem admits?_of_single (merged : row.MergedFrom first [])
    (holds : admits? timeAttributes window first = true) :
    admits? timeAttributes window row = true := by
  cases window with
  | none => rfl
  | some w =>
    have same : w.admits timeAttributes row = w.admits timeAttributes first := by
      simp only [admits, merged.get_of_single]
    exact same.trans holds

end Window
end ThreatHunt
