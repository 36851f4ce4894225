import ThreatHunt.Fetch.Merge
import ThreatHunt.Proofs.Keyed

/-!
What merging sightings makes of an entity. The row that comes out has the identifier of the first
sighting, and under each attribute the first value among the sightings that is not null. It does not
matter in which steps they were merged, nor whether nulls were put in for missing attributes.
-/

namespace ThreatHunt

namespace Value

variable {v : Value}

theorem eq_null_of_isNull (missing : v.isNull = true) : v = .null := by
  cases v <;> first | rfl | nomatch missing

/-- The first value that is not null, if there is one. -/
def firstOf (vs : List Value) : Value := (vs.find? (fun v => !v.isNull)).getD .null

theorem firstOf_cons (vs : List Value) :
    firstOf (v :: vs) = if v.isNull then firstOf vs else v := by
  cases missing : v.isNull <;> simp [firstOf, missing]

theorem firstOf_append (vs ws : List Value) :
    firstOf (vs ++ ws) = if (firstOf vs).isNull then firstOf ws else firstOf vs := by
  induction vs with
  | nil => rfl
  | cons v rest ih =>
    rw [List.cons_append, firstOf_cons, firstOf_cons, ih]
    by_cases missing : v.isNull
    · simp only [missing, if_true]
    · simp only [missing, if_false, Bool.false_eq_true]

/-- What comes first among values is one of them. -/
theorem firstOf_mem {vs : List Value} (there : (firstOf vs).isNull = false) :
    firstOf vs ∈ vs := by
  unfold firstOf at there ⊢
  cases found : vs.find? (fun v => !v.isNull) with
  | none =>
    rw [found] at there
    nomatch there
  | some v => exact List.mem_of_find?_eq_some found

end Value

namespace Dict

variable {α : Type}

/-- Each name has one entry. -/
theorem find?_of_mem {d : Dict α} {name : String} {value : α}
    (member : (name, value) ∈ d.entries) : d.find? name = some value :=
  findEntry_of_mem (List.pairwise_map.2 (d.sorted.imp Std.ne_of_lt)) member

theorem find?_filter {d : Dict α} {keep : String → α → Bool} {name : String} {value : α}
    (found : (d.filter keep).find? name = some value) :
    keep name value = true ∧ d.find? name = some value := by
  obtain ⟨member, kept⟩ := List.mem_filter.1 (mem_of_find? found)
  exact ⟨kept, find?_of_mem member⟩

theorem contains_iff_mem_names {d : Dict α} {name : String} :
    d.contains name = true ↔ name ∈ d.names := by
  constructor
  · intro there
    obtain ⟨value, found⟩ := Option.isSome_iff_exists.1 there
    exact List.mem_map.2 ⟨(name, value), mem_of_find? found, rfl⟩
  · intro member
    obtain ⟨⟨other, value⟩, entry, rfl⟩ := List.mem_map.1 member
    exact Option.isSome_iff_exists.2 ⟨value, find?_of_mem entry⟩

end Dict

namespace Entity

/-- Puts a value under a name that is missing or null. -/
def fill (mine : Dict Value) (entry : String × Value) : Dict Value :=
  match mine.find? entry.1 with
  | none | some .null => mine.insert entry.1 entry.2
  | some _ => mine

theorem find?_fill (mine : Dict Value) (entry : String × Value) (name : String) :
    (fill mine entry).find? name =
      if entry.1 = name ∧ ((mine.find? name).getD .null).isNull then some entry.2
      else mine.find? name := by
  unfold fill
  by_cases same : entry.1 = name
  · subst same
    split
    · rename_i absent
      simp [Dict.find?_insert, absent, Value.isNull]
    · rename_i null
      simp [Dict.find?_insert, null, Value.isNull]
    · rename_i v known found
      have there : v.isNull = false := by
        cases v <;> first | rfl | exact absurd rfl known
      simp [found, there]
  · split <;> simp [Dict.find?_insert, same]

theorem find?_foldl_fill {entries : List (String × Value)}
    (sorted : entries.Pairwise (fun a b => a.1 < b.1)) (mine : Dict Value) (name : String) :
    (entries.foldl fill mine).find? name =
      if ((mine.find? name).getD .null).isNull then
        (Dict.findEntry name entries).or (mine.find? name)
      else mine.find? name := by
  induction entries generalizing mine with
  | nil => simp [Dict.findEntry]
  | cons entry rest ih =>
    obtain ⟨above, later⟩ := List.pairwise_cons.1 sorted
    rw [List.foldl_cons, ih later, find?_fill, Dict.findEntry]
    by_cases same : entry.1 = name
    · -- No later entry has this name, so what the first one puts in stays.
      have none : Dict.findEntry name rest = none :=
        Dict.findEntry_eq_none (fun e member => same ▸ (Std.ne_of_lt (above e member)).symm)
      by_cases missing : ((mine.find? name).getD .null).isNull
      · simp [same, missing, none]
      · simp [same, missing]
    · simp [same]

theorem find?_absorb (e other : Entity) (name : String) :
    (e.absorb other).attributes.find? name =
      if (e.get name).isNull then (other.attributes.find? name).or (e.attributes.find? name)
      else e.attributes.find? name :=
  find?_foldl_fill other.attributes.sorted e.attributes name

/-- What is null is taken from the other sighting, and all else stays. -/
theorem get_absorb (e other : Entity) (name : String) :
    (e.absorb other).get name = if (e.get name).isNull then other.get name else e.get name := by
  have given : (e.absorb other).get name = ((e.absorb other).attributes.find? name).getD .null := rfl
  rw [given, find?_absorb]
  by_cases missing : (e.get name).isNull
  · rw [if_pos missing, if_pos missing, get]
    cases other.attributes.find? name with
    | none => exact Value.eq_null_of_isNull missing
    | some v => rfl
  · rw [if_neg missing, if_neg missing, get]

theorem contains_absorb (e other : Entity) (name : String) :
    (e.absorb other).attributes.contains name = true ↔
      e.attributes.contains name = true ∨ other.attributes.contains name = true := by
  unfold Dict.contains
  rw [find?_absorb]
  split
  · cases other.attributes.find? name <;> simp
  · rename_i there
    have known : (e.attributes.find? name).isSome = true := by
      unfold get at there
      cases found : e.attributes.find? name with
      | none => simp [found, Value.isNull] at there
      | some v => rfl
    simp [known]

/-- A row with a null under every column that it lacks. -/
def conformTo (schema : Schema) (row : Entity) : Entity :=
  { row with attributes := schema.conform row.attributes }

end Entity

theorem Schema.find?_conform (schema : Schema) (row : Dict Value) (name : String) :
    (schema.conform row).find? name =
      (row.find? name).or (if name ∈ schema.names then some .null else none) := by
  have columns : ∀ columns : List Column,
      (columns.foldl (fun row c =>
        if row.contains c.name then row else row.insert c.name .null) row).find? name =
      (row.find? name).or (if name ∈ columns.map Column.name then some .null else none) := by
    intro columns
    induction columns generalizing row with
    | nil => simp
    | cons c rest ih =>
      rw [List.foldl_cons, ih]
      by_cases there : row.contains c.name
      · rw [if_pos there]
        cases found : row.find? name with
        | some v => simp
        | none =>
          have other : name ≠ c.name := by
            rintro rfl
            simp [Dict.contains, found] at there
          simp [other]
      · have absent : row.find? c.name = none := by simpa [Dict.contains] using there
        rw [if_neg there, Dict.find?_insert]
        by_cases same : c.name = name
        · subst same
          simp [absent]
        · simp [same, Ne.symm same]
  exact columns schema.columns

namespace Entity

theorem get_conformTo (schema : Schema) (row : Entity) (name : String) :
    (row.conformTo schema).get name = row.get name := by
  simp only [get, conformTo, Schema.find?_conform]
  cases row.attributes.find? name with
  | some v => rfl
  | none => by_cases column : name ∈ schema.names <;> simp [column]

theorem contains_conformTo (schema : Schema) (row : Entity) (name : String) :
    (row.conformTo schema).attributes.contains name = true ↔
      row.attributes.contains name = true ∨ name ∈ schema.names := by
  simp only [Dict.contains, conformTo, Schema.find?_conform]
  cases row.attributes.find? name with
  | some v => simp
  | none => by_cases column : name ∈ schema.names <;> simp [column]

/-- A row that was merged from sightings, the first of which gives its identifier. -/
structure MergedFrom (row first : Entity) (others : List Entity) : Prop where
  id : row.id = first.id
  values : ∀ name, row.get name = Value.firstOf ((first :: others).map (fun e => e.get name))
  names : ∀ e ∈ first :: others, ∀ name, e.attributes.contains name = true →
    row.attributes.contains name = true

theorem MergedFrom.self (e : Entity) : e.MergedFrom e [] where
  id := rfl
  values := fun name => by
    rw [List.map_singleton, Value.firstOf_cons]
    split
    · rename_i missing
      exact Value.eq_null_of_isNull missing
    · rfl
  names := fun _ member _ there => List.mem_singleton.1 member ▸ there

theorem MergedFrom.get_of_single {row first : Entity} (merged : row.MergedFrom first [])
    (name : String) : row.get name = first.get name := by
  rw [merged.values, ← (self first).values]

theorem MergedFrom.absorb {row first other next : Entity} {others rest : List Entity}
    (merged : row.MergedFrom first others) (more : other.MergedFrom next rest) :
    (row.absorb other).MergedFrom first (others ++ next :: rest) where
  id := merged.id
  values := fun name => by
    rw [get_absorb, merged.values, more.values, ← List.cons_append, List.map_append,
      Value.firstOf_append]
  names := fun e member name there => by
    refine (contains_absorb row other name).2 ?_
    rw [← List.cons_append] at member
    rcases List.mem_append.1 member with mine | its
    · exact .inl (merged.names e mine name there)
    · exact .inr (more.names e its name there)

theorem MergedFrom.conformTo {row first : Entity} {others : List Entity}
    (merged : row.MergedFrom first others) (schema : Schema) :
    (row.conformTo schema).MergedFrom first others where
  id := merged.id
  values := fun name => (get_conformTo schema row name).trans (merged.values name)
  names := fun e member name there =>
    (contains_conformTo schema row name).2 (.inl (merged.names e member name there))

/-- Whether a row was merged from sightings of a kind. -/
def MergedOf (Kind : Entity → Prop) (row : Entity) : Prop :=
  ∃ first others, row.MergedFrom first others ∧ ∀ e ∈ first :: others, Kind e

variable {Kind : Entity → Prop}

theorem MergedOf.self {e : Entity} (holds : Kind e) : MergedOf Kind e :=
  ⟨e, [], .self e, fun _ member => List.mem_singleton.1 member ▸ holds⟩

theorem MergedOf.absorb {row other : Entity} (merged : MergedOf Kind row)
    (more : MergedOf Kind other) : MergedOf Kind (row.absorb other) := by
  obtain ⟨first, others, mine, each⟩ := merged
  obtain ⟨next, rest, its, all⟩ := more
  refine ⟨first, others ++ next :: rest, mine.absorb its, fun e member => ?_⟩
  rw [← List.cons_append] at member
  exact (List.mem_append.1 member).elim (each e) (all e)

theorem MergedOf.conformTo {row : Entity} (merged : MergedOf Kind row) (schema : Schema) :
    MergedOf Kind (row.conformTo schema) := by
  obtain ⟨first, others, mine, each⟩ := merged
  exact ⟨first, others, mine.conformTo schema, each⟩

end Entity

namespace Merge

/-- What adding an entity comes to: rows that its key or its identifier finds are completed, or it
becomes a row under a new key with a new identifier. -/
inductive Pushed (entityType : String) (rows : List KeyedRow) (e : Entity) :
    List KeyedRow → Prop where
  | absorbed (found : KeyedRow → Bool)
      (same : ∀ r ∈ rows, found r = true → r.1 = e.dedupKey entityType ∨ r.2.id = e.id) :
      Pushed entityType rows e (absorbInto found e rows)
  | added (newKey : ∀ r ∈ rows, r.1 ≠ e.dedupKey entityType) (newId : ∀ r ∈ rows, r.2.id ≠ e.id) :
      Pushed entityType rows e (rows ++ [(e.dedupKey entityType, e)])

theorem pushed (entityType : String) (rows : List KeyedRow) (e : Entity) :
    Pushed entityType rows e (push entityType rows e) := by
  unfold push
  dsimp only
  split
  · exact .absorbed _ (fun _ _ found => .inl (beq_iff_eq.1 found))
  · rename_i noKey
    split
    · exact .absorbed _ (fun _ _ found => .inr (beq_iff_eq.1 found))
    · rename_i noId
      exact .added (fun r member same => noKey (List.any_eq_true.2 ⟨r, member, beq_iff_eq.2 same⟩))
        (fun r member same => noId (List.any_eq_true.2 ⟨r, member, beq_iff_eq.2 same⟩))

theorem mem_absorbInto {found : KeyedRow → Bool} {e : Entity} {rows : List KeyedRow} {r : KeyedRow}
    (member : r ∈ absorbInto found e rows) :
    ∃ old ∈ rows, (found old = true ∧ r = (old.1, old.2.absorb e)) ∨ r = old := by
  obtain ⟨old, there, rfl⟩ := List.mem_map.1 member
  refine ⟨old, there, ?_⟩
  split
  · rename_i here
    exact .inl ⟨here, rfl⟩
  · exact .inr rfl

end Merge

/-! Each way of merging rows is a chain of completions, so what completion keeps, it keeps. -/

section Closed

variable {Kept : Entity → Prop} (closed : ∀ a b, Kept a → Kept b → Kept (a.absorb b))
include closed

theorem Merge.push_keeps {entityType : String} {rows : List KeyedRow} {e : Entity}
    (old : ∀ r ∈ rows, Kept r.2) (new : Kept e) : ∀ r ∈ push entityType rows e, Kept r.2 := by
  have pushed := pushed entityType rows e
  generalize push entityType rows e = after at pushed ⊢
  intro r member
  cases pushed with
  | absorbed found =>
    obtain ⟨before, there, ⟨_, rfl⟩ | rfl⟩ := mem_absorbInto member
    · exact closed _ _ (old before there) new
    · exact old r there
  | added =>
    rcases List.mem_append.1 member with there | this
    · exact old r there
    · rw [List.mem_singleton.1 this]
      exact new

theorem Merge.rows_keep {entityType : String} {entities : List Entity}
    (each : ∀ e ∈ entities, Kept e) : ∀ row ∈ rows entityType entities, Kept row := by
  have folded : ∀ r ∈ entities.foldl (push entityType) [], Kept r.2 :=
    List.foldlRecOn (motive := fun seen : List KeyedRow => ∀ r ∈ seen, Kept r.2) entities _
      (fun _ none => absurd none List.not_mem_nil)
      (fun _ old e member => push_keeps closed old (each e member))
  intro row member
  obtain ⟨r, there, rfl⟩ := List.mem_map.1 member
  exact folded r there

theorem Table.mergeRow_keeps {row : Entity} {rows : List Entity} (new : Kept row)
    (old : ∀ r ∈ rows, Kept r) : ∀ r ∈ mergeRow row rows, Kept r := by
  induction rows with
  | nil => exact fun r member => List.mem_singleton.1 member ▸ new
  | cons first rest ih =>
    obtain ⟨head, tail⟩ := List.forall_mem_cons.1 old
    rw [mergeRow]
    split
    · exact List.forall_mem_cons.2 ⟨closed _ _ head new, tail⟩
    · exact List.forall_mem_cons.2 ⟨head, ih tail⟩

theorem Table.mergeRows_keep {rows : List Entity} (each : ∀ row ∈ rows, Kept row) :
    ∀ row ∈ mergeRows rows, Kept row :=
  List.foldlRecOn (motive := fun merged : List Entity => ∀ r ∈ merged, Kept r) rows _
    (fun _ none => absurd none List.not_mem_nil)
    (fun _ old row member => mergeRow_keeps closed (each row member) old)

end Closed

/-- The entities of the replies that match a query, in the order of the replies. -/
def Merge.sightings (timeAttributes : List String) (q : EntityQuery) (rs : List Reply) :
    List Entity :=
  (rs.map (Reply.kept timeAttributes q)).flatten

/-- The rows of a fetch are merged rows, each under the columns of one schema. -/
theorem Merge.replies_rows (timeAttributes : List String) (q : EntityQuery) (rs : List Reply) :
    ∃ (schema : Schema) (merged : List Entity),
      merged.Sublist (rows q.entityType (sightings timeAttributes q rs)) ∧
      (replies timeAttributes q rs).table.rows = merged.map (Entity.conformTo schema) := by
  refine ⟨_, _, ?_, rfl⟩
  split
  · exact List.take_sublist _ _
  · exact List.Sublist.refl _

end ThreatHunt
