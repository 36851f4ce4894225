import ThreatHunt.Proofs.Keyed
import ThreatHunt.Storage.Store
import ThreatHunt.Proofs.Table.Merging

/-!
The tables of a store. Handles are given out in rising order, so a new table never takes the place
of an old one, and a table that is refused leaves nothing but a handle used up.
-/

namespace ThreatHunt.Store

/-- Each table has a handle of its own, and no handle that is still to come is in use. -/
structure Fresh (s : Store) : Prop where
  distinct : (s.tables.map StoredTable.handle).Nodup
  used : ∀ t ∈ s.tables, t.handle.number ≤ s.created

theorem fresh_empty : empty.Fresh := ⟨List.nodup_nil, fun _ member => absurd member List.not_mem_nil⟩

theorem Fresh.record {s : Store} (fresh : s.Fresh) (edges : List Edge) :
    (s.recordEdges edges).Fresh := ⟨fresh.distinct, fresh.used⟩

/-- The handle of the next table. -/
def nextHandle (s : Store) : TableHandle := ⟨s.created + 1⟩

theorem createTable_eq (s : Store) (schema : Schema) :
    s.createTable schema = (s.nextHandle,
      { s with
        tables := s.tables ++ [⟨s.nextHandle, schema, [], []⟩]
        created := s.created + 1 }) := rfl

/-- A table as it is stored under a handle. -/
def stored (handle : TableHandle) (t : Table) : StoredTable :=
  ⟨handle, t.schema, Table.conformRows t.schema t.rows, t.ids⟩

theorem stored_rows_length (handle : TableHandle) (t : Table) :
    (stored handle t).rows.length = t.rows.length := by
  simp only [stored, Table.conformRows, List.length_map]

theorem Fresh.handle_ne_next {s : Store} (fresh : s.Fresh) {t : StoredTable} (member : t ∈ s.tables) :
    t.handle ≠ s.nextHandle := by
  intro same
  have below := fresh.used t member
  rw [same] at below
  exact absurd below (Nat.not_succ_le_self s.created)

/-- A table that stands under the next handle joins the others. -/
theorem Fresh.issue {s : Store} (fresh : s.Fresh) {t : StoredTable}
    (handle : t.handle = s.nextHandle) :
    Fresh { s with tables := s.tables ++ [t], created := s.created + 1 } where
  distinct := by
    rw [List.map_append, List.nodup_append]
    refine ⟨fresh.distinct, List.nodup_singleton _, ?_⟩
    intro number old other new
    obtain ⟨u, member, rfl⟩ := List.mem_map.1 old
    rw [List.mem_singleton.1 new, handle]
    exact fresh.handle_ne_next member
  used := by
    intro u member
    rcases List.mem_append.1 member with old | new
    · exact Nat.le_succ_of_le (fresh.used u old)
    · rw [List.mem_singleton.1 new, handle]
      exact Nat.le_refl _

theorem find?_of_mem {s : Store} (distinct : (s.tables.map StoredTable.handle).Nodup)
    {t : StoredTable} (member : t ∈ s.tables) : s.find? t.handle = some t :=
  Keyed.find?_eq_some distinct member (fun _ _ => beq_iff_eq)

theorem append_createTable {s : Store} (fresh : s.Fresh) (schema : Schema) (rows : List Entity) :
    (s.createTable schema).2.append s.nextHandle rows =
      match batchTrouble? ⟨s.nextHandle, schema, [], []⟩ [] rows with
      | some trouble => .error trouble
      | none => .ok
        { s with
          tables := s.tables ++
            [⟨s.nextHandle, schema, Table.conformRows schema rows, rows.map Entity.id⟩]
          created := s.created + 1 } := by
  have apart : ∀ t ∈ s.tables, t.handle ≠ s.nextHandle := fun _ => fresh.handle_ne_next
  have found : (s.createTable schema).2.get s.nextHandle = .ok ⟨s.nextHandle, schema, [], []⟩ := by
    simp only [get, find?, createTable_eq, List.find?_append]
    rw [List.find?_eq_none.2 (by simpa using apart)]
    simp
  have old : s.tables.map (fun u => if u.handle = s.nextHandle then
      ⟨s.nextHandle, schema, Table.conformRows schema rows, rows.map Entity.id⟩ else u) =
      s.tables := by
    rw [List.map_congr_left (fun t member => if_neg (apart t member)), List.map_id']
  simp only [append, found, bind, Except.bind, extend, List.nil_append]
  cases batchTrouble? ⟨s.nextHandle, schema, [], []⟩ [] rows with
  | some trouble => rfl
  | none =>
    simp [createTable_eq, old, pure, Except.pure]

/-- A table is stored behind the others, or its first trouble leaves the others as they are. -/
theorem createWithRows_eq {s : Store} (fresh : s.Fresh) (t : Table) :
    s.createWithRows t =
      match batchTrouble? ⟨s.nextHandle, t.schema, [], []⟩ [] t.rows with
      | some trouble => (.error trouble, { s with created := s.created + 1 })
      | none => (.ok s.nextHandle,
        { s with tables := s.tables ++ [stored s.nextHandle t], created := s.created + 1 }) := by
  have filled := append_createTable fresh t.schema t.rows
  have gone : s.tables.filter (fun u => u.handle != s.nextHandle) = s.tables :=
    List.filter_eq_self.2 (fun u member => by simpa using fresh.handle_ne_next member)
  rw [createTable_eq] at filled
  simp only [createWithRows, createTable_eq, filled]
  cases batchTrouble? ⟨s.nextHandle, t.schema, [], []⟩ [] t.rows with
  | some trouble =>
    simp only [dropTable, List.filter_append, gone]
    simp
  | none => rfl

/-- What creating tables leaves: the old tables, and behind them the new ones under handles that
were not used before. -/
structure Added (before after : Store) (made : List StoredTable) : Prop where
  tables : after.tables = before.tables ++ made
  edges : after.edges = before.edges
  new : ∀ t ∈ made, before.created < t.handle.number
  later : before.created ≤ after.created
  fresh : after.Fresh

theorem Added.nothing {s : Store} (fresh : s.Fresh) (created : Nat) (later : s.created ≤ created) :
    Added s { s with created := created } [] where
  tables := (List.append_nil _).symm
  edges := rfl
  new := fun _ member => absurd member List.not_mem_nil
  later := later
  fresh := ⟨fresh.distinct, fun t member => Nat.le_trans (fresh.used t member) later⟩

theorem Added.one {s : Store} (fresh : s.Fresh) (t : Table) :
    Added s { s with tables := s.tables ++ [stored s.nextHandle t], created := s.created + 1 }
      [stored s.nextHandle t] where
  tables := rfl
  edges := rfl
  new := fun u member => by simp [List.mem_singleton.1 member, stored, nextHandle]
  later := Nat.le_succ _
  fresh := fresh.issue rfl

theorem Added.trans {s t u : Store} {made more : List StoredTable} (first : Added s t made)
    (second : Added t u more) : Added s u (made ++ more) where
  tables := by rw [second.tables, first.tables, List.append_assoc]
  edges := second.edges.trans first.edges
  new := fun t member => by
    rcases List.mem_append.1 member with old | new
    · exact first.new t old
    · exact Nat.lt_of_le_of_lt first.later (second.new t new)
  later := Nat.le_trans first.later second.later
  fresh := second.fresh

/-- Without the tables that were added a store has its old tables. -/
theorem Added.undo {s t : Store} {made : List StoredTable} (added : Added s t made)
    (fresh : s.Fresh) :
    t.tables.filter (fun u => !(made.map StoredTable.handle).contains u.handle) = s.tables := by
  rw [added.tables, List.filter_append]
  have kept : s.tables.filter (fun u => !(made.map StoredTable.handle).contains u.handle) =
      s.tables := by
    refine List.filter_eq_self.2 (fun u member => ?_)
    have apart : ∀ v ∈ made, v.handle ≠ u.handle := by
      intro v new same
      have above := added.new v new
      rw [same] at above
      exact absurd (fresh.used u member) (Nat.not_le.2 above)
    simpa using apart
  have dropped : made.filter (fun u => !(made.map StoredTable.handle).contains u.handle) = [] := by
    refine List.filter_eq_nil_iff.2 (fun u member => ?_)
    simpa using ⟨u, member, rfl⟩
  rw [kept, dropped, List.append_nil]

end ThreatHunt.Store

/-!
The rows that a store takes. All of them must have an identifier of their own and no attributes that
the schema does not know; what is stored is as it should be for the same reasons, and has a value
under every column.
-/

namespace ThreatHunt

namespace Entity

/-- Whether a row has a value under every column of a schema. -/
def Fills (schema : Schema) (row : Entity) : Prop :=
  ∀ name ∈ schema.names, row.attributes.contains name = true

theorem fills_conformTo (schema : Schema) (row : Entity) : (row.conformTo schema).Fills schema :=
  fun name member => (contains_conformTo schema row name).2 (.inr member)

/-- A row that lacks nothing is given nothing. -/
theorem conformTo_of_fills {schema : Schema} {row : Entity} (fills : row.Fills schema) :
    row.conformTo schema = row := by
  have kept : ∀ columns : List Column,
      (∀ c ∈ columns, row.attributes.contains c.name = true) →
      columns.foldl (fun (row : Dict Value) c =>
        if row.contains c.name then row else row.insert c.name .null) row.attributes =
        row.attributes := by
    intro columns each
    induction columns with
    | nil => rfl
    | cons c rest ih =>
      rw [List.foldl_cons, if_pos (each c (List.mem_cons_self ..))]
      exact ih (fun d later => each d (List.mem_cons_of_mem _ later))
  have same : schema.conform row.attributes = row.attributes :=
    kept schema.columns (fun c member => fills c.name (List.mem_map_of_mem member))
  rw [conformTo, same]

end Entity

theorem Table.conformRows_of_fills {schema : Schema} {rows : List Entity}
    (fill : ∀ row ∈ rows, row.Fills schema) : conformRows schema rows = rows := by
  calc conformRows schema rows
    _ = rows.map id :=
      List.map_congr_left (fun row member => Entity.conformTo_of_fills (fill row member))
    _ = rows := List.map_id rows

theorem Schema.has_iff {schema : Schema} {name : String} :
    schema.has name = true ↔ name = "id" ∨ name ∈ schema.names := by
  simp [Schema.has]

namespace Store

/-- Rows that an empty table of a schema takes. -/
structure Accepts (schema : Schema) (rows : List Entity) : Prop where
  named : ∀ row ∈ rows, row.id ≠ ""
  distinct : (rows.map Entity.id).Nodup
  known : ∀ row ∈ rows, ∀ name, row.attributes.contains name = true → schema.has name = true

variable {t : StoredTable} {taken : List String} {row : Entity} {rows : List Entity}
  {schema : Schema}

theorem rowTrouble?_eq_none :
    rowTrouble? t taken row = none ↔ row.id ≠ "" ∧ row.id ∉ taken ∧
      ∀ name, row.attributes.contains name = true → t.schema.has name = true := by
  have names : (row.attributes.names.find? (fun n => !t.schema.has n)).map
      (fun n => Trouble.foreignAttribute n t.handle) = none ↔
      ∀ name, row.attributes.contains name = true → t.schema.has name = true := by
    simp [List.find?_eq_none, Dict.contains_iff_mem_names]
  rw [← names]
  unfold rowTrouble?
  by_cases missing : row.id = ""
  · simp [missing]
  · by_cases used : row.id ∈ taken
    · simp [missing, used]
    · simp [missing, used]

theorem batchTrouble?_eq_none :
    batchTrouble? t taken rows = none ↔
      (∀ row ∈ rows, row.id ≠ "" ∧ row.id ∉ taken ∧
        ∀ name, row.attributes.contains name = true → t.schema.has name = true) ∧
      (rows.map Entity.id).Nodup := by
  induction rows generalizing taken with
  | nil => simp [batchTrouble?]
  | cons row rest ih =>
    have step : batchTrouble? t taken (row :: rest) = none ↔
        rowTrouble? t taken row = none ∧ batchTrouble? t (row.id :: taken) rest = none := by
      rw [batchTrouble?]
      cases rowTrouble? t taken row <;> simp
    rw [step, rowTrouble?_eq_none, ih, List.map_cons, List.nodup_cons]
    constructor
    · rintro ⟨first, others, distinct⟩
      refine ⟨List.forall_mem_cons.2 ⟨first, fun r member => ?_⟩, fun repeated => ?_, distinct⟩
      · obtain ⟨named, free, known⟩ := others r member
        exact ⟨named, fun used => free (List.mem_cons_of_mem _ used), known⟩
      · obtain ⟨r, member, same⟩ := List.mem_map.1 repeated
        exact (others r member).2.1 (List.mem_cons.2 (.inl same))
    · rintro ⟨all, fresh, distinct⟩
      obtain ⟨first, others⟩ := List.forall_mem_cons.1 all
      refine ⟨first, fun r member => ?_, distinct⟩
      obtain ⟨named, free, known⟩ := others r member
      refine ⟨named, fun used => ?_, known⟩
      rcases List.mem_cons.1 used with same | old
      · exact fresh (List.mem_map.2 ⟨r, member, same⟩)
      · exact free old

/-- Rows that an empty table has no trouble with are those that it takes. -/
theorem accepts_iff {handle : TableHandle} :
    batchTrouble? ⟨handle, schema, [], []⟩ [] rows = none ↔ Accepts schema rows := by
  rw [batchTrouble?_eq_none]
  constructor
  · rintro ⟨all, distinct⟩
    exact ⟨fun row member => (all row member).1, distinct, fun row member => (all row member).2.2⟩
  · rintro ⟨named, distinct, known⟩
    exact ⟨fun row member => ⟨named row member, List.not_mem_nil, known row member⟩, distinct⟩

/-- Rows with identifiers and known attributes are refused for a repeated identifier only. -/
theorem repeatedId_of_trouble {trouble : Trouble} (named : ∀ row ∈ rows, row.id ≠ "")
    (known : ∀ row ∈ rows, ∀ name, row.attributes.contains name = true → t.schema.has name = true)
    (refused : batchTrouble? t taken rows = some trouble) :
    ∃ id, trouble = .repeatedId id t.handle := by
  induction rows generalizing taken with
  | nil => nomatch refused
  | cons row rest ih =>
    obtain ⟨name, others⟩ := List.forall_mem_cons.1 named
    obtain ⟨here, later⟩ := List.forall_mem_cons.1 known
    rw [batchTrouble?] at refused
    by_cases used : row.id ∈ taken
    · have first : rowTrouble? t taken row = some (.repeatedId row.id t.handle) := by
        simp [rowTrouble?, name, used]
      rw [first] at refused
      exact ⟨row.id, (Option.some.inj refused).symm⟩
    · rw [rowTrouble?_eq_none.2 ⟨name, used, here⟩] at refused
      exact ih others later refused

/-- Rows with identifiers of their own and known attributes are refused for a missing one only. -/
theorem missingId_of_trouble {trouble : Trouble} (distinct : (rows.map Entity.id).Nodup)
    (free : ∀ row ∈ rows, row.id ∉ taken)
    (known : ∀ row ∈ rows, ∀ name, row.attributes.contains name = true → t.schema.has name = true)
    (refused : batchTrouble? t taken rows = some trouble) : trouble = .missingId t.handle := by
  induction rows generalizing taken with
  | nil => nomatch refused
  | cons row rest ih =>
    obtain ⟨apart, others⟩ := List.nodup_cons.1 distinct
    obtain ⟨own, freeToo⟩ := List.forall_mem_cons.1 free
    obtain ⟨here, later⟩ := List.forall_mem_cons.1 known
    rw [batchTrouble?] at refused
    by_cases missing : row.id = ""
    · have first : rowTrouble? t taken row = some (.missingId t.handle) := by
        simp [rowTrouble?, missing]
      rw [first] at refused
      exact (Option.some.inj refused).symm
    · rw [rowTrouble?_eq_none.2 ⟨missing, own, here⟩] at refused
      refine ih others (fun r member used => ?_) later refused
      rcases List.mem_cons.1 used with same | old
      · exact apart (same ▸ List.mem_map_of_mem member)
      · exact freeToo r member old

/-- Nulls under the columns of the schema do no harm. -/
theorem Accepts.conformRows (accepts : Accepts schema rows) :
    Accepts schema (Table.conformRows schema rows) where
  named := fun row member => by
    obtain ⟨before, there, rfl⟩ := List.mem_map.1 member
    exact accepts.named before there
  distinct := by
    rw [Table.conformRows, List.map_map]
    exact accepts.distinct
  known := fun row member name shown => by
    obtain ⟨before, there, rfl⟩ := List.mem_map.1 member
    rcases (Entity.contains_conformTo schema before name).1 shown with own | column
    · exact accepts.known before there name own
    · exact Schema.has_iff.2 (.inr column)

/-- A store whose tables hold only rows that they take. -/
def Tidy (s : Store) : Prop := ∀ t ∈ s.tables, Accepts t.schema t.rows

theorem Tidy.createWithRows {s : Store} (fresh : s.Fresh) (tidy : s.Tidy) (t : Table) :
    (s.createWithRows t).2.Tidy := by
  rw [createWithRows_eq fresh]
  cases trouble : batchTrouble? ⟨s.nextHandle, t.schema, [], []⟩ [] t.rows with
  | some trouble => exact tidy
  | none =>
    intro u member
    rcases List.mem_append.1 member with old | new
    · exact tidy u old
    · rw [List.mem_singleton.1 new]
      exact (accepts_iff.1 trouble).conformRows

end Store
end ThreatHunt
