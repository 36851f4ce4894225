import ThreatHunt.Proofs.Storage.Documents
import ThreatHunt.Proofs.Table.Bounds

/-!
Tables that come back from frames as they were written. Each declared kind has cells of its own, and
what no cell can hold goes through a text that is taken for a value again; the kinds of the columns
are those that the values show.
-/

namespace ThreatHunt

open Schema (mem_names_infer names_project)

/-- Whether a text is the text of a JSON list. -/
def IsListText (s : String) : Prop :=
  s.toList.head? = some '[' ∧ ∃ items, Json.read s = .ok (.arr items)

/-- Texts that columns give back as texts. -/
structure PlainText (s : String) : Prop where
  instant : ∀ t, Instant.readStrict s ≠ .ok t
  list : ¬IsListText s

/-- The kind of an inferred column is the least above those of the values under its name. -/
theorem Schema.isLUB_infer {entityType : String} {rows : List (Dict Value)} {c : Column}
    (column : c ∈ (infer entityType rows).columns) :
    IsLUB {kind | ∃ row ∈ rows, ∃ v, row.find? c.name = some v ∧ v.kind = kind} c.kind := by
  rw [columns_infer_shown] at column
  obtain ⟨above, least⟩ := (unifies_columns _).kinds c column
  refine ⟨?_, fun bound below => least ?_⟩
  · rintro _ ⟨row, member, v, found, rfl⟩
    exact above ⟨_, List.mem_singleton_self _, List.mem_flatMap.2
      ⟨row, member, List.mem_map.2 ⟨(c.name, v), Dict.mem_of_find? found, rfl⟩⟩⟩
  · rintro kind ⟨s, only, declared⟩
    obtain rfl := List.mem_singleton.1 only
    obtain ⟨row, member, listed⟩ := List.mem_flatMap.1 declared
    obtain ⟨e, entry, shown⟩ := List.mem_map.1 listed
    obtain ⟨name, rfl⟩ := Column.mk.inj shown
    exact below ⟨row, member, e.2, name ▸ Dict.find?_of_mem entry, rfl⟩

namespace Value

/-- A list that comes back from its JSON text. -/
def Survives (items : List Value) : Prop :=
  ∃ j, Json.read (Value.list items).toJson.compact = .ok j ∧ ofJson j = .list items

/-- Values that a column of a kind gives back. -/
inductive Columnar : Kind → Value → Prop where
  | null (kind : Kind) : Columnar kind .null
  | int (i : Int) : Columnar .int (.int i)
  | float {x : Binary64} (finite : x.isFinite = true) : Columnar .float (.float x)
  | bool (b : Bool) : Columnar .bool (.bool b)
  | str {s : String} (plain : PlainText s) : Columnar .str (.str s)
  | time {t : Instant} (fits : t.Millisecond) : Columnar .time (.time t)
  | list {items : List Value} (survives : Survives items) : Columnar .list (.list items)

/-- A column of a kind gives back nulls and values of the kind. -/
theorem Columnar.isNull_or_kind {kind : Kind} {v : Value} (columnar : Columnar kind v) :
    v = .null ∨ v.kind = kind := by
  cases columnar with
  | null => exact .inl rfl
  | _ => exact .inr rfl

/-- Storable lists survive where their texts can be read. -/
theorem survives_of_storable {items : List Value} (storable : (Value.list items).Storable)
    (legible : (Value.list items).toJson.Legible Json.depthLimit) : Survives items :=
  ⟨_, (Json.read_compact legible).trans (congrArg Except.ok (ordered_toJson storable)),
    ofJson_toJson storable⟩

theorem head?_compact_arr (items : List Json) :
    (Json.arr items).compact.toList.head? = some '[' := by
  rw [Json.compact, Json.write]
  cases Json.writeItems Json.compactLayout 1 items with
  | nil => rfl
  | cons part rest => simp [Json.Layout.enclose]

end Value

namespace Tabular

open Value (Columnar Survives)

/-- What is no list is taken as a JSON string. -/
theorem textValue_of_not_list {s : String} (plain : ¬IsListText s) :
    textValue s = Value.ofJson (.str s) := by
  unfold textValue
  by_cases bracket : s.toList.head? = some '['
  · rw [if_pos (beq_iff_eq.2 bracket)]
    cases read : Json.read s with
    | error fault => rfl
    | ok j =>
      cases j with
      | arr items => exact absurd ⟨bracket, items, read⟩ plain
      | _ => rfl
  · rw [if_neg (fun same => bracket (beq_iff_eq.1 same))]

theorem textValue_plain {s : String} (plain : PlainText s) : textValue s = .str s := by
  rw [textValue_of_not_list plain.list, Value.ofJson, Value.instantOf?_eq_none plain.instant]

/-- The text of an instant starts with a digit, so it is no list. -/
theorem textValue_time {t : Instant} (fits : t.Millisecond) :
    textValue (t.text .millis) = .time t := by
  have plain : ¬IsListText (t.text .millis) := by
    rintro ⟨bracket, -⟩
    obtain ⟨ys, ms, ds, hs, ns, ss, fs, written, years, -⟩ := fits.exists_written
    have digit : ∃ y rest, ys = y :: rest := List.exists_cons_of_ne_nil (fun none => by
      have four := years.length
      rw [none] at four
      cases four)
    obtain ⟨y, rest, rfl⟩ := digit
    rw [written] at bracket
    obtain rfl : y = '[' := by simpa using bracket
    exact absurd (years.digits '[' (List.mem_cons_self ..)) (by decide)
  rw [textValue_of_not_list plain, Value.ofJson, Value.instantOf?_text fits]

theorem textValue_list {items : List Value} (survives : Survives items) :
    textValue (Value.list items).toJson.compact = .list items := by
  obtain ⟨j, read, value⟩ := survives
  have bracket : (Value.list items).toJson.compact.toList.head? = some '[' :=
    Value.head?_compact_arr _
  unfold textValue
  rw [if_pos (beq_iff_eq.2 bracket), read]
  cases j with
  | arr js => exact value
  | str s =>
    rw [Value.ofJson] at value
    cases instant : Value.instantOf? s <;> rw [instant] at value <;> cases value
  | int i =>
    rw [Value.ofJson] at value
    split at value <;> cases value
  | _ => cases value

/-- A cell keeps what a column of its kind holds. -/
theorem cellValue_cell {kind : Kind} {v : Value} (columnar : Columnar kind v) :
    cellValue (cell (cellKind kind) v) = v := by
  cases columnar with
  | null => cases kind <;> rfl
  | int | float | bool => rfl
  | str plain => exact textValue_plain plain
  | time fits => exact textValue_time fits
  | list survives => exact textValue_list survives

/-! Frames. -/

variable {t : Table} {row : Entity}

/-- The columns of a table: the identifiers, the type and the attributes. -/
def frame (t : Table) : Frame :=
  ⟨⟨idColumn, .str, t.rows.map (fun row => .str row.id)⟩ ::
    ⟨typeColumn, .str, t.rows.map (fun _ => .str t.entityType)⟩ ::
      t.schema.columns.map (column t.rows)⟩

/-- The cells of a row. -/
def cells (t : Table) (row : Entity) : List (String × Value) :=
  (idColumn, .str row.id) :: (typeColumn, .str t.entityType) ::
    t.schema.columns.map (fun c => (c.name, cell (cellKind c.kind) (row.get c.name)))

theorem repeatedName?_of_nodup {names : List String} (distinct : names.Nodup) :
    repeatedName? names = none := by
  rw [repeatedName?, Option.map_eq_none_iff, List.find?_eq_none]
  rintro ⟨name, i⟩ place earlier
  obtain ⟨short, found⟩ := List.getElem?_eq_some_iff.1 (List.mem_zipIdx_iff_getElem?.1 place)
  have later : name ∈ names.drop i := by
    rw [List.drop_eq_getElem_cons short]
    exact List.mem_cons.2 (.inl found.symm)
  exact List.disjoint_take_drop distinct (Nat.le_refl i) (List.contains_iff_mem.1 earlier) later

/-- Attributes have names of their own, apart from those of the columns for identifiers and
types. -/
def Apart (t : Table) : Prop := (idColumn :: typeColumn :: t.schema.names).Nodup

theorem Apart.distinct (apart : Apart t) : t.schema.names.Nodup :=
  (List.nodup_cons.1 (List.nodup_cons.1 apart).2).2

theorem Apart.not_mem_own {name : String} (apart : Apart t) (listed : name ∈ t.schema.names) :
    name ∉ [idColumn, typeColumn] := by
  intro own
  obtain ⟨id, rest⟩ := List.nodup_cons.1 apart
  obtain ⟨type, -⟩ := List.nodup_cons.1 rest
  rcases List.mem_cons.1 own with rfl | last
  · exact id (List.mem_cons_of_mem _ listed)
  · exact type (List.mem_singleton.1 last ▸ listed)

theorem names_frame (t : Table) : (frame t).names = idColumn :: typeColumn :: t.schema.names := by
  rw [frame, Frame.names, List.map_cons, List.map_cons, List.map_map]
  rfl

theorem ofTable_eq (apart : Apart t) : ofTable t = .ok (frame t) := by
  have once : repeatedName? (frame t).names = none := by
    rw [names_frame]
    exact repeatedName?_of_nodup apart
  simp only [Frame.names, frame] at once
  simp only [ofTable, List.cons_append, List.nil_append, once, frame]

theorem height_frame (t : Table) : (frame t).height = t.rows.length := by
  simp [Frame.height, frame]

theorem row_frame {i : Nat} (inside : i < t.rows.length) :
    (frame t).row i = cells t (t.rows[i]) := by
  have cell : ∀ value : Entity → Value,
      (t.rows.map value).getD i .null = value (t.rows[i]) := by
    intro value
    simp [inside]
  rw [Frame.row, frame, cells, List.map_cons, List.map_cons, List.map_map]
  simp only [cell, column, Function.comp_def]

/-- A row with the attributes of a schema is told by their values. -/
theorem ofList_get {schema : Schema} (distinct : schema.names.Nodup)
    (exact : ∀ name, row.attributes.contains name = true ↔ name ∈ schema.names) :
    Dict.ofList (schema.columns.map (fun c => (c.name, row.get c.name))) = row.attributes := by
  refine Dict.ext_find? (fun name => ?_)
  have names : ((schema.columns.map (fun c => (c.name, row.get c.name))).map Prod.fst).Nodup := by
    rw [List.map_map]
    exact distinct
  cases found : row.attributes.find? name with
  | some v =>
    obtain ⟨c, column, rfl⟩ := List.mem_map.1 ((exact name).1 (by simp [Dict.contains, found]))
    have value : row.get c.name = v := by rw [Entity.get, found, Option.getD_some]
    exact Dict.find?_ofList_of_mem names (List.mem_map.2 ⟨c, column, by rw [value]⟩)
  | none =>
    refine Option.not_isSome_iff_eq_none.1 (fun there => ?_)
    obtain ⟨e, listed, rfl⟩ := Dict.contains_ofList.1 there
    obtain ⟨c, column, rfl⟩ := List.mem_map.1 listed
    have present := (exact c.name).2 (List.mem_map_of_mem column)
    simp [Dict.contains, found] at present

theorem attributes_cells (apart : Apart t) (columnar : ∀ c ∈ t.schema.columns,
    Columnar c.kind (row.get c.name)) :
    ((cells t row).filter (fun c => !([idColumn, typeColumn].contains c.1))).map
      (fun c => (c.1, cellValue c.2)) =
        t.schema.columns.map (fun c => (c.name, row.get c.name)) := by
  let own := t.schema.columns.map (fun c => (c.name, cell (cellKind c.kind) (row.get c.name)))
  have kept : own.filter (fun c => !([idColumn, typeColumn].contains c.1)) = own := by
    rw [List.filter_eq_self]
    intro e listed
    obtain ⟨c, column, rfl⟩ := List.mem_map.1 listed
    simpa using apart.not_mem_own (List.mem_map_of_mem column)
  rw [cells, List.filter_cons_of_neg (by simp), List.filter_cons_of_neg (by simp), kept,
    List.map_map]
  exact List.map_congr_left (fun c column => by
    rw [Function.comp_apply, cellValue_cell (columnar c column)])

/-- A row is taken back from its cells. -/
theorem entity_cells (apart : Apart t) (plain : PlainText row.id)
    (exact : ∀ name, row.attributes.contains name = true ↔ name ∈ t.schema.names)
    (columnar : ∀ c ∈ t.schema.columns, Columnar c.kind (row.get c.name)) :
    entity t.entityType [idColumn, typeColumn] (cells t row) = row := by
  have id : (((cells t row).find? (fun c => c.1 == idColumn)).map
      (fun c => cellValue c.2)).bind Value.str? = some row.id := by
    have first : (cells t row).find? (fun c => c.1 == idColumn) = some (idColumn, .str row.id) :=
      List.find?_cons_of_pos (by simp)
    have itself : cellValue (.str row.id) = .str row.id := textValue_plain plain
    rw [first, Option.map_some, itself]
    rfl
  unfold entity
  simp only [id, attributes_cells apart columnar, ofList_get apart.distinct exact]

/-- What a table must be for its frame to give it back. -/
structure Framed (t : Table) : Prop where
  stored : t.Stored
  exact : t.Exact
  apart : Apart t
  plain : ∀ row ∈ t.rows, PlainText row.id
  columnar : ∀ c ∈ t.schema.columns, ∀ row ∈ t.rows, Columnar c.kind (row.get c.name)

theorem rows_frame (framed : Framed t) :
    (List.range (frame t).height).map
      (fun i => entity t.entityType [idColumn, typeColumn] ((frame t).row i)) = t.rows := by
  refine List.ext_getElem (by simp [height_frame]) (fun i _ inside => ?_)
  have member := List.getElem_mem inside
  rw [List.getElem_map, List.getElem_range, row_frame inside]
  exact entity_cells framed.apart (framed.plain _ member) (framed.exact _ member)
    (fun c column => framed.columnar c column _ member)

theorem frameType_frame (nonempty : t.rows ≠ []) : frameType (frame t) = some t.entityType := by
  obtain ⟨first, rest, rows⟩ := List.exists_cons_of_ne_nil nonempty
  have typed : (frame t).column? typeColumn =
      some ⟨typeColumn, .str, t.rows.map (fun _ => .str t.entityType)⟩ := by
    rw [frame, Frame.column?, List.find?_cons_of_neg (by simp [idColumn, typeColumn]),
      List.find?_cons_of_pos (by simp)]
  rw [frameType, typed, rows]
  rfl

/-- What the rows show of the columns of a schema that they have exactly. -/
theorem names_infer_perm (exact : t.Exact) (distinct : t.schema.names.Nodup)
    (nonempty : t.rows ≠ []) :
    (Schema.infer t.entityType (t.rows.map Entity.attributes)).names.Perm t.schema.names := by
  obtain ⟨first, member⟩ := List.exists_mem_of_ne_nil t.rows nonempty
  refine (List.perm_ext_iff_of_nodup (Schema.unrepeated_infer _ _) distinct).2 (fun name => ?_)
  rw [mem_names_infer]
  constructor
  · rintro ⟨attributes, among, own⟩
    obtain ⟨row, inside, rfl⟩ := List.mem_map.1 among
    exact (exact row inside name).1 own
  · intro listed
    exact ⟨first.attributes, List.mem_map_of_mem member, (exact first member name).2 listed⟩

theorem names_projected (exact : t.Exact) (distinct : t.schema.names.Nodup)
    (nonempty : t.rows ≠ []) :
    ((Schema.infer t.entityType (t.rows.map Entity.attributes)).project t.schema.names).names =
      t.schema.names := by
  have perm := names_infer_perm exact distinct nonempty
  rw [names_project, List.filter_eq_self]
  exact fun name listed => List.contains_iff_mem.2 (perm.mem_iff.2 listed)

/-- A frame gives back the type and the rows, and the columns as they were ordered, with the kinds
that the rows show. -/
theorem toTable_frame (framed : Framed t) (nonempty : t.rows ≠ []) :
    toTable none (frame t) = ⟨t.entityType,
      (Schema.infer t.entityType (t.rows.map Entity.attributes)).project t.schema.names,
      t.rows⟩ := by
  have merged : Table.mergeRows t.rows = t.rows :=
    Table.mergeRows_of_distinct framed.stored.distinct
  have kept : (frame t).names.filter (fun n => !([idColumn, typeColumn].contains n)) =
      t.schema.names := by
    rw [names_frame, List.filter_cons_of_neg (by simp), List.filter_cons_of_neg (by simp),
      List.filter_eq_self]
    intro name listed
    simpa using framed.apart.not_mem_own listed
  have long : ((Schema.infer t.entityType (t.rows.map Entity.attributes)).project
      t.schema.names).columns.length =
      (Schema.infer t.entityType (t.rows.map Entity.attributes)).columns.length := by
    have lengths := (congrArg List.length
      (names_projected framed.exact framed.apart.distinct nonempty)).trans
        (names_infer_perm framed.exact framed.apart.distinct nonempty).length_eq.symm
    simpa only [Schema.names, List.length_map] using lengths
  simp only [toTable, Option.orElse, frameType_frame nonempty, Option.isNone_some,
    Bool.false_eq_true, if_false, Option.isSome_none, Option.getD_some, List.append_nil,
    rows_frame framed, merged, kept, Table.ofRows, long, if_true]

/-- A column with a value of its kind, and otherwise nulls, is inferred as it was declared. -/
theorem column_infer {c : Column} (column : c ∈ t.schema.columns) (exact : t.Exact)
    (columnar : ∀ row ∈ t.rows, Columnar c.kind (row.get c.name))
    (shown : ∃ row ∈ t.rows, row.get c.name ≠ .null) :
    c ∈ (Schema.infer t.entityType (t.rows.map Entity.attributes)).columns := by
  obtain ⟨row, member, value⟩ := shown
  have own : row.attributes.contains c.name = true :=
    (exact row member c.name).2 (List.mem_map_of_mem column)
  have got : ∀ {row : Entity} {v : Value}, row.attributes.find? c.name = some v →
      row.get c.name = v := fun found => by rw [Entity.get, found, Option.getD_some]
  obtain ⟨v, found⟩ := Option.isSome_iff_exists.1 own
  have kind : v.kind = c.kind := by
    have fits := (columnar row member).isNull_or_kind.resolve_left value
    rwa [got found] at fits
  obtain ⟨d, inferred, name⟩ := List.mem_map.1
    (mem_names_infer.2 ⟨row.attributes, List.mem_map_of_mem member, own⟩)
  have least := Schema.isLUB_infer inferred
  rw [name] at least
  have below : d.kind ≤ c.kind := by
    refine least.2 ?_
    rintro _ ⟨attributes, among, w, there, rfl⟩
    obtain ⟨other, inside, rfl⟩ := List.mem_map.1 among
    have fits := (columnar other inside).isNull_or_kind
    rw [got there] at fits
    rcases fits with rfl | same
    · exact bot_le
    · exact same.le
  have above : c.kind ≤ d.kind :=
    least.1 ⟨row.attributes, List.mem_map_of_mem member, v, found, kind⟩
  have same : d = c := by
    cases c
    cases d
    exact congrArg₂ Column.mk name (le_antisymm below above)
  exact same ▸ inferred

/-- A column of distinct names is kept by a projection to its name. -/
theorem mem_project {s : Schema} (distinct : s.Unrepeated) {names : List String} {c : Column}
    (column : c ∈ s.columns) (listed : c.name ∈ names) : c ∈ (s.project names).columns :=
  List.mem_filterMap.2 ⟨c.name, listed, Keyed.find?_eq_some distinct column (fun _ _ => beq_iff_eq)⟩

/-- Tables come back from their frames. A table as a store gives it, whose rows have the attributes
of its schema and values of the declared kinds, is written into columns and read with its type, its
rows in their order, identifiers and attributes, and its columns in their order; a column that holds
more than nulls keeps its kind. -/
theorem frame_restores {calls : List Store.Call} {handle : TableHandle} {t : Table}
    (stored : (Store.History.after calls).store.table handle = .ok t) (nonempty : t.rows ≠ [])
    (distinct : t.schema.names.Nodup)
    (apart : idColumn ∉ t.schema.names ∧ typeColumn ∉ t.schema.names) (exact : t.Exact)
    (plain : ∀ row ∈ t.rows, PlainText row.id)
    (columnar : ∀ c ∈ t.schema.columns, ∀ row ∈ t.rows, Columnar c.kind (row.get c.name)) :
    ∃ f, ofTable t = .ok f ∧
      (toTable none f).entityType = t.entityType ∧ (toTable none f).rows = t.rows ∧
      (toTable none f).schema.names = t.schema.names ∧
      ∀ c ∈ t.schema.columns, (∃ row ∈ t.rows, row.get c.name ≠ .null) →
        c ∈ (toTable none f).schema.columns := by
  have all : Apart t := by
    refine List.nodup_cons.2 ⟨?_, List.nodup_cons.2 ⟨apart.2, distinct⟩⟩
    exact List.not_mem_cons_of_ne_of_not_mem (by decide) apart.1
  have framed : Framed t := ⟨Table.stored_of_history stored, exact, all, plain, columnar⟩
  refine ⟨frame t, ofTable_eq all, ?_⟩
  rw [toTable_frame framed nonempty]
  refine ⟨rfl, rfl, names_projected exact distinct nonempty, fun c column shown => ?_⟩
  exact mem_project (Schema.unrepeated_infer _ _)
    (column_infer column exact (columnar c column) shown) (List.mem_map_of_mem column)

open TableFile (processes exact_processes storable_processes legible_processes)

theorem columnar_processes : ∀ c ∈ processes.schema.columns, ∀ row ∈ processes.rows,
    Columnar c.kind (row.get c.name) := by
  have plain : PlainText "cmd" := ⟨nofun, fun listed => absurd listed.1 (by decide)⟩
  have seen : Instant.Millisecond ⟨1700000000, 5000000⟩ := ⟨by decide, by decide, by decide⟩
  have tags : Survives [.str "a", .list [.int (-1), .null]] := by
    have member : processes.rows.head nofun ∈ processes.rows := List.head_mem _
    have entry : ("tags", Value.list [.str "a", .list [.int (-1), .null]]) ∈
        (processes.rows.head nofun).attributes.entries := by
      rw [TableFile.entries_processes member]
      simp
    exact Value.survives_of_storable (storable_processes _ member _ entry)
      ((legible_processes _ member _ entry).mono (by decide))
  intro c column row member
  obtain rfl := List.mem_singleton.1 member
  revert c
  simp only [processes, List.forall_mem_cons]
  exact ⟨.int 7, .str plain, .bool true, .null .null, .float rfl, .time seen, .list tags, nofun⟩

/-- A row of all kinds of values in their columns. -/
theorem frame_restores_kinds :
    let past := Store.History.after [.createWithRows processes]
    past.store.table ⟨1⟩ = .ok processes ∧ ∃ f, ofTable processes = .ok f ∧
      (toTable none f).entityType = "process" ∧ (toTable none f).rows = processes.rows ∧
      (toTable none f).schema.names = ["pid", "name", "live", "note", "score", "seen", "tags"] ∧
      ∀ c ∈ processes.schema.columns, (∃ row ∈ processes.rows, row.get c.name ≠ .null) →
        c ∈ (toTable none f).schema.columns := by
  intro past
  have stored : past.store.table ⟨1⟩ = .ok processes := by rfl
  have plain : PlainText "p1" := ⟨nofun, fun listed => absurd listed.1 (by decide)⟩
  exact ⟨stored, frame_restores stored nofun (by decide) (by decide) exact_processes
    (List.forall_mem_singleton.2 plain) columnar_processes⟩

end Tabular
end ThreatHunt
