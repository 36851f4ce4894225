import ThreatHunt.Proofs.Json.Decoding
import ThreatHunt.Proofs.Storage.Files
import ThreatHunt.Proofs.Storage.History
import ThreatHunt.Proofs.Table.Unrepeated
import ThreatHunt.Proofs.Time.Reading
import ThreatHunt.Value.Json

/-!
Values that documents give back. The kinds of JSON are fewer than those of values, so a reader has
to tell instants from texts; it does for all values that a writer of documents can tell apart.
-/

namespace ThreatHunt.Value

open Text (locateFrom locate byteLength)

/-- Values that a document keeps apart: integers of 64 bits, finite numbers, texts that are no RFC
3339 timestamps, instants to the millisecond, and lists of such values. -/
inductive Storable : Value → Prop where
  | null : Storable .null
  | bool (b : Bool) : Storable (.bool b)
  | int {i : Int} (fits : Text.fitsInt64 i = true) : Storable (.int i)
  | float {x : Binary64} (finite : x.isFinite = true) : Storable (.float x)
  | str {s : String} (plain : ∀ t, Instant.readStrict s ≠ .ok t) : Storable (.str s)
  | time {t : Instant} (fits : t.Millisecond) : Storable (.time t)
  | list {items : List Value} (each : ∀ v ∈ items, Storable v) : Storable (.list items)

theorem instantOf?_eq_none {s : String} (plain : ∀ t, Instant.readStrict s ≠ .ok t) :
    instantOf? s = none := by
  unfold instantOf?
  dsimp only
  split
  · cases read : Instant.readStrict s with
    | error fault => rfl
    | ok t => exact absurd read (plain t)
  · rfl

theorem byteLength_of_digits {ds : List Char} (digits : ∀ d ∈ ds, d.isDigit = true) :
    byteLength ds = ds.length := by
  induction ds with
  | nil => rfl
  | cons d ds ih =>
    obtain ⟨first, rest⟩ := List.forall_mem_cons.1 digits
    have size : d.utf8Size = 1 := by
      rw [Char.utf8Size_eq_one_iff]
      simp only [Char.isDigit, Bool.and_eq_true, decide_eq_true_eq] at first
      exact UInt32.le_trans first.2 (by decide)
    rw [Text.byteLength_cons, ih rest, size, List.length_cons, Nat.add_comm]

/-- The text of an instant has the marks by which a reader of documents knows it. -/
theorem instantOf?_text {t : Instant} (fits : t.Millisecond) :
    instantOf? (t.text .millis) = some t := by
  obtain ⟨ys, ms, ds, hs, ns, ss, fs, written, years, months, days, hours, minutes, seconds,
    fraction⟩ := fits.exists_written
  have long : 19 ≤ byteLength (t.text .millis).toList := by
    refine Nat.le_trans ?_ (Text.length_le_byteLength _)
    simp [written, years.length, months.length, days.length, hours.length, minutes.length,
      seconds.length, fraction.length]
  have hyphen :
      ((locate (t.text .millis)).any (fun c => c.offset == 4 && c.char == '-')) = true := by
    rw [locate, written, Text.locateFrom_append, byteLength_of_digits years.digits, years.length]
    simp [locateFrom]
  have letter : (t.text .millis).toList.contains 'T' = true := by
    simp [written]
  simp only [instantOf?, long, hyphen, letter, fits.readStrict_text, Except.toOption, decide_true,
    Bool.and_self, if_true]

theorem toJsonItems_eq (items : List Value) : toJsonItems items = items.map toJson := by
  induction items with
  | nil => rfl
  | cons v rest ih => rw [toJsonItems, ih, List.map_cons]

theorem ofJsonItems_eq (items : List Json) : ofJsonItems items = items.map ofJson := by
  induction items with
  | nil => rfl
  | cons j rest ih => rw [ofJsonItems, ih, List.map_cons]

/-- A storable value is read back from its JSON value. -/
theorem ofJson_toJson {v : Value} (storable : v.Storable) : ofJson v.toJson = v := by
  induction storable with
  | null => rfl
  | bool b => rfl
  | int fits => rw [toJson, ofJson, if_pos fits]
  | float finite => rw [toJson, if_pos finite, ofJson]
  | str plain => rw [toJson, ofJson, instantOf?_eq_none plain]
  | time fits => rw [toJson, ofJson, instantOf?_text fits]
  | @list items _ ih =>
    have each : items.map (fun v => ofJson v.toJson) = items.map id := List.map_congr_left ih
    rw [toJson, toJsonItems_eq, ofJson, ofJsonItems_eq, List.map_map]
    exact congrArg Value.list (each.trans (List.map_id items))

end ThreatHunt.Value

/-!
Tables that come back from JSON documents as they were written.
-/

namespace ThreatHunt

open Json (sortFields insertField ordered orderedFields orderedItems_eq)
open Json.Decoder

namespace Value

/-- A value holds no objects, so nothing in it can be out of order. -/
theorem ordered_toJson {v : Value} (storable : v.Storable) : v.toJson.ordered = v.toJson := by
  induction storable with
  | null | bool | int | str | time => simp only [toJson, ordered]
  | float finite => simp only [toJson, if_pos finite, ordered]
  | @list items _ ih =>
    rw [toJson, toJsonItems_eq, ordered, orderedItems_eq, List.map_map]
    exact congrArg Json.arr (List.map_congr_left ih)

theorem restores {v : Value} (storable : v.Storable) : decoder.Restores toJson v := by
  have read : decoder.decodeJson v.toJson.ordered =
      ofJson <$> (Json.Node.ofJson v.toJson.ordered).value := rfl
  rw [Restores, read, Json.value_ofJson, ordered_toJson storable, ordered_toJson storable]
  exact congrArg Except.ok (ofJson_toJson storable)

end Value

theorem Kind.restores (kind : Kind) : decoder.Restores (fun kind => .str kind.code) kind := by
  rw [Restores, ordered]
  cases kind <;> rfl

theorem Column.restores (c : Column) : decoder.Restores toJson c := by
  have tree : c.toJson.ordered =
      .obj [("name", (Json.str c.name).ordered), ("ty", (Json.str c.kind.code).ordered)] := by
    simp only [toJson, ordered, orderedFields, sortFields, List.foldl_cons, List.foldl_nil,
      insertField, String.reduceEq, String.reduceLT, if_false]
  rw [Restores, tree]
  refine record_decodeJson ["ty", "name"] ?_ (by simp [field])
  rw [objectFields_cons rfl (by simp) (put_field (restores_str c.name)),
    objectFields_cons rfl (by simp) (put_field c.kind.restores)]
  rfl

theorem Schema.restores (s : Schema) : decoder.Restores toJson s := by
  have columns := restores_list (fun c (_ : c ∈ s.columns) => c.restores)
  have tree : s.toJson.ordered = .obj
      [("attributes", (Json.arr (s.columns.map Column.toJson)).ordered),
        ("entity_type", (Json.str s.entityType).ordered)] := by
    simp only [toJson, ordered, orderedFields, sortFields, List.foldl_cons, List.foldl_nil,
      insertField, String.reduceEq, String.reduceLT, if_true, if_false]
  rw [Restores, tree]
  refine record_decodeJson ["entity_type", "attributes"] ?_ (by simp [field])
  rw [objectFields_cons rfl (by simp) (put_field columns),
    objectFields_cons rfl (by simp) (put_field (restores_str s.entityType))]
  rfl

namespace Entity

/-- Whether documents keep the values of a row. -/
def Storable (row : Entity) : Prop := ∀ e ∈ row.attributes.entries, e.2.Storable

theorem restores {row : Entity} (storable : row.Storable) : decoder.Restores toJson row := by
  have attributes := restores_dict (fun e member => Value.restores (storable e member))
  have tree : row.toJson.ordered = .obj
      [("attributes", (Json.obj (row.attributes.entries.map (fun a => (a.1, a.2.toJson)))).ordered),
        ("id", (Json.str row.id).ordered)] := by
    simp only [toJson, ordered, orderedFields, sortFields, List.foldl_cons, List.foldl_nil,
      insertField, String.reduceEq, String.reduceLT, if_true, if_false]
  rw [Restores, tree]
  refine record_decodeJson ["id", "attributes"] ?_ (by simp [field, fieldOr])
  rw [objectFields_cons rfl (by simp) (put_fieldOr attributes),
    objectFields_cons rfl (by simp) (put_field (restores_str row.id))]
  rfl

end Entity

namespace TableFile

theorem Document.decodeJson_toJson {t : Table} (storable : ∀ row ∈ t.rows, row.Storable) :
    Document.decoder.decodeJson t.toJson.ordered = .ok ⟨t.entityType, some t.schema, t.rows⟩ := by
  have rows := restores_list (fun row member => Entity.restores (storable row member))
  have schema := option_decodeJson (by simp [Schema.toJson, ordered]) t.schema.restores
  have tree : t.toJson.ordered = .obj
      [("entity_type", (Json.str t.entityType).ordered),
        ("rows", (Json.arr (t.rows.map Entity.toJson)).ordered),
        ("schema", t.schema.toJson.ordered)] := by
    simp only [Table.toJson, ordered, orderedFields, sortFields, List.foldl_cons, List.foldl_nil,
      insertField, String.reduceEq, String.reduceLT, if_true, if_false]
  rw [tree]
  refine record_decodeJson ["schema", "rows", "entity_type"] ?_ (by simp [field, fieldOr])
  rw [objectFields_cons rfl (by simp) (put_field (restores_str t.entityType)),
    objectFields_cons rfl (by simp) (put_field rows),
    objectFields_cons rfl (by simp) (put_fieldOr schema)]
  rfl

/-- Nothing is added to a declared schema that names all that is shown. -/
theorem completeSchema_of_named {declared shown : Schema}
    (named : ∀ name ∈ shown.names, name ∈ declared.names) :
    completeSchema declared shown = declared := by
  have kept : ∀ more : List Column, (∀ c ∈ more, c.name ∈ declared.names) →
      more.foldl (fun columns c =>
        if columns.any (fun d => d.name == c.name) then columns else columns ++ [c])
        declared.columns = declared.columns := by
    intro more each
    induction more with
    | nil => rfl
    | cons c rest ih =>
      obtain ⟨first, others⟩ := List.forall_mem_cons.1 each
      obtain ⟨d, column, same⟩ := List.mem_map.1 first
      have known : declared.columns.any (fun d => d.name == c.name) = true :=
        List.any_eq_true.2 ⟨d, column, beq_iff_eq.2 same⟩
      rw [List.foldl_cons, if_pos known, ih others]
  rw [completeSchema,
    kept shown.columns (fun c column => named c.name (List.mem_map_of_mem column))]

end TableFile

namespace Table

/-- Rows with the attributes of the schema and no others. -/
def Exact (t : Table) : Prop :=
  ∀ row ∈ t.rows, ∀ name, row.attributes.contains name = true ↔ name ∈ t.schema.names

open Json (Legible) in
/-- The text of a table is read as its tree if the texts of its values are: a document holds rows, a
row attributes, and these the values. -/
theorem legible_toJson {t : Table} (each : ∀ row ∈ t.rows, ∀ e ∈ row.attributes.entries,
    e.2.toJson.Legible (Json.depthLimit - 4)) : t.toJson.Legible Json.depthLimit := by
  have column : ∀ c : Column, Legible 125 c.toJson := fun c =>
    .obj (by decide) (List.forall_mem_cons.2 ⟨.str _, List.forall_mem_singleton.2 (.str _)⟩)
  have columns : Legible 126 (.arr (t.schema.columns.map Column.toJson)) :=
    .arr (by decide) (List.forall_mem_map.2 (fun c _ => column c))
  have schema : Legible 127 t.schema.toJson :=
    .obj (by decide) (List.forall_mem_cons.2 ⟨.str _, List.forall_mem_singleton.2 columns⟩)
  have row : ∀ row ∈ t.rows, Legible 126 row.toJson := by
    intro row member
    have attributes : Legible 125
        (.obj (row.attributes.entries.map (fun a => (a.1, a.2.toJson)))) :=
      .obj (by decide) (List.forall_mem_map.2 (each row member))
    exact .obj (by decide)
      (List.forall_mem_cons.2 ⟨.str _, List.forall_mem_singleton.2 attributes⟩)
  have rows : Legible 127 (.arr (t.rows.map Entity.toJson)) :=
    .arr (by decide) (List.forall_mem_map.2 row)
  exact .obj (by decide) (List.forall_mem_cons.2
    ⟨.str _, List.forall_mem_cons.2 ⟨schema, List.forall_mem_singleton.2 rows⟩⟩)

/-- A table as a store gives it: its type is that of its schema, and its rows have identifiers of
their own. -/
structure Stored (t : Table) : Prop where
  typed : t.schema.entityType = t.entityType
  distinct : (t.rows.map Entity.id).Nodup

theorem stored_of_history {calls : List Store.Call} {handle : TableHandle} {t : Table}
    (found : (Store.History.after calls).store.table handle = .ok t) : t.Stored := by
  obtain ⟨stored, got, rfl⟩ := Outcome.map_eq_ok.1 found
  have member : stored ∈ (Store.History.after calls).store.tables := by
    unfold Store.get at got
    split at got
    · rename_i there
      rw [← Except.ok.inj got]
      exact List.mem_of_find?_eq_some there
    · cases got
  exact ⟨rfl, ((Store.history_atomic calls).1.coherent stored member).distinct⟩

end Table

namespace TableFile

/-- The document of a table is the table again: no rows fall together, and no columns are added. -/
theorem Document.toTable_eq {t : Table} (stored : t.Stored) (exact : t.Exact) :
    (⟨t.entityType, some t.schema, t.rows⟩ : Document).toTable none = t := by
  have rows : Table.mergeRows t.rows = t.rows := Table.mergeRows_of_distinct stored.distinct
  have shown : ∀ name ∈ (Schema.infer t.entityType (t.rows.map Entity.attributes)).names,
      name ∈ t.schema.names := by
    intro name there
    obtain ⟨attributes, among, own⟩ := Schema.mem_names_infer.1 there
    obtain ⟨row, member, rfl⟩ := List.mem_map.1 among
    exact (exact row member name).1 own
  have typed : { t.schema with entityType := t.entityType } = t.schema := by
    rw [← stored.typed]
  simp only [Document.toTable, Option.getD_none, rows, Table.ofRows, typed,
    completeSchema_of_named shown]

theorem ofJsonText_toJson {t : Table} (stored : t.Stored) (exact : t.Exact)
    (storable : ∀ row ∈ t.rows, row.Storable) {text : String}
    (reads : Json.read text = .ok t.toJson.ordered) : ofJsonText none text = .ok t := by
  have decoded := Document.decodeJson_toJson storable
  obtain ⟨fields, tree⟩ : ∃ fields, t.toJson.ordered = .obj fields := by
    rw [Table.toJson, ordered]
    exact ⟨_, rfl⟩
  rw [tree] at reads decoded
  rw [ofJsonText, reads]
  simp only [Except.mapError, bind, Except.bind, decoded, pure, Except.pure,
    Document.toTable_eq stored exact]

/-- Tables come back from their documents. Where the text of the document of a stored table is read
as its tree, what is read is the table that was written: its type and schema, its rows in their
order, identifiers and attributes. That holds of the document and of every file that holds it. -/
theorem document_restores {calls : List Store.Call} {handle : TableHandle} {t : Table}
    (stored : (Store.History.after calls).store.table handle = .ok t) (exact : t.Exact)
    (storable : ∀ row ∈ t.rows, row.Storable)
    (reads : Json.read t.toJson.indented = .ok t.toJson.ordered) :
    (∃ text, content .document t = .ok (.text text) ∧ ofJsonText none text = .ok t) ∧
      ∀ d d' path, formOf path = .document → write d path t = (d', .ok ()) →
        TableFile.read d' path none = .ok t := by
  have restored := ofJsonText_toJson (Table.stored_of_history stored) exact storable reads
  refine ⟨⟨t.toJson.indented, rfl, restored⟩, ?_⟩
  intro d d' path form written
  obtain ⟨file, given, found⟩ := write_eq_ok written
  rw [form] at given
  rw [read_document form (Except.ok.inj given ▸ found), restored]

/-- A table with a value of each kind. -/
def processes : Table where
  entityType := "process"
  schema := ⟨"process", [⟨"pid", .int⟩, ⟨"name", .str⟩, ⟨"live", .bool⟩, ⟨"note", .null⟩,
    ⟨"score", .float⟩, ⟨"seen", .time⟩, ⟨"tags", .list⟩]⟩
  rows := [⟨"p1", Dict.ofList [("pid", .int 7), ("name", .str "cmd"), ("live", .bool true),
    ("note", .null), ("score", .float ⟨0x3FE0000000000000⟩), ("seen", .time ⟨1700000000, 5000000⟩),
    ("tags", .list [.str "a", .list [.int (-1), .null]])]⟩]

theorem exact_processes : processes.Exact := by
  intro row member name
  obtain rfl := List.mem_singleton.1 member
  have shown : name ∈ ["live", "name", "note", "pid", "score", "seen", "tags"] ↔
      name ∈ ["pid", "name", "live", "note", "score", "seen", "tags"] := by
    simp only [List.mem_cons, List.not_mem_nil]
    tauto
  exact Dict.contains_iff_mem_names.trans shown

theorem entries_processes {row : Entity} (member : row ∈ processes.rows) :
    row.attributes.entries = [("live", .bool true), ("name", .str "cmd"), ("note", .null),
      ("pid", .int 7), ("score", .float ⟨0x3FE0000000000000⟩),
      ("seen", .time ⟨1700000000, 5000000⟩),
      ("tags", .list [.str "a", .list [.int (-1), .null]])] := by
  obtain rfl := List.mem_singleton.1 member
  rfl

theorem storable_processes : ∀ row ∈ processes.rows, row.Storable := by
  intro row member
  have item : ∀ v ∈ [Value.int (-1), .null], v.Storable := by
    simpa using ⟨.int rfl, .null⟩
  have items : ∀ v ∈ [Value.str "a", .list [.int (-1), .null]], v.Storable := by
    simpa using ⟨.str nofun, .list item⟩
  have seen : Instant.Millisecond ⟨1700000000, 5000000⟩ := ⟨by decide, by decide, by decide⟩
  rw [Entity.Storable, entries_processes member]
  simp only [List.forall_mem_cons]
  exact ⟨.bool true, .str nofun, .null, .int rfl, .float rfl, .time seen, .list items, nofun⟩

open Json in
theorem legible_processes : ∀ row ∈ processes.rows, ∀ e ∈ row.attributes.entries,
    e.2.toJson.Legible (depthLimit - 4) := by
  intro row member
  have digit : ∀ {c : Char}, c.isDigit = true → IsDigits [c] := fun digit =>
    ⟨List.cons_ne_nil _ _, List.forall_mem_singleton.2 digit⟩
  have numeral : IsNumeral ⟨false, ['0'], some ['5'], none⟩ _ :=
    .parts ⟨digit rfl, by decide⟩ (.some (digit rfl)) .none
  have half : Legible (depthLimit - 4) (.float ⟨0x3FE0000000000000⟩) :=
    .float (.positive numeral rfl rfl)
  have inner : ∀ j ∈ [Json.int (-1), .null], Legible 122 j := by
    simpa using ⟨.int (by decide) (by decide), .null⟩
  have items : ∀ j ∈ [Json.str "a", .arr [.int (-1), .null]], Legible 123 j := by
    simpa using ⟨.str "a", .arr (by decide) inner⟩
  rw [entries_processes member]
  simp only [List.forall_mem_cons]
  exact ⟨.bool true, .str "cmd", .null, .int (by decide) (by decide), half, .str _,
    .arr (by decide) items, nofun⟩

/-- Rows of all kinds of values in their columns, and a table without rows. -/
theorem document_restores_kinds :
    let past := Store.History.after [.createWithRows processes, .createTable (.empty "file")]
    let nothing := Table.ofSchema (.empty "file") []
    (past.store.table ⟨1⟩ = .ok processes ∧ past.store.table ⟨2⟩ = .ok nothing) ∧
      (∃ text, content .document processes = .ok (.text text) ∧
        ofJsonText none text = .ok processes) ∧
      ∃ text, content .document nothing = .ok (.text text) ∧ ofJsonText none text = .ok nothing := by
  intro past nothing
  have first : past.store.table ⟨1⟩ = .ok processes := by rfl
  have second : past.store.table ⟨2⟩ = .ok nothing := by rfl
  exact ⟨⟨first, second⟩,
    (document_restores first exact_processes storable_processes
      (Json.read_indented (Table.legible_toJson legible_processes))).1,
    (document_restores second nofun nofun
      (Json.read_indented (Table.legible_toJson nofun))).1⟩

end TableFile
end ThreatHunt
