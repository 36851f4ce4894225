import ThreatHunt.Proofs.Hunt.Grouped
import ThreatHunt.Proofs.Table.RecordKeys
import ThreatHunt.Proofs.Value.Literals

/-!
Tables of written records. A record gets an identifier in every case but one: an `id` that is the
empty text becomes the identifier as it is. Records of which none has such an `id` are stored and
bound, and a single one that has is enough for the store to refuse them all.
-/

namespace ThreatHunt

theorem Value.render_eq_empty {v : Value} : v.render = "" ↔ v = .null ∨ v = .str "" := by
  cases v with
  | null => exact iff_of_true rfl (.inl rfl)
  | str s => simp [render]
  | bool b => cases b <;> simp [render]
  | int i =>
    refine iff_of_false (fun empty => ofInt_ne_nil i ?_) (by simp)
    rw [render] at empty
    rw [empty]
    rfl
  | float x =>
    refine iff_of_false (fun empty => floatText_ne_nil x ?_) (by simp)
    rw [render] at empty
    rw [empty]
    rfl
  | time t => simp [render, Instant.text]
  | list items => simp [render]

/-- Only the empty text as an `id` makes an entity without an identifier. -/
theorem Entity.id_ofRecord_eq_empty {entityType : String} {record : Dict Value} :
    (ofRecord entityType record).id = "" ↔ record.find? "id" = some (.str "") := by
  have derived : ∀ attributes, derivedId entityType attributes ≠ "" := by
    intro attributes
    simp [derivedId]
  unfold ofRecord
  cases found : record.find? "id" with
  | none => exact iff_of_false (derived _) (by simp)
  | some v =>
    cases v with
    | null => exact iff_of_false (derived _) (by simp)
    | _ => simp [Value.render_eq_empty]

namespace Records

variable {given : Option String} {type : String} {record : Json} {records : List Json}
  {rows : List Entity} {fields : List (String × Json)} {objects : List (List (String × Json))}

/-- The `id` that a record writes down. -/
def writtenId? : Json → Option Value
  | .obj fields => (attributes fields).find? "id"
  | _ => none

/-- Whether the `id` of a record is the empty text. -/
def Blank (record : Json) : Prop := writtenId? record = some (.str "")

/-- A text that stands for a record has no `id`. -/
theorem blank_recordOf : Blank (Scene.recordOf record) ↔ Blank record := by
  cases record with
  | str text => exact iff_of_false nofun nofun
  | _ => exact Iff.rfl

/-- A record keeps its `id` when it loses its type. -/
theorem find?_record_id :
    (Records.record type fields).find? "id" = (attributes fields).find? "id" := by
  have kept : (attributes (Json.eraseField typeField fields)).find? "id" =
      (attributes fields).find? "id" := by
    have erased : (Json.eraseField typeField fields).map (fun f => (f.1, Value.ofJson f.2)) =
        (fields.map (fun f => (f.1, Value.ofJson f.2))).filter (fun e => e.1 != typeField) := by
      rw [List.filter_map]
      rfl
    rw [attributes, attributes, erased, Dict.find?_ofList, Dict.find?_ofList,
      ← List.filter_reverse]
    exact Dict.findEntry_filter (fun e _ own => bne_iff_ne.2 (own ▸ by decide))
  unfold Records.record
  split
  · exact kept
  · rfl

theorem id_entity_eq_empty : (entity type fields).id = "" ↔ Blank (.obj fields) := by
  rw [entity, Entity.id_ofRecord_eq_empty, find?_record_id]
  exact Iff.rfl

theorem objects_of_entitiesFrom {index : Nat}
    (made : entitiesFrom type index (records.map (withoutType type)) = .ok rows) :
    ∃ objects : List (List (String × Json)), records = objects.map .obj := by
  induction records generalizing index rows with
  | nil => exact ⟨[], rfl⟩
  | cons record rest ih =>
    cases record with
    | obj fields =>
      rw [List.map_cons, withoutType_obj, entitiesFrom] at made
      obtain ⟨more, others, _⟩ := Outcome.bind_eq_ok.1 made
      obtain ⟨objects, rfl⟩ := ih others
      exact ⟨fields :: objects, rfl⟩
    | _ => cases made

/-- Records that can be typed are objects, and each is a sighting of the entity that it makes. -/
theorem objects_of_typed (typed : Records.typed given records = .ok (type, rows)) :
    ∃ objects : List (List (String × Json)),
      records = objects.map .obj ∧ rows = Table.mergeRows (objects.map (entity type)) := by
  obtain ⟨own, whole⟩ : ∃ own : Except Trouble String, (own >>= fun t =>
      entities t (records.map (withoutType t)) >>= fun sightings =>
        pure (t, Table.mergeRows sightings)) = .ok (type, rows) := by
    cases given <;> exact ⟨_, typed⟩
  obtain ⟨_, -, rest⟩ := Outcome.bind_eq_ok.1 whole
  obtain ⟨sightings, made, rest⟩ := Outcome.bind_eq_ok.1 rest
  obtain ⟨rfl, rfl⟩ := Prod.mk.inj (Outcome.pure_eq_ok.1 rest)
  obtain ⟨objects, rfl⟩ := objects_of_entitiesFrom made
  rw [entities, entitiesFrom_objects] at made
  rw [← Except.ok.inj made]
  exact ⟨objects, rfl, rfl⟩

/-- A row of typed records lacks an identifier just if one of the records has a blank one. -/
theorem named_of_typed (typed : Records.typed given records = .ok (type, rows)) :
    (∀ row ∈ rows, row.id ≠ "") ↔ ∀ record ∈ records, ¬Blank record := by
  obtain ⟨objects, rfl, rfl⟩ := objects_of_typed typed
  have ids : ∀ id, id ∈ (Table.mergeRows (objects.map (entity type))).map Entity.id ↔
      ∃ fields ∈ objects, (entity type fields).id = id := by
    intro id
    rw [Table.ids_mergeRows, List.mem_eraseDups]
    simp only [List.map_map, List.mem_map, Function.comp_apply]
  constructor
  · rintro named _ among blank
    obtain ⟨fields, member, rfl⟩ := List.mem_map.1 among
    obtain ⟨row, there, empty⟩ :=
      List.mem_map.1 ((ids "").2 ⟨fields, member, id_entity_eq_empty.2 blank⟩)
    exact named row there empty
  · intro clear row member empty
    obtain ⟨fields, among, same⟩ := (ids row.id).1 (List.mem_map_of_mem member)
    exact clear _ (List.mem_map_of_mem among) (id_entity_eq_empty.1 (same.trans empty))

theorem distinct_of_typed (typed : Records.typed given records = .ok (type, rows)) :
    (rows.map Entity.id).Nodup := by
  obtain ⟨objects, rfl, rfl⟩ := objects_of_typed typed
  exact Table.nodup_mergeRows _

end Records

section

variable {s : Scene} {given : Option String} {type : String} {records : List Json}
  {rows : List Entity}

theorem Scene.plan_create (command : s.statement.statement.command = .create given records)
    (typed : Records.typed given (records.map recordOf) = .ok (type, rows)) :
    s.plan = .ok (.ready (s.single (Table.ofRows type rows) [] [])) := by
  unfold Scene.plan
  rw [command]
  exact planCreate_eq_ok.2 ⟨_, typed, rfl⟩

end

namespace Hunt

variable {h : Hunt} {now : Moment} {statement : PlacedStatement} {given : Option String}
  {type : String} {records : List Json} {rows : List Entity}

/-- An entity that is made of a record lacks an identifier just if the record has the empty text as
its `id`. Records that can be typed are stored and bound if no `id` is the empty text, and refused
for a missing identifier if one is. -/
theorem run_create (reachable : h.Reachable)
    (command : statement.statement.command = .create given records)
    (typed : Records.typed given (records.map Scene.recordOf) = .ok (type, rows)) :
    (∀ entityType record, (Entity.ofRecord entityType record).id = "" ↔
      record.find? "id" = some (.str "")) ∧
    ((∀ record ∈ records, ¬Records.Blank record) →
      (∃ completion, (h.run now statement).2 = .ok completion) ∧
      (h.run now statement).1.table (h.scene now.time statement).outputName =
        .ok (Table.ofSchema (Table.ofRows type rows).schema
          (Table.conformRows (Table.ofRows type rows).schema rows))) ∧
    ((∃ record ∈ records, Records.Blank record) →
      (h.run now statement).2 = .error (.store (.missingId h.store.nextHandle))) := by
  have planned : (h.scene now.time statement).plan = .ok (.ready _) :=
    Scene.plan_create command typed
  have named : (∀ row ∈ rows, row.id ≠ "") ↔ ∀ record ∈ records, ¬Records.Blank record := by
    rw [Records.named_of_typed typed, List.forall_mem_map]
    exact forall₂_congr (fun record _ => not_congr Records.blank_recordOf)
  have distinct : (rows.map Entity.id).Nodup := Records.distinct_of_typed typed
  refine ⟨fun _ _ => Entity.id_ofRecord_eq_empty, fun clear => ?_, ?_⟩
  · have accepted : Store.Accepts (Table.ofRows type rows).schema rows :=
      ⟨named.2 clear, distinct, Table.known_ofRows⟩
    exact ⟨completes_of_ready reachable planned rfl accepted,
      table_of_ready reachable planned rfl accepted⟩
  · rintro ⟨record, member, blank⟩
    rw [run_of_ready planned]
    cases outcome : Store.batchTrouble?
        ⟨h.store.nextHandle, (Table.ofRows type rows).schema, [], []⟩ [] rows with
    | none => exact absurd blank (named.1 (Store.accepts_iff.1 outcome).named record member)
    | some trouble =>
      have missing := Store.missingId_of_trouble distinct (fun _ _ => List.not_mem_nil)
        Table.known_ofRows outcome
      rw [commit_refused reachable.sound.fresh rfl outcome, missing]

/-- Four processes: a bare text, one with a list as its `id`, one with null and one with a text. -/
def newVaried : PlacedStatement :=
  newProcesses "a"
    ("[\"cmd\", \x7b\"id\": [1, \"x\"]\x7d, \x7b\"id\": null, \"name\": \"sh\"\x7d, " ++
      "\x7b\"id\": \"p1\"\x7d]")
    [.str "cmd", .obj [("id", .arr [.int 1, .str "x"])], .obj [("id", .null), ("name", .str "sh")],
      .obj [("id", .str "p1")]]

theorem run_create_varied :
    ∃ completion, ((start .standard Disk.empty).run epoch newVaried).2 = .ok completion := by
  have typed : Records.typed (some "process")
      ([[("value", .str "cmd")], [("id", .arr [.int 1, .str "x"])],
        [("id", .null), ("name", .str "sh")], [("id", .str "p1")]].map Json.obj) = .ok _ :=
    Records.typed_objects rfl
  refine ((run_create (.start _ _) rfl typed).2.1 ?_).1
  have written : ¬Records.Blank (.obj [("id", .str "p1")]) :=
    fun blank => absurd (Value.str.inj (Option.some.inj blank)) (by decide)
  simp only [List.forall_mem_cons]
  exact ⟨nofun, nofun, nofun, written, nofun⟩

def newBlank : PlacedStatement :=
  newProcesses "a" "[\x7b\"id\": \"\", \"name\": \"cmd\"\x7d]"
    [.obj [("id", .str ""), ("name", .str "cmd")]]

/-- A process with the empty text as its `id` can be typed, but not be stored. -/
theorem run_create_refused :
    (start .standard Disk.empty).Reachable ∧
    Records.typed (some "process") [.obj [("id", .str ""), ("name", .str "cmd")]] =
      .ok ("process", [⟨"", Dict.ofList [("name", .str "cmd")]⟩]) ∧
    ((start .standard Disk.empty).run epoch newBlank).2 =
      .error (.store (.missingId ⟨1⟩)) :=
  ⟨.start _ _, rfl, rfl⟩

end Hunt
end ThreatHunt
