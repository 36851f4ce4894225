import ThreatHunt.Proofs.Table.Typing

/-!
Tables from files. What is read from columns or records shows its own schema, so it is typed; a table
document is as good as the schema that it declares.
-/

namespace ThreatHunt

namespace Dict

variable {α : Type}

theorem contains_filter {d : Dict α} {keep : String → α → Bool} {name : String}
    (there : (d.filter keep).contains name = true) : d.contains name = true := by
  obtain ⟨value, found⟩ := Option.isSome_iff_exists.1 there
  exact Option.isSome_iff_exists.2 ⟨value, (find?_filter found).2⟩

end Dict

namespace Tabular

/-- Whether all attributes of a row are among some names. -/
def Within (names : List String) (row : Entity) : Prop :=
  ∀ name, row.attributes.contains name = true → name ∈ names

theorem within_entity {entityType : String} {skipped : List String}
    {cells : List (String × Value)} :
    Within ((cells.map Prod.fst).filter (fun n => !skipped.contains n))
      (entity entityType skipped cells) := by
  have listed : ∀ name,
      (Dict.ofList ((cells.filter (fun c => !skipped.contains c.1)).map
        (fun c => (c.1, cellValue c.2)))).contains name = true →
      name ∈ (cells.map Prod.fst).filter (fun n => !skipped.contains n) := by
    intro name there
    obtain ⟨e, member, rfl⟩ := Dict.contains_ofList.1 there
    obtain ⟨c, kept, rfl⟩ := List.mem_map.1 member
    obtain ⟨cell, shown⟩ := List.mem_filter.1 kept
    exact List.mem_filter.2 ⟨List.mem_map.2 ⟨c, cell, rfl⟩, shown⟩
  intro name there
  refine listed name ?_
  unfold entity at there
  dsimp only at there
  split at there
  · exact there
  · unfold Entity.ofRecord at there
    split at there <;> exact Dict.contains_filter there

/-- The rows of a frame show no more than its columns. -/
theorem within_rows (entityType : String) (skipped : List String) (f : Frame) :
    ∀ row ∈ Table.mergeRows ((List.range f.height).map
      (fun i => entity entityType skipped (f.row i))),
      Within (f.names.filter (fun n => !skipped.contains n)) row := by
  apply Table.mergeRows_keep
  · intro a b mine its name there
    exact ((Entity.contains_absorb a b name).1 there).elim (mine name) (its name)
  · intro row member
    obtain ⟨i, _, rfl⟩ := List.mem_map.1 member
    have names : (f.row i).map Prod.fst = f.names := by
      rw [Frame.row, List.map_map]
      rfl
    exact names ▸ within_entity

theorem typed_toTable (entityType : Option String) (f : Frame) : (toTable entityType f).Typed := by
  unfold toTable
  extract_lets named ofRecords type skipped rows table projected
  have typed : table.Typed := Table.typed_ofRows type (Table.mergeRows rows)
  split
  · intro row member name value found
    refine (typed row member name value found).project ?_
    refine within_rows type skipped f row member name ?_
    rw [Dict.contains, found]
    rfl
  · exact typed

end Tabular

namespace TableFile

/-- Whether the rows of a document are of the kinds that it declares, if it declares a schema. -/
def Document.Typed (d : Document) : Prop :=
  ∀ declared, d.schema = some declared → ∀ row ∈ d.rows, ∀ c ∈ declared.columns,
    (row.get c.name).kind ≤ c.kind

/-- Whether a file holds a table document. -/
def HoldsDocument (d : Disk) (path : String) (document : Document) : Prop :=
  formOf path = .document ∧ ∃ text fields, d.readText path = .ok text ∧
    Json.read text = .ok (.obj fields) ∧ Document.decoder.decodeJson (.obj fields) = .ok document

theorem mem_completeSchema {declared shown : Schema} :
    ∀ c ∈ (completeSchema declared shown).columns, c ∈ declared.columns ∨ c ∈ shown.columns := by
  refine List.foldlRecOn (motive := fun columns : List Column =>
    ∀ c ∈ columns, c ∈ declared.columns ∨ c ∈ shown.columns) shown.columns _ (fun _ => .inl) ?_
  intro columns known c column d member
  split at member
  · exact known d member
  · rcases List.mem_append.1 member with old | new
    · exact known d old
    · exact .inr (List.mem_singleton.1 new ▸ column)

theorem mem_names_completeSchema {declared shown : Schema} {name : String}
    (named : name ∈ shown.names) : name ∈ (completeSchema declared shown).names := by
  have folded : ∀ (more start : List Column),
      name ∈ start.map Column.name ∨ name ∈ more.map Column.name →
      name ∈ (more.foldl (fun columns c =>
        if columns.any (fun d => d.name == c.name) then columns else columns ++ [c])
        start).map Column.name := by
    intro more
    induction more with
    | nil => simp
    | cons c rest ih =>
      intro start there
      refine ih _ ?_
      dsimp only
      split
      · rename_i known
        obtain ⟨d, member, same⟩ := List.any_eq_true.1 known
        rcases there with old | new
        · exact .inl old
        · rcases List.mem_cons.1 new with rfl | later
          · exact .inl (List.mem_map.2 ⟨d, member, beq_iff_eq.1 same⟩)
          · exact .inr later
      · rw [List.map_append, List.mem_append]
        rcases there with old | new
        · exact .inl (.inl old)
        · rcases List.mem_cons.1 new with rfl | later
          · exact .inl (.inr (List.mem_singleton_self _))
          · exact .inr later
  exact folded shown.columns declared.columns (.inr named)

theorem Document.Typed.toTable {d : Document} (typed : d.Typed) (entityType : Option String) :
    (d.toTable entityType).Typed := by
  unfold Document.toTable
  extract_lets type table
  have shown : table.Typed := Table.typed_ofRows type (Table.mergeRows d.rows)
  cases own : d.schema with
  | none => exact shown
  | some declared =>
    intro row member name value found
    have kinds : ∀ row ∈ Table.mergeRows d.rows, ∀ c ∈ declared.columns,
        (row.get c.name).kind ≤ c.kind := by
      refine Table.mergeRows_keep (fun a b mine its c column => ?_) (typed declared own)
      rw [Entity.get_absorb]
      split
      · exact its c column
      · exact mine c column
    have takes := shown row member name value found
    refine ⟨mem_names_completeSchema takes.named, fun c column same => ?_⟩
    rcases mem_completeSchema c column with mine | its
    · have kind := kinds row member c mine
      rw [same, Entity.get, found] at kind
      exact kind
    · exact takes.above c its same

/-- A table that is read comes from columns, from records or from a document. -/
theorem read_eq_ok {d : Disk} {path : String} {entityType : Option String} {t : Table}
    (loaded : TableFile.read d path entityType = .ok t) :
    (∃ f, t = Tabular.toTable entityType f) ∨ (∃ type rows, t = Table.ofRows type rows) ∨
      ∃ document, HoldsDocument d path document ∧ t = document.toTable entityType := by
  unfold TableFile.read at loaded
  split at loaded
  · nomatch loaded
  · split at loaded
    · obtain ⟨f, _, rfl⟩ := Outcome.map_eq_ok.1 loaded
      exact .inl ⟨f, rfl⟩
    · obtain ⟨text, _, rest⟩ := Outcome.bind_eq_ok.1 loaded
      exact .inl ⟨_, (Outcome.pure_eq_ok.1 rest).symm⟩
    · rename_i form
      obtain ⟨text, taken, rest⟩ := Outcome.bind_eq_ok.1 loaded
      unfold ofJsonText at rest
      obtain ⟨json, parsed, rest⟩ := Outcome.bind_eq_ok.1 rest
      split at rest
      · obtain ⟨⟨type, rows⟩, _, rest⟩ := Outcome.bind_eq_ok.1 rest
        exact .inr (.inl ⟨type, rows, (Outcome.pure_eq_ok.1 rest).symm⟩)
      · rename_i fields
        obtain ⟨document, decoded, rest⟩ := Outcome.bind_eq_ok.1 rest
        refine .inr (.inr ⟨document, ?_, (Outcome.pure_eq_ok.1 rest).symm⟩)
        exact ⟨form, text, fields, Outcome.mapError_eq_ok.1 taken,
          Outcome.mapError_eq_ok.1 parsed, Outcome.mapError_eq_ok.1 decoded⟩
      · nomatch rest

/-- A table that is read is typed, unless it stands in a document that is not. -/
theorem typed_read {d : Disk} {path : String} {entityType : Option String} {t : Table}
    (loaded : TableFile.read d path entityType = .ok t)
    (typed : ∀ document, HoldsDocument d path document → document.Typed) : t.Typed := by
  rcases read_eq_ok loaded with ⟨f, rfl⟩ | ⟨type, rows, rfl⟩ | ⟨document, holds, rfl⟩
  · exact Tabular.typed_toTable entityType f
  · exact Table.typed_ofRows type rows
  · exact (typed document holds).toTable entityType

end TableFile
end ThreatHunt
