import ThreatHunt.Proofs.Hunt.Grouped

/-!
Refinements that name the attributes they keep. A kept attribute keeps its value in every row that
is left. Only `id` is taken for the row identifier whatever else the rows hold under that name, so a
stored attribute `id` is dropped though it is named.
-/

namespace ThreatHunt

namespace Entity

variable {e : Entity} {keep : List String} {name : String}

theorem valueOf_keepOnly (kept : name ∈ keep) :
    (e.keepOnly keep).valueOf name = e.valueOf name := by
  have same : (e.keepOnly keep).attributes.find? name = e.attributes.find? name :=
    Dict.findEntry_filter (fun _ _ own => own ▸ List.contains_iff_mem.2 kept)
  rw [valueOf, valueOf, same]
  rfl

theorem valueOf_keepOnly_id (dropped : "id" ∉ keep) :
    (e.keepOnly keep).valueOf "id" = .str e.id := by
  have gone : (e.keepOnly keep).attributes.find? "id" = none := by
    cases found : (e.keepOnly keep).attributes.find? "id" with
    | none => rfl
    | some value =>
      exact absurd (List.contains_iff_mem.1 (Dict.find?_filter found).1) dropped
  rw [valueOf, gone]
  rfl

end Entity

/-- Each row that a refinement leaves is one that was there, cut down to the named attributes. -/
theorem Table.mem_refine {t result : Table} {standard : SortOrder} {r : Refinement}
    {attrs : List String} (named : r.attrs = some attrs)
    (made : refine standard t r = .ok result) :
    ∀ row ∈ result.rows, ∃ before ∈ t.rows,
      row = if "*" ∈ attrs then before
        else before.keepOnly (attrs.filter (fun a => a != "id")) := by
  obtain ⟨page, kept, source, narrowed, rfl⟩ := refine_eq_ok made
  rw [named] at narrowed
  obtain rfl := keepAttributes_eq_ok narrowed
  intro row member
  dsimp only at member
  by_cases star : "*" ∈ attrs
  · rw [if_pos star] at member
    exact ⟨row, source row member, (if_pos star).symm⟩
  · rw [if_neg star] at member
    obtain ⟨before, there, rfl⟩ := List.mem_map.1 member
    exact ⟨before, source before there, (if_neg star).symm⟩

namespace Hunt

variable {h : Hunt} {name : String} {t result : Table} {attrs : List String} {r : Refinement}
  {standard : SortOrder}

/-- What a name stands for holds rows that its schema takes. -/
theorem accepts_of_table (reachable : h.Reachable) (held : h.table name = .ok t) :
    Store.Accepts t.schema t.rows := by
  obtain ⟨v, found, rest⟩ := Outcome.bind_eq_ok.1 held
  have read : (h.scene epoch.time default).tableOf v = .ok t := rest
  exact accepts_of_tableOf reachable (Variables.mem_of_find? (Variables.resolve_eq_ok.1 found)) read

/-- A row that a refinement leaves comes from one row of the table and keeps its value under every
attribute that is named, apart from `id`. Under that it does just if a star keeps everything or the
row held its own identifier there. -/
theorem refine_keeps (reachable : h.Reachable) (held : h.table name = .ok t)
    (named : r.attrs = some attrs) (made : Table.refine standard t r = .ok result) :
    ∀ row ∈ result.rows, ∃ before ∈ t.rows,
      (∀ other ∈ t.rows, other.id = row.id ↔ other = before) ∧
      (∀ attr ∈ attrs, attr ≠ "id" → row.valueOf attr = before.valueOf attr) ∧
      ((∀ attr ∈ attrs, row.valueOf attr = before.valueOf attr) ↔
        ("id" ∈ attrs → "*" ∈ attrs ∨ before.valueOf "id" = .str before.id)) := by
  intro row member
  obtain ⟨before, there, shape⟩ := Table.mem_refine named made row member
  have distinct := (accepts_of_table reachable held).distinct
  have one : ∀ other ∈ t.rows, other.id = before.id ↔ other = before := fun other among =>
    ⟨Keyed.eq_of_key distinct among there, congrArg Entity.id⟩
  by_cases star : "*" ∈ attrs
  · rw [if_pos star] at shape
    subst shape
    exact ⟨row, there, one, fun _ _ _ => rfl, fun _ _ => .inl star, fun _ _ _ => rfl⟩
  · rw [if_neg star] at shape
    subst shape
    have others : ∀ attr ∈ attrs, attr ≠ "id" →
        (before.keepOnly (attrs.filter (fun a => a != "id"))).valueOf attr = before.valueOf attr :=
      fun attr among other =>
        Entity.valueOf_keepOnly (List.mem_filter.2 ⟨among, bne_iff_ne.2 other⟩)
    have own : (before.keepOnly (attrs.filter (fun a => a != "id"))).valueOf "id" =
        .str before.id :=
      Entity.valueOf_keepOnly_id (fun kept => absurd (List.mem_filter.1 kept).2 (by decide))
    refine ⟨before, there, one, others, fun all among => .inr ?_, fun kept attr among => ?_⟩
    · exact (all "id" among).symm.trans own
    · by_cases same : attr = "id"
      · subst same
        exact own.trans ((kept among).resolve_left star).symm
      · exact others attr among same

def newShells : PlacedStatement :=
  newProcesses "a"
    ("[\x7b\"id\": \"p1\", \"name\": \"cmd\"\x7d, " ++
      "\x7b\"id\": \"p2\", \"name\": \"sh\"\x7d]")
    [.obj [("id", .str "p1"), ("name", .str "cmd")], .obj [("id", .str "p2"), ("name", .str "sh")]]

/-- A hunt with two processes under `a`. -/
def shells : Hunt := ((start .standard Disk.empty).run epoch newShells).1

theorem reachable_shells : shells.Reachable := .run (.start _ _) _ _

theorem shells_eq : shells =
    (start .standard Disk.empty).withProcesses newShells
      [⟨"p1", Dict.ofList [("name", .str "cmd")]⟩, ⟨"p2", Dict.ofList [("name", .str "sh")]⟩] :=
  (run_of_current (.start _ _) epoch newShells rfl rfl rfl (by decide +kernel)
    (by decide +kernel)).1

/-- Leaves the identifier and one more attribute. -/
def withId (attr : String) : Refinement := ⟨none, some ["id", attr], none, none, none⟩

theorem refine_keeps_names :
    ∃ t result, shells.table "a" = .ok t ∧
      Table.refine .ascending t (withId "name") = .ok result ∧ result.ids = ["p1", "p2"] ∧
      ∀ row ∈ result.rows, ∃ before ∈ t.rows,
        ∀ attr ∈ ["id", "name"], row.valueOf attr = before.valueOf attr := by
  obtain ⟨t, result, held, made, ids, own⟩ : ∃ t result, shells.table "a" = .ok t ∧
      Table.refine .ascending t (withId "name") = .ok result ∧ result.ids = ["p1", "p2"] ∧
      ∀ row ∈ t.rows, row.valueOf "id" = .str row.id := by
    rw [shells_eq]
    refine ⟨_, _, rfl, rfl, rfl, List.forall_mem_cons.2 ⟨rfl, List.forall_mem_singleton.2 rfl⟩⟩
  refine ⟨t, result, held, made, ids, fun row member => ?_⟩
  obtain ⟨before, there, -, -, whole⟩ := refine_keeps reachable_shells held rfl made row member
  exact ⟨before, there, whole.2 (fun _ => .inr (own before there))⟩

def groupIds : PlacedStatement :=
  ⟨"g = GROUP a BY id", 1, 1, some "g", .group (some "a") ["id"] []⟩

/-- Groups by identifier hold the identifiers of their members, but not once `id` is asked for. -/
theorem refine_loses_id :
    ∃ t result, (shells.run epoch groupIds).1.Reachable ∧
      (shells.run epoch groupIds).1.table "g" = .ok t ∧
      Table.refine .ascending t (withId "count") = .ok result ∧
      ∃ row ∈ result.rows, ∃ before ∈ t.rows, before.id = row.id ∧
        before.valueOf "id" = .str "p1" ∧ row.valueOf "id" = .str row.id ∧ row.id ≠ "p1" := by
  have reached := reachable_shells
  rw [shells_eq] at reached ⊢
  have grouped := (run_of_current reached epoch groupIds rfl rfl rfl (by decide +kernel)
    (by decide +kernel)).1
  have next := reached.run epoch groupIds
  rw [grouped] at next ⊢
  exact ⟨_, _, next, rfl, rfl, _, .head _, _, .head _, rfl, rfl, rfl, by decide +kernel⟩

end Hunt
end ThreatHunt
