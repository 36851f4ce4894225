import Mathlib.Data.List.Induction
import Mathlib.Data.List.Nodup
import ThreatHunt.Proofs.Table.Merging
import ThreatHunt.Table.Basic

/-!
Unions of tables by identifier. The union has one row for each identifier, in the order in which
identifiers are first seen, and that row is merged from all rows with the identifier in turn. To
absorb a row is associative and idempotent, so it does not matter how the tables are grouped, and a
table whose rows have identifiers of their own is its union with itself.
-/

namespace ThreatHunt

namespace Table

/-- Rows that stand for sightings: one for each identifier, merged from its sightings in turn. -/
structure UnionOf (sightings rows : List Entity) : Prop where
  ids : rows.map Entity.id = Schema.distinct (sightings.map Entity.id)
  merged : ∀ row ∈ rows, ∃ first others,
    sightings.filter (fun e => e.id == row.id) = first :: others ∧ row.MergedFrom first others

theorem ids_mergeRow (e : Entity) (rows : List Entity) :
    (mergeRow e rows).map Entity.id =
      if (rows.map Entity.id).contains e.id then rows.map Entity.id
      else rows.map Entity.id ++ [e.id] := by
  induction rows with
  | nil => simp [mergeRow]
  | cons first rest ih =>
    unfold mergeRow
    by_cases same : first.id = e.id
    · have kept : (first.absorb e).id = first.id := rfl
      simp [same, kept]
    · have other : ¬e.id = first.id := fun this => same this.symm
      rw [if_neg same, List.map_cons, ih]
      by_cases later : e.id ∈ rest.map Entity.id
      · simp only [List.map_cons, List.contains_iff_mem.2 later, if_true]
        rw [if_pos (List.contains_iff_mem.2 (List.mem_cons_of_mem _ later))]
      · have nowhere : ¬e.id ∈ (first :: rest).map Entity.id := by
          rw [List.map_cons, List.mem_cons]
          rintro (this | this)
          · exact other this
          · exact later this
        rw [if_neg (by simpa using later), if_neg (by simpa using nowhere)]
        rfl

/-- A row after an entity was put in: it is as before, or it has absorbed the entity, or it is the
entity itself. -/
theorem mem_mergeRow {e row : Entity} {rows : List Entity}
    (distinct : (rows.map Entity.id).Nodup) (member : row ∈ mergeRow e rows) :
    (row ∈ rows ∧ row.id ≠ e.id) ∨ (∃ old ∈ rows, old.id = e.id ∧ row = old.absorb e) ∨
      (row = e ∧ e.id ∉ rows.map Entity.id) := by
  induction rows with
  | nil => exact .inr (.inr ⟨List.mem_singleton.1 member, List.not_mem_nil⟩)
  | cons first rest ih =>
    rw [List.map_cons, List.nodup_cons] at distinct
    obtain ⟨alone, later⟩ := distinct
    unfold mergeRow at member
    by_cases same : first.id = e.id
    · rw [if_pos same] at member
      rcases List.mem_cons.1 member with rfl | there
      · exact .inr (.inl ⟨first, List.mem_cons_self .., same, rfl⟩)
      · have other : row.id ≠ e.id := by
          intro this
          apply alone
          rw [same, ← this]
          exact List.mem_map_of_mem there
        exact .inl ⟨List.mem_cons_of_mem _ there, other⟩
    · rw [if_neg same] at member
      rcases List.mem_cons.1 member with rfl | there
      · exact .inl ⟨List.mem_cons_self .., same⟩
      · rcases ih later there with ⟨old, other⟩ | ⟨old, inside, known, made⟩ | ⟨made, new⟩
        · exact .inl ⟨List.mem_cons_of_mem _ old, other⟩
        · exact .inr (.inl ⟨old, List.mem_cons_of_mem _ inside, known, made⟩)
        · refine .inr (.inr ⟨made, ?_⟩)
          rw [List.map_cons, List.mem_cons]
          rintro (this | this)
          · exact same this.symm
          · exact new this

variable {sightings rows : List Entity}

theorem UnionOf.mergeRow (union : UnionOf sightings rows) (e : Entity) :
    UnionOf (sightings ++ [e]) (mergeRow e rows) where
  ids := by
    rw [ids_mergeRow, union.ids, List.map_append, List.map_singleton,
      Schema.distinct_append_singleton]
  merged := by
    intro row member
    have distinct : (rows.map Entity.id).Nodup := union.ids ▸ Schema.nodup_distinct _
    rw [List.filter_append]
    rcases mem_mergeRow distinct member with ⟨old, other⟩ | ⟨old, inside, same, rfl⟩ | ⟨rfl, new⟩
    · obtain ⟨first, others, all, merged⟩ := union.merged row old
      have apart : [e].filter (fun s => s.id == row.id) = [] := by simp [Ne.symm other]
      rw [all, apart, List.append_nil]
      exact ⟨first, others, rfl, merged⟩
    · obtain ⟨first, others, all, merged⟩ := union.merged old inside
      have together : [e].filter (fun s => s.id == (old.absorb e).id) = [e] := by
        have kept : (old.absorb e).id = old.id := rfl
        simp [kept, same]
      have earlier : sightings.filter (fun s => s.id == (old.absorb e).id) = first :: others := all
      rw [together, earlier]
      exact ⟨first, others ++ [e], rfl, merged.absorb (.self e)⟩
    · have unseen : sightings.filter (fun s => s.id == row.id) = [] := by
        refine List.filter_eq_nil_iff.2 ?_
        intro s there same
        apply new
        rw [union.ids, Schema.mem_distinct, ← beq_iff_eq.1 same]
        exact List.mem_map_of_mem there
      have itself : [row].filter (fun s => s.id == row.id) = [row] := by simp
      rw [unseen, itself]
      exact ⟨row, [], rfl, .self row⟩

theorem unionOf_mergeRows (sightings : List Entity) : UnionOf sightings (mergeRows sightings) := by
  induction sightings using List.reverseRecOn with
  | nil => exact ⟨rfl, fun _ none => absurd none List.not_mem_nil⟩
  | append_singleton sightings e ih =>
    rw [mergeRows, List.foldl_concat]
    exact ih.mergeRow e

theorem UnionOf.conformRows (union : UnionOf sightings rows) (schema : Schema) :
    UnionOf sightings (conformRows schema rows) where
  ids := by
    rw [← union.ids, Table.conformRows, List.map_map]
    rfl
  merged := by
    intro row member
    obtain ⟨before, there, rfl⟩ := List.mem_map.1 member
    obtain ⟨first, others, all, merged⟩ := union.merged before there
    exact ⟨first, others, all, merged.conformTo schema⟩

end Table

namespace Dict

variable {α : Type} {d other : Dict α}

theorem nodup_entries (d : Dict α) : d.entries.Nodup :=
  List.Pairwise.of_map Prod.fst (fun _ _ => ne_of_apply_ne Prod.fst)
    (List.pairwise_map.2 (d.sorted.imp Std.ne_of_lt))

/-- The entries of a name are what a look-up finds, so look-ups tell a dictionary. -/
theorem ext_find? (same : ∀ name, d.find? name = other.find? name) : d = other := by
  have members : ∀ e : String × α, e ∈ d.entries ↔ e ∈ other.entries := by
    intro e
    constructor
    · intro member
      exact mem_of_find? ((same e.1).symm.trans (find?_of_mem member))
    · intro member
      exact mem_of_find? ((same e.1).trans (find?_of_mem member))
  have perm : d.entries.Perm other.entries :=
    (List.perm_ext_iff_of_nodup d.nodup_entries other.nodup_entries).2 members
  have entries : d.entries = other.entries :=
    List.Perm.eq_of_pairwise (fun _ _ _ _ less more => absurd (Std.lt_trans less more) Std.lt_irrefl)
      d.sorted other.sorted perm
  cases d
  cases other
  cases entries
  rfl

theorem ofList_entries (d : Dict α) : ofList d.entries = d := by
  have distinct : (d.entries.map Prod.fst).Nodup :=
    List.pairwise_map.2 (d.sorted.imp Std.ne_of_lt)
  refine ext_find? (fun name => ?_)
  cases found : d.find? name with
  | some value => exact find?_ofList_of_mem distinct (mem_of_find? found)
  | none =>
    refine Option.not_isSome_iff_eq_none.1 (fun there => ?_)
    obtain ⟨e, member, same⟩ := contains_ofList.1 there
    rw [← same, find?_of_mem member] at found
    cases found

end Dict

namespace Entity

theorem ext_find? {e other : Entity} (id : e.id = other.id)
    (same : ∀ name, e.attributes.find? name = other.attributes.find? name) : e = other := by
  cases e
  cases other
  cases id
  exact congrArg _ (Dict.ext_find? same)

theorem absorb_assoc (a b c : Entity) : (a.absorb b).absorb c = a.absorb (b.absorb c) := by
  have id : ((a.absorb b).absorb c).id = (a.absorb (b.absorb c)).id := rfl
  apply ext_find? id
  intro name
  rw [find?_absorb, get_absorb, find?_absorb, find?_absorb, find?_absorb]
  by_cases missing : (a.get name).isNull
  · rw [if_pos missing, if_pos missing, if_pos missing]
    by_cases missing' : (b.get name).isNull
    · rw [if_pos missing', if_pos missing', Option.or_assoc]
    · rw [if_neg missing', if_neg missing']
  · rw [if_neg missing, if_neg missing, if_neg missing, if_neg missing]

theorem absorb_self (e : Entity) : e.absorb e = e := by
  have id : (e.absorb e).id = e.id := rfl
  apply ext_find? id
  intro name
  rw [find?_absorb, Option.or_self, ite_self]

/-- The sightings of one entity, absorbed by the first one after the other. -/
def combine : List Entity → Option Entity
  | [] => none
  | first :: others => some (others.foldl absorb first)

theorem combine_concat (es : List Entity) (e : Entity) :
    combine (es ++ [e]) = some ((combine es).elim e (fun first => first.absorb e)) := by
  cases es with
  | nil => rfl
  | cons first others => simp [combine]

theorem foldl_absorb (first next : Entity) (others : List Entity) :
    others.foldl absorb (first.absorb next) = first.absorb (others.foldl absorb next) := by
  induction others generalizing next with
  | nil => rfl
  | cons other rest ih => rw [List.foldl_cons, absorb_assoc, ih, List.foldl_cons]

/-- Sightings may be combined before they are absorbed. -/
theorem combine_append_combine (es others : List Entity) :
    combine (es ++ (combine others).toList) = combine (es ++ others) := by
  cases others with
  | nil => rfl
  | cons next rest =>
    cases es with
    | nil => rfl
    | cons first before => simp [combine, foldl_absorb]

/-- Sightings that were absorbed once add nothing. -/
theorem combine_append_self (es : List Entity) : combine (es ++ es) = combine es := by
  cases es with
  | nil => rfl
  | cons first others =>
    have again : ∀ row : Entity, (first :: others).foldl absorb row =
        row.absorb (others.foldl absorb first) := by
      intro row
      rw [List.foldl_cons, foldl_absorb]
    have split : combine (first :: others ++ first :: others) =
        some ((first :: others).foldl absorb (others.foldl absorb first)) := by
      rw [List.cons_append, combine, List.foldl_append]
    rw [split, again, absorb_self, combine]

/-- What sightings are combined to has the first value of each attribute that is not null, and the
attributes of all of them. -/
theorem of_combine {es : List Entity} {row : Entity} (combined : combine es = some row)
    (name : String) :
    row.get name = Value.firstOf (es.map (fun e => e.get name)) ∧
      (row.attributes.contains name = true ↔
        ∃ e ∈ es, e.attributes.contains name = true) := by
  induction es using List.reverseRecOn generalizing row with
  | nil => nomatch combined
  | append_singleton es e ih =>
    rw [combine_concat] at combined
    cases earlier : combine es with
    | none =>
      have nothing : es = [] := by
        cases es with
        | nil => rfl
        | cons => nomatch earlier
      rw [earlier] at combined
      cases combined
      rw [nothing]
      exact ⟨(MergedFrom.self e).values name, by simp⟩
    | some first =>
      obtain ⟨values, names⟩ := ih earlier
      rw [earlier] at combined
      cases combined
      constructor
      · have last : Value.firstOf [e.get name] = e.get name := ((MergedFrom.self e).values name).symm
        rw [Option.elim_some, get_absorb, values, List.map_append, Value.firstOf_append,
          List.map_singleton, last]
      · rw [Option.elim_some, contains_absorb, names]
        simp [or_and_right, exists_or]

end Entity

namespace Table

open Entity (combine)

variable {rows others : List Entity}

/-- The first row with an identifier. -/
def rowOf? (rows : List Entity) (id : String) : Option Entity := rows.find? (fun r => r.id == id)

theorem rowOf?_mergeRow (e : Entity) (rows : List Entity) (id : String) :
    rowOf? (mergeRow e rows) id =
      if e.id = id then some ((rowOf? rows id).elim e (fun first => first.absorb e))
      else rowOf? rows id := by
  induction rows with
  | nil =>
    by_cases own : e.id = id
    · simp [mergeRow, rowOf?, own]
    · simp [mergeRow, rowOf?, own]
  | cons first rest ih =>
    rw [mergeRow]
    by_cases same : first.id = e.id
    · have kept : (first.absorb e).id = e.id := same
      rw [if_pos same]
      by_cases own : e.id = id
      · simp [rowOf?, same, own, kept]
      · simp [rowOf?, same, own, kept]
    · rw [if_neg same]
      unfold rowOf? at ih ⊢
      by_cases here : first.id = id
      · have other : ¬e.id = id := fun own => same (here.trans own.symm)
        simp [here, other]
      · simpa [here] using ih

/-- Merged rows are told by their identifiers: each has absorbed the sightings with its own. -/
theorem rowOf?_mergeRows (rows : List Entity) (id : String) :
    rowOf? (mergeRows rows) id = combine (rows.filter (fun e => e.id == id)) := by
  induction rows using List.reverseRecOn with
  | nil => rfl
  | append_singleton rows e ih =>
    rw [mergeRows, List.foldl_concat, rowOf?_mergeRow, ← mergeRows, ih, List.filter_append]
    by_cases own : e.id = id
    · have last : [e].filter (fun e => e.id == id) = [e] := by simp [own]
      rw [if_pos own, last, Entity.combine_concat]
    · have last : [e].filter (fun e => e.id == id) = [] := by simp [own]
      rw [if_neg own, last, List.append_nil]

theorem ids_mergeRows (rows : List Entity) :
    (mergeRows rows).map Entity.id = (rows.map Entity.id).eraseDups := by
  rw [(unionOf_mergeRows rows).ids, Schema.distinct_eq_eraseDups]

theorem nodup_mergeRows (rows : List Entity) : ((mergeRows rows).map Entity.id).Nodup :=
  ids_mergeRows rows ▸ Firsts.nodup_eraseDups _

theorem rowOf?_of_mem (distinct : (rows.map Entity.id).Nodup) {row : Entity}
    (member : row ∈ rows) : rowOf? rows row.id = some row :=
  Keyed.find?_eq_some distinct member (fun _ _ => beq_iff_eq)

theorem eq_filterMap_rowOf? (distinct : (rows.map Entity.id).Nodup) :
    rows = (rows.map Entity.id).filterMap (rowOf? rows) := by
  rw [List.filterMap_map]
  calc rows
    _ = rows.filterMap some := List.filterMap_some.symm
    _ = rows.filterMap (rowOf? rows ∘ Entity.id) :=
      List.filterMap_congr (fun _ member => (rowOf?_of_mem distinct member).symm)

/-- Of rows that have identifiers of their own one at most has a given one. -/
theorem filter_id (distinct : (rows.map Entity.id).Nodup) (id : String) :
    rows.filter (fun e => e.id == id) = (rowOf? rows id).toList := by
  cases here : rowOf? rows id with
  | none => exact List.filter_eq_nil_iff.2 (List.find?_eq_none.1 here)
  | some row =>
    have member : row ∈ rows := List.mem_of_find?_eq_some here
    have found := List.find?_some here
    have own : row.id = id := beq_iff_eq.1 found
    apply List.perm_singleton.1
    apply (List.perm_ext_iff_of_nodup ((distinct.of_map _).filter _) (List.nodup_singleton _)).2
    intro e
    rw [List.mem_filter, List.mem_singleton, beq_iff_eq]
    constructor
    · rintro ⟨there, same⟩
      exact Keyed.eq_of_key distinct there member (same.trans own.symm)
    · rintro rfl
      exact ⟨member, own⟩

/-- Merged rows depend on the identifiers in their order and on what has each of them. -/
theorem mergeRows_congr
    (ids : (rows.map Entity.id).eraseDups = (others.map Entity.id).eraseDups)
    (each : ∀ id, combine (rows.filter (fun e => e.id == id)) =
      combine (others.filter (fun e => e.id == id))) : mergeRows rows = mergeRows others := by
  have found : rowOf? (mergeRows rows) = rowOf? (mergeRows others) := by
    funext id
    rw [rowOf?_mergeRows, rowOf?_mergeRows, each]
  rw [eq_filterMap_rowOf? (nodup_mergeRows rows), eq_filterMap_rowOf? (nodup_mergeRows others),
    ids_mergeRows, ids_mergeRows, ids, found]

/-- Rows that have identifiers of their own stay as they are. -/
theorem mergeRows_of_distinct (distinct : (rows.map Entity.id).Nodup) : mergeRows rows = rows := by
  have found : rowOf? (mergeRows rows) = rowOf? rows := by
    funext id
    rw [rowOf?_mergeRows, filter_id distinct]
    cases rowOf? rows id <;> rfl
  rw [eq_filterMap_rowOf? (nodup_mergeRows rows), ids_mergeRows, found,
    Firsts.eraseDups_of_nodup distinct, ← eq_filterMap_rowOf? distinct]

/-- What rows are merged to is all that matters for the rows behind them. -/
theorem mergeRows_append_congr (same : mergeRows rows = mergeRows others) (more : List Entity) :
    mergeRows (rows ++ more) = mergeRows (others ++ more) := by
  have folded : ∀ front : List Entity, mergeRows (front ++ more) =
      more.foldl (fun merged row => mergeRow row merged) (mergeRows front) :=
    fun front => List.foldl_append
  rw [folded, folded, same]

/-- Rows may be merged before they are merged into others. -/
theorem mergeRows_append_mergeRows (rows others : List Entity) :
    mergeRows (rows ++ mergeRows others) = mergeRows (rows ++ others) := by
  apply mergeRows_congr
  · rw [List.map_append, List.map_append, ids_mergeRows, Firsts.eraseDups_append_eraseDups]
  · intro id
    have merged : (mergeRows others).filter (fun e => e.id == id) =
        (combine (others.filter (fun e => e.id == id))).toList := by
      rw [filter_id (nodup_mergeRows others), rowOf?_mergeRows]
    rw [List.filter_append, List.filter_append, merged, Entity.combine_append_combine]

/-- A table with the rows of a union stands for the tables that were united. -/
theorem unionRows_replaced {group : List Table} {t : Table} (united : t.rows = unionRows group)
    (front back : List Table) :
    unionRows (front ++ t :: back) = unionRows (front ++ group ++ back) := by
  have rows : (front ++ t :: back).flatMap Table.rows =
      front.flatMap Table.rows ++ mergeRows (group.flatMap Table.rows) ++
        back.flatMap Table.rows := by
    rw [List.flatMap_append, List.flatMap_cons, united, unionRows, List.append_assoc]
  have rows' : (front ++ group ++ back).flatMap Table.rows =
      front.flatMap Table.rows ++ group.flatMap Table.rows ++ back.flatMap Table.rows := by
    rw [List.flatMap_append, List.flatMap_append]
  rw [unionRows, unionRows, rows, rows']
  exact mergeRows_append_congr (mergeRows_append_mergeRows _ _) _

/-- Sightings of all identifiers a second time add nothing. -/
theorem mergeRows_append_self (rows : List Entity) : mergeRows (rows ++ rows) = mergeRows rows := by
  apply mergeRows_congr
  · rw [List.map_append, Firsts.eraseDups_append_self]
  · intro id
    rw [List.filter_append, Entity.combine_append_self]

/-- The union of tables has each identifier once, in the order in which identifiers are first seen,
and under it the first value of each attribute that is not null among the rows that have the
identifier. Tables may be united in groups first, and a table is its union with itself just if its
rows have identifiers of their own. -/
theorem unionRows_algebra :
    (∀ tables : List Table,
      (unionRows tables).map Entity.id = (tables.flatMap ids).eraseDups ∧
      ((unionRows tables).map Entity.id).Nodup ∧
      ∀ row ∈ unionRows tables, ∀ name,
        let sightings := (tables.flatMap Table.rows).filter (fun e => e.id == row.id)
        row.get name = Value.firstOf (sightings.map (fun e => e.get name)) ∧
          (row.attributes.contains name = true ↔
            ∃ e ∈ sightings, e.attributes.contains name = true)) ∧
    (∀ (front group back : List Table) (t : Table), t.rows = unionRows group →
      unionRows (front ++ t :: back) = unionRows (front ++ group ++ back)) ∧
    ∀ t : Table, unionRows [t, t] = t.rows ↔ t.ids.Nodup := by
  refine ⟨?_, ?_, ?_⟩
  · intro tables
    have distinct := nodup_mergeRows (tables.flatMap Table.rows)
    refine ⟨?_, distinct, ?_⟩
    · rw [unionRows, ids_mergeRows, List.map_flatMap]
      rfl
    · intro row member name sightings
      have combined : combine sightings = some row := by
        rw [← rowOf?_mergeRows]
        exact rowOf?_of_mem distinct member
      exact Entity.of_combine combined name
  · intro front group back t united
    exact unionRows_replaced united front back
  · intro t
    have twice : unionRows [t, t] = mergeRows t.rows := by
      rw [unionRows, List.flatMap_cons, List.flatMap_singleton, mergeRows_append_self]
    rw [twice]
    constructor
    · intro same
      have distinct := nodup_mergeRows t.rows
      rwa [same] at distinct
    · exact mergeRows_of_distinct

/-- Three tables that know one process: the second gives what is null in the first, and the third
what neither has. -/
theorem unionRows_algebra_completed :
    let row := fun attributes => Entity.mk "p1" (Dict.ofList attributes)
    let table := fun rows => Table.ofRows "process" rows
    let a := table [row [("name", .str "cmd"), ("pid", .null)]]
    let b := table [⟨"p2", Dict.empty⟩, row [("name", .str "sh"), ("pid", .int 4)]]
    let c := table [row [("pid", .int 8), ("user", .null)]]
    let ab := table (unionRows [a, b])
    unionRows [ab, c] = unionRows [a, b, c] ∧ (unionRows [a, b, c]).map Entity.id = ["p1", "p2"] ∧
      (unionRows [a, b, c]).map (fun e => e.attributes.entries) =
        [[("name", .str "cmd"), ("pid", .int 4), ("user", .null)], []] ∧
      unionRows [ab, ab] = ab.rows := by
  intro row table a b c ab
  have united : ab.rows = unionRows [a, b] := rfl
  have distinct : ab.ids.Nodup := by decide
  refine ⟨?_, by decide, rfl, ?_⟩
  · exact unionRows_algebra.2.1 [] [a, b] [c] ab united
  · exact (unionRows_algebra.2.2 ab).2 distinct

end Table
end ThreatHunt
