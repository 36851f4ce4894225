import Mathlib.Data.List.Induction
import Mathlib.Data.List.Nodup
import ThreatHunt.Fetch.Exchange
import ThreatHunt.Proofs.Table.Merging

/-!
Rows of a fetch are different entities. Their identifiers always differ. Their keys differ as long
as no later sighting completes what identifies an earlier one: a row is looked up by the key under
which it was first seen, and completion can give it another.
-/

namespace ThreatHunt

namespace Entity

/-- The identifying attributes that an entity has. -/
def identity (entityType : String) (e : Entity) : List (String × Value) :=
  ((identityAttributes entityType).map (fun name => (name, e.get name))).filter
    (fun named => !named.2.isNull)

/-- The texts of the parts of a key. -/
def partTexts (named : List (String × Value)) : List String :=
  named.map (fun e => e.1 ++ "=" ++ e.2.render)

theorem filter_named (names : List String) (e : Entity) :
    (names.filterMap (fun name => (e.attributes.find? name).map (fun v => (name, v)))).filter
        (fun named => !named.2.isNull) =
      (names.map (fun name => (name, e.get name))).filter (fun named => !named.2.isNull) := by
  induction names with
  | nil => rfl
  | cons name rest ih =>
    cases found : e.attributes.find? name with
    | none =>
      have missing : (e.get name).isNull = true := by simp [get, found, Value.isNull]
      simp [found, missing, ih]
    | some v =>
      have here : e.get name = v := by simp [get, found]
      simp [found, here, ih, List.filter_cons]

/-- The key tells of the identifying attributes that are there, or else of the identifier. -/
theorem dedupKey_eq (entityType : String) (e : Entity) :
    e.dedupKey entityType =
      if e.identity entityType = [] then "id=" ++ e.id
      else "|".intercalate (partTexts (e.identity entityType)) := by
  have named := filter_named (identityAttributes entityType) e
  have all : ∀ es : List (String × Value),
      es.all (fun e => e.2.isNull) = true ↔ es.filter (fun e => !e.2.isNull) = [] := by
    intro es
    simp [List.filter_eq_nil_iff]
  unfold dedupKey naturalKey? keyText identity
  simp only [all, named, partTexts]
  split <;> rfl

theorem identity_congr {entityType : String} {e f : Entity}
    (same : ∀ name ∈ identityAttributes entityType, e.get name = f.get name) :
    e.identity entityType = f.identity entityType := by
  unfold identity
  rw [List.map_congr_left (fun name member => by rw [same name member])]

theorem dedupKey_congr {entityType : String} {e f : Entity} (id : e.id = f.id)
    (same : ∀ name ∈ identityAttributes entityType, e.get name = f.get name) :
    e.dedupKey entityType = f.dedupKey entityType := by
  rw [dedupKey_eq, dedupKey_eq, identity_congr same, id]

theorem dedupKey_conformTo (entityType : String) (schema : Schema) (e : Entity) :
    (e.conformTo schema).dedupKey entityType = e.dedupKey entityType :=
  dedupKey_congr rfl (fun name _ => get_conformTo schema e name)

/-- Two sightings that are taken for one entity. -/
def SameThing (entityType : String) (e f : Entity) : Prop :=
  e.id = f.id ∨ e.dedupKey entityType = f.dedupKey entityType

/-- Whether a sighting has an identifying attribute that another lacks. -/
def Completes (entityType : String) (f e : Entity) : Prop :=
  ∃ name ∈ identityAttributes entityType, (e.get name).isNull = true ∧ (f.get name).isNull = false

instance (entityType : String) (e f : Entity) : Decidable (SameThing entityType e f) :=
  inferInstanceAs (Decidable (_ ∨ _))

instance (entityType : String) (f e : Entity) : Decidable (Completes entityType f e) :=
  inferInstanceAs (Decidable (∃ name ∈ identityAttributes entityType,
    (e.get name).isNull = true ∧ (f.get name).isNull = false))

theorem get_absorb_of_not_completes {entityType : String} {e f : Entity}
    (settled : ¬f.Completes entityType e) {name : String}
    (member : name ∈ identityAttributes entityType) : (e.absorb f).get name = e.get name := by
  rw [get_absorb]
  split
  · rename_i missing
    cases gone : (f.get name).isNull with
    | true => rw [Value.eq_null_of_isNull missing, Value.eq_null_of_isNull gone]
    | false => exact absurd ⟨name, member, missing, gone⟩ settled
  · rfl

end Entity

namespace Merge

variable {entityType : String}

/-- Rows that were first seen under different keys and have different identifiers. -/
structure Distinct (rows : List KeyedRow) : Prop where
  keys : (rows.map Prod.fst).Nodup
  ids : (rows.map (fun r => r.2.id)).Nodup

theorem Distinct.push {rows : List KeyedRow} (distinct : Distinct rows) (e : Entity) :
    Distinct (push entityType rows e) := by
  have pushed := pushed entityType rows e
  generalize Merge.push entityType rows e = after at pushed ⊢
  cases pushed with
  | absorbed found =>
    have kept : ∀ r : KeyedRow, (if found r then (r.1, r.2.absorb e) else r).1 = r.1 ∧
        (if found r then (r.1, r.2.absorb e) else r).2.id = r.2.id := by
      intro r
      split <;> exact ⟨rfl, rfl⟩
    have keys : (absorbInto found e rows).map Prod.fst = rows.map Prod.fst := by
      rw [absorbInto, List.map_map]
      exact List.map_congr_left (fun r _ => (kept r).1)
    have ids : (absorbInto found e rows).map (fun r => r.2.id) = rows.map (fun r => r.2.id) := by
      rw [absorbInto, List.map_map]
      exact List.map_congr_left (fun r _ => (kept r).2)
    exact ⟨keys ▸ distinct.keys, ids ▸ distinct.ids⟩
  | added newKey newId =>
    refine ⟨?_, ?_⟩
    · rw [List.map_append, List.nodup_append]
      refine ⟨distinct.keys, List.nodup_singleton _, fun key old other new => ?_⟩
      obtain ⟨r, there, rfl⟩ := List.mem_map.1 old
      exact List.mem_singleton.1 new ▸ newKey r there
    · rw [List.map_append, List.nodup_append]
      refine ⟨distinct.ids, List.nodup_singleton _, fun id old other new => ?_⟩
      obtain ⟨r, there, rfl⟩ := List.mem_map.1 old
      exact List.mem_singleton.1 new ▸ newId r there

theorem distinct_foldl (entities : List Entity) :
    Distinct (entities.foldl (push entityType) []) :=
  List.foldlRecOn entities _ ⟨List.nodup_nil, List.nodup_nil⟩ (fun _ distinct e _ => distinct.push e)

/-- A row that an entity began, and that still has its identifier and what identifies it. -/
structure Begun (entityType : String) (r : KeyedRow) (e : Entity) : Prop where
  key : r.1 = e.dedupKey entityType
  id : r.2.id = e.id
  identity : ∀ name ∈ identityAttributes entityType, r.2.get name = e.get name

/-- Whether no later sighting of an entity completes what identifies it. -/
def Settled (entityType : String) (entities : List Entity) : Prop :=
  entities.Pairwise (fun e f => e.SameThing entityType f → ¬f.Completes entityType e)

instance (entities : List Entity) : Decidable (Settled entityType entities) :=
  inferInstanceAs (Decidable (entities.Pairwise _))

theorem begun_foldl {entities : List Entity} (settled : Settled entityType entities) :
    ∀ r ∈ entities.foldl (push entityType) [], ∃ e ∈ entities, Begun entityType r e := by
  induction entities using List.reverseRecOn with
  | nil => exact fun _ member => absurd member List.not_mem_nil
  | append_singleton before e ih =>
    obtain ⟨earlier, _, across⟩ := List.pairwise_append.1 settled
    rw [List.foldl_concat]
    have old := ih earlier
    generalize before.foldl (push entityType) [] = rows at old ⊢
    have pushed := pushed entityType rows e
    generalize push entityType rows e = after at pushed ⊢
    intro r member
    cases pushed with
    | absorbed found same =>
      obtain ⟨row, there, either⟩ := mem_absorbInto member
      obtain ⟨first, began, begun⟩ := old row there
      refine ⟨first, List.mem_append_left _ began, ?_⟩
      rcases either with ⟨here, rfl⟩ | rfl
      · -- What is absorbed is another sighting of the entity that began the row.
        have sighted : first.SameThing entityType e :=
          (same row there here).elim (fun key => .inr (begun.key.symm.trans key))
            (fun id => .inl (begun.id.symm.trans id))
        have incomplete : ¬e.Completes entityType row.2 := by
          rintro ⟨name, identifies, missing, given⟩
          exact across first began e (List.mem_singleton_self e) sighted
            ⟨name, identifies, begun.identity name identifies ▸ missing, given⟩
        exact ⟨begun.key, begun.id, fun name identifies =>
          (Entity.get_absorb_of_not_completes incomplete identifies).trans
            (begun.identity name identifies)⟩
      · exact begun
    | added =>
      rcases List.mem_append.1 member with there | this
      · obtain ⟨first, began, begun⟩ := old r there
        exact ⟨first, List.mem_append_left _ began, begun⟩
      · rw [List.mem_singleton.1 this]
        exact ⟨e, List.mem_append_right _ (List.mem_singleton_self e), rfl, rfl, fun _ _ => rfl⟩

theorem ids_rows (entities : List Entity) : ((rows entityType entities).map Entity.id).Nodup := by
  rw [rows, List.map_map]
  exact (distinct_foldl entities).ids

theorem dedupKeys_rows {entities : List Entity} (settled : Settled entityType entities) :
    ((rows entityType entities).map (Entity.dedupKey entityType)).Nodup := by
  have first : ∀ r ∈ entities.foldl (push entityType) [],
      (Entity.dedupKey entityType ∘ Prod.snd) r = r.1 := by
    intro r member
    obtain ⟨e, _, begun⟩ := begun_foldl settled r member
    exact (Entity.dedupKey_congr begun.id begun.identity).trans begun.key.symm
  rw [rows, List.map_map, List.map_congr_left first]
  exact (distinct_foldl entities).keys

end Merge

/-! A completed sighting has a longer key, under which no row was seen yet. -/

namespace Entity

/-- The number of characters of texts, with one more for each text. -/
def totalLength : List String → Nat
  | [] => 0
  | text :: rest => text.length + 1 + totalLength rest

theorem length_intercalate {texts : List String} (some : texts ≠ []) :
    ("|".intercalate texts).length + 1 = totalLength texts := by
  have chars : ∀ rest : List String, ∀ first : String,
      (['|'].intercalate ((first :: rest).map String.toList)).length + 1 =
        totalLength (first :: rest) := by
    intro rest
    induction rest with
    | nil => simp [totalLength, String.length_toList]
    | cons next others ih =>
      intro first
      have later := ih next
      simp only [totalLength, List.map_cons, List.intercalate_cons_cons,
        List.length_append, List.length_singleton, String.length_toList] at later ⊢
      omega
  obtain ⟨first, rest, rfl⟩ := List.exists_cons_of_ne_nil some
  rw [← chars rest first, ← String.length_toList, String.toList_intercalate]
  rfl

/-- The parts of a key that come from certain attributes. -/
def partsOf (names : List String) (e : Entity) : List String :=
  partTexts ((names.map (fun name => (name, e.get name))).filter (fun named => !named.2.isNull))

theorem partsOf_cons (name : String) (rest : List String) (e : Entity) :
    partsOf (name :: rest) e =
      if (e.get name).isNull then partsOf rest e
      else (name ++ "=" ++ (e.get name).render) :: partsOf rest e := by
  cases missing : (e.get name).isNull <;> simp [partsOf, partTexts, missing]

theorem totalLength_partsOf_absorb_le (names : List String) (e f : Entity) :
    totalLength (partsOf names e) ≤ totalLength (partsOf names (e.absorb f)) := by
  induction names with
  | nil => exact Nat.le_refl _
  | cons name rest ih =>
    rw [partsOf_cons, partsOf_cons, get_absorb]
    by_cases missing : (e.get name).isNull
    · rw [if_pos missing, if_pos missing]
      split
      · exact ih
      · simp only [totalLength] at ih ⊢
        omega
    · rw [if_neg missing, if_neg missing, if_neg missing]
      simp only [totalLength] at ih ⊢
      omega

theorem totalLength_partsOf_absorb_lt {names : List String} {e f : Entity}
    (completes : ∃ name ∈ names, (e.get name).isNull = true ∧ (f.get name).isNull = false) :
    totalLength (partsOf names e) < totalLength (partsOf names (e.absorb f)) := by
  induction names with
  | nil =>
    obtain ⟨name, member, _⟩ := completes
    exact absurd member List.not_mem_nil
  | cons name rest ih =>
    have no_less := totalLength_partsOf_absorb_le rest e f
    rw [partsOf_cons, partsOf_cons, get_absorb]
    by_cases missing : (e.get name).isNull
    · rw [if_pos missing, if_pos missing]
      by_cases gone : (f.get name).isNull
      · rw [if_pos gone]
        refine ih ?_
        obtain ⟨other, member, lacks, given⟩ := completes
        rcases List.mem_cons.1 member with rfl | later
        · rw [gone] at given
          nomatch given
        · exact ⟨other, later, lacks, given⟩
      · rw [if_neg gone]
        simp only [totalLength] at no_less ⊢
        omega
    · have later := ih (by
        obtain ⟨other, member, lacks, given⟩ := completes
        rcases List.mem_cons.1 member with rfl | later
        · exact absurd lacks missing
        · exact ⟨other, later, lacks, given⟩)
      rw [if_neg missing, if_neg missing, if_neg missing]
      simp only [totalLength] at later ⊢
      omega

/-- No key that tells of attributes begins like one that tells of the identifier. -/
theorem head_of_identityAttributes {entityType name : String}
    (member : name ∈ identityAttributes entityType) :
    ∃ c rest, name.toList = c :: rest ∧ c ≠ 'i' := by
  have listed : name ∈ ["pid", "name", "path", "value", "user_id", "key"] := by
    unfold identityAttributes at member
    split_ifs at member <;> simp_all
    all_goals tauto
  have heads : ∀ name ∈ ["pid", "name", "path", "value", "user_id", "key"],
      name.toList ≠ [] ∧ name.toList.head? ≠ some 'i' := by decide
  obtain ⟨some, head⟩ := heads name listed
  obtain ⟨c, rest, chars⟩ := List.exists_cons_of_ne_nil some
  exact ⟨c, rest, chars, fun same => head (by rw [chars, same, List.head?_cons])⟩

theorem identity_ne_nil_of_completes {entityType : String} {e f : Entity}
    (completes : f.Completes entityType e) : (e.absorb f).identity entityType ≠ [] := by
  obtain ⟨name, member, missing, given⟩ := completes
  have there : ((e.absorb f).get name).isNull = false := by rw [get_absorb, if_pos missing, given]
  exact List.ne_nil_of_mem (List.mem_filter.2 ⟨List.mem_map_of_mem member, by simp [there]⟩)

theorem dedupKey_absorb_ne {entityType : String} {e f : Entity}
    (completes : f.Completes entityType e) :
    (e.absorb f).dedupKey entityType ≠ e.dedupKey entityType := by
  have there := identity_ne_nil_of_completes completes
  rw [dedupKey_eq, dedupKey_eq, if_neg there]
  split
  · obtain ⟨first, rest, all⟩ := List.exists_cons_of_ne_nil there
    have member : first ∈ (e.absorb f).identity entityType := by simp [all]
    obtain ⟨name, identifies, rfl⟩ := List.mem_map.1 (List.mem_of_mem_filter member)
    obtain ⟨c, more, chars, other⟩ := head_of_identityAttributes identifies
    intro same
    have heads := congrArg (fun text => text.toList.head?) same
    rw [all] at heads
    cases rest <;>
      simp [partTexts, String.toList_intercalate, chars] at heads <;> exact other heads
  · rename_i known
    have less := totalLength_partsOf_absorb_lt completes
    intro same
    have lengths : totalLength (partTexts ((e.absorb f).identity entityType)) =
        totalLength (partTexts (e.identity entityType)) := by
      rw [← length_intercalate (by simpa [partTexts] using there),
        ← length_intercalate (by simpa [partTexts] using known), same]
    exact absurd lengths (Nat.ne_of_gt less)

end Entity

namespace Merge

/-- Wherever a sighting completes what identifies an earlier one, a third sighting with an identifier
of its own makes a second row with the same key. -/
theorem rows_of_completes {entityType : String} {e f : Entity}
    (same : e.SameThing entityType f) (completes : f.Completes entityType e) {id : String}
    (other : id ≠ e.id) :
    rows entityType [e, f, { e.absorb f with id := id }] =
        [e.absorb f, { e.absorb f with id := id }] ∧
      ({ e.absorb f with id := id } : Entity).dedupKey entityType =
        (e.absorb f).dedupKey entityType := by
  have key : ({ e.absorb f with id := id } : Entity).dedupKey entityType =
      (e.absorb f).dedupKey entityType := by
    have there := Entity.identity_ne_nil_of_completes completes
    have identity : ({ e.absorb f with id := id } : Entity).identity entityType =
        (e.absorb f).identity entityType := rfl
    rw [Entity.dedupKey_eq, Entity.dedupKey_eq, identity, if_neg there, if_neg there]
  refine ⟨?_, key⟩
  have one : push entityType [] e = [(e.dedupKey entityType, e)] := rfl
  have two : push entityType [(e.dedupKey entityType, e)] f =
      [(e.dedupKey entityType, e.absorb f)] := by
    by_cases keys : e.dedupKey entityType = f.dedupKey entityType
    · simp [push, absorbInto, keys]
    · have ids := same.resolve_right keys
      simp [push, absorbInto, keys, ids]
  have three : push entityType [(e.dedupKey entityType, e.absorb f)]
      { e.absorb f with id := id } =
      [(e.dedupKey entityType, e.absorb f),
        ((e.absorb f).dedupKey entityType, { e.absorb f with id := id })] := by
    have newKey := (Entity.dedupKey_absorb_ne completes).symm
    have newId : (e.absorb f).id ≠ id := fun this => other this.symm
    simp [push, key, newKey, newId]
  simp only [rows, List.foldl_cons, List.foldl_nil, one, two, three, List.map_cons, List.map_nil]

end Merge

/-- A connector that answers every query with the same entities. -/
def Connector.answering (name : String) (types : List String) (entities : List Entity) :
    Connector :=
  { name := name
    capabilities := .ofTypes types
    client := { answer := fun _ _ => .given ⟨entities, []⟩, relate := fun _ _ => .given [] } }

namespace Exchange

/-- The entities in the answers of connectors that match a query, in the order of the connectors. -/
def sightings (timeAttributes : List String) (now patience : Nat) (q : EntityQuery)
    (connectors : List Connector) (x : Exchange) : List Entity :=
  Merge.sightings timeAttributes q (x.ask now patience q connectors).2

/-- Whatever connectors answer, no two rows of a fetch have the same identifier, and no two have the
same key if no sighting completes what identifies an earlier sighting of the same entity. -/
theorem fetch_distinct (timeAttributes : List String) (now patience : Nat) (q : EntityQuery)
    (connectors : List Connector) (x : Exchange) :
    (((x.fetch timeAttributes now patience q connectors).2.table.rows).map Entity.id).Nodup ∧
      (Merge.Settled q.entityType (x.sightings timeAttributes now patience q connectors) →
        (((x.fetch timeAttributes now patience q connectors).2.table.rows).map
          (Entity.dedupKey q.entityType)).Nodup) := by
  obtain ⟨schema, merged, taken, all⟩ :=
    Merge.replies_rows timeAttributes q (x.ask now patience q connectors).2
  have rows : (x.fetch timeAttributes now patience q connectors).2.table.rows =
      merged.map (Entity.conformTo schema) := all
  have ids : (merged.map (Entity.conformTo schema)).map Entity.id = merged.map Entity.id := by
    rw [List.map_map]
    rfl
  have keys : (merged.map (Entity.conformTo schema)).map (Entity.dedupKey q.entityType) =
      merged.map (Entity.dedupKey q.entityType) := by
    rw [List.map_map]
    exact List.map_congr_left (fun e _ => Entity.dedupKey_conformTo q.entityType schema e)
  rw [rows, ids, keys]
  exact ⟨(Merge.ids_rows _).sublist (taken.map Entity.id),
    fun settled => (Merge.dedupKeys_rows settled).sublist (taken.map _)⟩

/-- A file that goes by a name. -/
def fileNamed (id name : String) : Entity := ⟨id, Dict.ofList [("name", .str name)]⟩

/-- The second sighting lacks the name that identifies the first. -/
theorem fetch_distinct_repeated_id :
    let connectors : List Connector :=
      [.answering "edr" ["file"] [fileNamed "f1" "a.exe"],
        .answering "fim" ["file"] [⟨"f1", .empty⟩],
        .answering "siem" ["file"] [fileNamed "f2" "b.exe"]]
    let rows := ((empty 1000 8).fetch [] 0 1000 ⟨"file", none, none, none⟩ connectors).2.table.rows
    rows.map Entity.id = ["f1", "f2"] ∧ (rows.map (Entity.dedupKey "file")).Nodup :=
  ⟨by decide +kernel, (fetch_distinct [] 0 1000 ⟨"file", none, none, none⟩ _ _).2 (by decide +kernel)⟩

/-- A file is seen first without a name, then under the name of another: both rows have its key. -/
theorem fetch_repeats_key :
    let connectors : List Connector :=
      [.answering "edr" ["file"] [⟨"f1", .empty⟩],
        .answering "fim" ["file"] [fileNamed "f1" "a.exe"],
        .answering "siem" ["file"] [fileNamed "f2" "a.exe"]]
    let rows := ((empty 1000 8).fetch [] 0 1000 ⟨"file", none, none, none⟩ connectors).2.table.rows
    rows.map Entity.id = ["f1", "f2"] ∧ ¬(rows.map (Entity.dedupKey "file")).Nodup := by
  decide +kernel

end Exchange
end ThreatHunt
