import ThreatHunt.Proofs.Storage.Tables
import ThreatHunt.Proofs.Table.Relations

/-!
The history of a store. Whatever tables are made, filled and dropped, and whatever edges are
recorded in between, the rows of a table have identifiers of their own, all of them in its index,
and a value under every column; no handle is given out twice; and a call that fails has changed
neither tables nor edges.
-/

namespace ThreatHunt

namespace StoredTable

/-- What holds of a table that was filled through the store only. -/
structure Coherent (t : StoredTable) : Prop where
  named : ∀ row ∈ t.rows, row.id ≠ ""
  distinct : (t.rows.map Entity.id).Nodup
  indexed : ∀ id, id ∈ t.ids ↔ id ∈ t.rows.map Entity.id
  filled : ∀ row ∈ t.rows, row.Fills t.schema
  known : ∀ row ∈ t.rows, ∀ name, row.attributes.contains name = true →
    name = "id" ∨ name ∈ t.schema.names

/-- A table with further rows, each with a value under every column. -/
def taking (t : StoredTable) (rows : List Entity) : StoredTable :=
  { t with
    rows := t.rows ++ Table.conformRows t.schema rows
    ids := t.ids ++ rows.map Entity.id }

variable {t : StoredTable} {rows : List Entity}

theorem ids_conformRows (schema : Schema) (rows : List Entity) :
    (Table.conformRows schema rows).map Entity.id = rows.map Entity.id := by
  rw [Table.conformRows, List.map_map]
  rfl

theorem Coherent.new (handle : TableHandle) (schema : Schema) :
    Coherent ⟨handle, schema, [], []⟩ where
  named := fun _ member => absurd member List.not_mem_nil
  distinct := List.nodup_nil
  indexed := fun _ => Iff.rfl
  filled := fun _ member => absurd member List.not_mem_nil
  known := fun _ member => absurd member List.not_mem_nil

/-- What the index lets pass is what fits the rows that are there. -/
theorem Coherent.batchTrouble?_eq_none (coherent : t.Coherent) :
    Store.batchTrouble? t t.ids rows = none ↔ Store.Accepts t.schema (t.rows ++ rows) := by
  rw [Store.batchTrouble?_eq_none]
  constructor
  · rintro ⟨each, distinct⟩
    constructor
    case named =>
      intro row member
      rcases List.mem_append.1 member with old | new
      · exact coherent.named row old
      · exact (each row new).1
    case distinct =>
      rw [List.map_append, List.nodup_append]
      refine ⟨coherent.distinct, distinct, ?_⟩
      intro id old other new same
      obtain ⟨row, member, rfl⟩ := List.mem_map.1 new
      exact (each row member).2.1 ((coherent.indexed row.id).2 (same ▸ old))
    case known =>
      intro row member name shown
      rcases List.mem_append.1 member with old | new
      · exact Schema.has_iff.2 (coherent.known row old name shown)
      · exact (each row new).2.2 name shown
  · intro accepts
    have apart := accepts.distinct
    rw [List.map_append, List.nodup_append] at apart
    obtain ⟨-, distinct, disjoint⟩ := apart
    apply And.intro _ distinct
    intro row member
    have there : row ∈ t.rows ++ rows := List.mem_append_right _ member
    refine ⟨accepts.named row there, ?_, accepts.known row there⟩
    intro taken
    exact disjoint row.id ((coherent.indexed row.id).1 taken) row.id
      (List.mem_map_of_mem member) rfl

theorem Coherent.taking (coherent : t.Coherent)
    (accepts : Store.Accepts t.schema (t.rows ++ rows)) : (t.taking rows).Coherent where
  named := by
    intro row member
    rcases List.mem_append.1 member with old | new
    · exact coherent.named row old
    · obtain ⟨given, there, rfl⟩ := List.mem_map.1 new
      exact accepts.named given (List.mem_append_right _ there)
  distinct := by
    have apart := accepts.distinct
    rw [List.map_append, ← ids_conformRows t.schema rows, ← List.map_append] at apart
    exact apart
  indexed := by
    intro id
    simp only [StoredTable.taking, List.map_append, ids_conformRows, List.mem_append,
      coherent.indexed id]
  filled := by
    intro row member
    rcases List.mem_append.1 member with old | new
    · exact coherent.filled row old
    · obtain ⟨given, -, rfl⟩ := List.mem_map.1 new
      exact Entity.fills_conformTo t.schema given
  known := by
    intro row member name shown
    rcases List.mem_append.1 member with old | new
    · exact coherent.known row old name shown
    · obtain ⟨given, there, rfl⟩ := List.mem_map.1 new
      rcases (Entity.contains_conformTo t.schema given name).1 shown with own | column
      · exact Schema.has_iff.1 (accepts.known given (List.mem_append_right _ there) name own)
      · exact .inr column

end StoredTable

namespace Store

variable {s : Store} {handle : TableHandle} {rows : List Entity}

/-- A call that changes a store. -/
inductive Call
  | createTable (schema : Schema)
  | append (handle : TableHandle) (rows : List Entity)
  | createWithRows (t : Table)
  | dropTable (handle : TableHandle)
  | recordEdges (edges : List Edge)

/-- What a call answers, with the handle of a table that it made, and the store that it leaves. -/
def call (s : Store) : Call → Except Trouble (Option TableHandle) × Store
  | .createTable schema => (.ok (some (s.createTable schema).1), (s.createTable schema).2)
  | .append handle rows =>
    match s.append handle rows with
    | .ok filled => (.ok none, filled)
    | .error trouble => (.error trouble, s)
  | .createWithRows t => ((s.createWithRows t).1.map some, (s.createWithRows t).2)
  | .dropTable handle => (.ok none, s.dropTable handle)
  | .recordEdges edges => (.ok none, s.recordEdges edges)

theorem find?_eq_some (fresh : s.Fresh) {t : StoredTable} :
    s.find? handle = some t ↔ t ∈ s.tables ∧ t.handle = handle := by
  constructor
  · intro found
    have same := List.find?_some found
    exact ⟨List.mem_of_find?_eq_some found, beq_iff_eq.1 same⟩
  · rintro ⟨member, rfl⟩
    exact find?_of_mem fresh.distinct member

/-- What an accepted batch leaves: one table has taken it, and the others are as they were. -/
theorem append_eq_ok (fresh : s.Fresh) {filled : Store} :
    s.append handle rows = .ok filled ↔
      (∃ t ∈ s.tables, t.handle = handle ∧ batchTrouble? t t.ids rows = none) ∧
      filled = { s with
        tables := s.tables.map (fun t => if t.handle = handle then t.taking rows else t) } := by
  cases found : s.find? handle with
  | none =>
    have refused : s.append handle rows = .error (.unknownTable handle) := by
      simp [append, get, found, bind, Except.bind]
    have absent : ∀ t ∈ s.tables, t.handle ≠ handle := by
      simpa [find?] using found
    constructor
    · intro accepted
      rw [refused] at accepted
      cases accepted
    · rintro ⟨⟨t, member, same, -⟩, -⟩
      exact absurd same (absent t member)
  | some t =>
    obtain ⟨member, rfl⟩ := (find?_eq_some fresh).1 found
    have only : ∀ u ∈ s.tables, u.handle = t.handle → u = t :=
      fun u there same => Keyed.eq_of_key fresh.distinct there member same
    have tables : s.tables.map (fun u => if u.handle = t.handle then u.taking rows else u) =
        s.tables.map (fun u => if u.handle = t.handle then t.taking rows else u) := by
      apply List.map_congr_left
      intro u there
      by_cases same : u.handle = t.handle
      · rw [only u there same]
      · rw [if_neg same, if_neg same]
    rw [tables]
    cases trouble : batchTrouble? t t.ids rows with
    | none =>
      have accepted : s.append t.handle rows = .ok { s with
          tables := s.tables.map (fun u => if u.handle = t.handle then t.taking rows else u) } := by
        simp only [append, get, found, bind, Except.bind, extend, trouble]
        rfl
      rw [accepted]
      constructor
      · intro filled
        exact ⟨⟨t, member, rfl, trouble⟩, (Except.ok.inj filled).symm⟩
      · rintro ⟨-, rfl⟩
        rfl
    | some problem =>
      have refused : s.append t.handle rows = .error problem := by
        simp only [append, get, found, bind, Except.bind, extend, trouble]
      rw [refused]
      constructor
      · intro accepted
        cases accepted
      · rintro ⟨⟨u, there, same, free⟩, -⟩
        rw [only u there same, trouble] at free
        cases free

/-- A store and the handles that it has given out. -/
structure History where
  store : Store
  handles : List TableHandle

namespace History

/-- A history goes on with a call. -/
def next (past : History) (c : Call) : History :=
  { store := (past.store.call c).2
    handles := past.handles ++ (past.store.call c).1.toOption.join.toList }

/-- What a list of calls makes of a new store. -/
def after (calls : List Call) : History := calls.foldl next ⟨.empty, []⟩

/-- What holds of a store however it was used: of each table, of the handles and of the edges. -/
structure Kept (past : History) : Prop where
  coherent : ∀ t ∈ past.store.tables, t.Coherent
  fresh : past.store.Fresh
  once : past.handles.Nodup
  standing : ∀ t ∈ past.store.tables, t.handle ∈ past.handles
  below : ∀ handle ∈ past.handles, handle.number ≤ past.store.created
  relationships : (past.store.edges.map Edge.key).Nodup

variable {past : History}

theorem Kept.start : Kept ⟨.empty, []⟩ where
  coherent := fun _ member => absurd member List.not_mem_nil
  fresh := fresh_empty
  once := List.nodup_nil
  standing := fun _ member => absurd member List.not_mem_nil
  below := fun _ member => absurd member List.not_mem_nil
  relationships := List.nodup_nil

theorem Kept.issue (kept : past.Kept) {t : StoredTable} (coherent : t.Coherent)
    (handle : t.handle = past.store.nextHandle) :
    Kept
      { store := { past.store with
          tables := past.store.tables ++ [t]
          created := past.store.created + 1 }
        handles := past.handles ++ [past.store.nextHandle] } where
  coherent := by
    intro u member
    rcases List.mem_append.1 member with old | new
    · exact kept.coherent u old
    · rwa [List.mem_singleton.1 new]
  fresh := kept.fresh.issue handle
  once := by
    rw [List.nodup_append]
    refine ⟨kept.once, List.nodup_singleton _, ?_⟩
    intro number old other new same
    have known := kept.below number old
    rw [same, List.mem_singleton.1 new] at known
    exact absurd known (Nat.not_succ_le_self _)
  standing := by
    intro u member
    rcases List.mem_append.1 member with old | new
    · exact List.mem_append_left _ (kept.standing u old)
    · rw [List.mem_singleton.1 new, handle]
      exact List.mem_append_right _ (List.mem_singleton_self _)
  below := by
    intro number member
    rcases List.mem_append.1 member with old | new
    · exact Nat.le_succ_of_le (kept.below number old)
    · rw [List.mem_singleton.1 new]
      exact Nat.le_refl _
  relationships := kept.relationships

theorem Kept.createTable (kept : past.Kept) (schema : Schema) :
    (past.next (.createTable schema)).Kept :=
  kept.issue (.new past.store.nextHandle schema) rfl

theorem Kept.append (kept : past.Kept) (handle : TableHandle) (rows : List Entity) :
    (past.next (.append handle rows)).Kept := by
  cases outcome : past.store.append handle rows with
  | error trouble =>
    have same : past.next (.append handle rows) = past := by
      simp [next, call, outcome, Except.toOption]
    rwa [same]
  | ok filled =>
    obtain ⟨⟨target, there, rfl, free⟩, rfl⟩ := (append_eq_ok kept.fresh).1 outcome
    have same : past.next (.append target.handle rows) = ⟨{ past.store with
        tables := past.store.tables.map
          (fun t => if t.handle = target.handle then t.taking rows else t) }, past.handles⟩ := by
      simp [next, call, outcome, Except.toOption]
    have handles : (past.store.tables.map
        (fun t => if t.handle = target.handle then t.taking rows else t)).map
        StoredTable.handle = past.store.tables.map StoredTable.handle := by
      rw [List.map_map]
      apply List.map_congr_left
      intro t _
      simp only [Function.comp_apply, apply_ite StoredTable.handle, StoredTable.taking, ite_self]
    have shown : ∀ t ∈ past.store.tables.map
        (fun t => if t.handle = target.handle then t.taking rows else t),
        ∃ u ∈ past.store.tables, u.handle = t.handle := by
      intro t member
      have listed := List.mem_map_of_mem (f := StoredTable.handle) member
      rw [handles] at listed
      exact List.mem_map.1 listed
    rw [same]
    constructor
    case coherent =>
      intro t member
      obtain ⟨u, old, rfl⟩ := List.mem_map.1 member
      by_cases this : u.handle = target.handle
      · rw [if_pos this, Keyed.eq_of_key kept.fresh.distinct old there this]
        have coherent := kept.coherent target there
        exact coherent.taking (coherent.batchTrouble?_eq_none.1 free)
      · rw [if_neg this]
        exact kept.coherent u old
    case fresh =>
      constructor
      case distinct => rw [handles]; exact kept.fresh.distinct
      case used =>
        intro t member
        obtain ⟨u, old, named⟩ := shown t member
        exact named ▸ kept.fresh.used u old
    case once => exact kept.once
    case standing =>
      intro t member
      obtain ⟨u, old, named⟩ := shown t member
      exact named ▸ kept.standing u old
    case below => exact kept.below
    case relationships => exact kept.relationships

theorem Kept.createWithRows (kept : past.Kept) (t : Table) :
    (past.next (.createWithRows t)).Kept := by
  have made := createWithRows_eq kept.fresh t
  cases trouble : batchTrouble? ⟨past.store.nextHandle, t.schema, [], []⟩ [] t.rows with
  | none =>
    rw [trouble] at made
    have coherent : (StoredTable.mk past.store.nextHandle t.schema [] []).Coherent := .new _ _
    have accepts := coherent.batchTrouble?_eq_none.1 trouble
    have next : past.next (.createWithRows t) =
        ⟨{ past.store with
          tables := past.store.tables ++ [stored past.store.nextHandle t]
          created := past.store.created + 1 }, past.handles ++ [past.store.nextHandle]⟩ := by
      simp [History.next, call, made, Except.map, Except.toOption]
    rw [next]
    exact kept.issue (coherent.taking accepts) rfl
  | some problem =>
    rw [trouble] at made
    have next : past.next (.createWithRows t) =
        ⟨{ past.store with created := past.store.created + 1 }, past.handles⟩ := by
      simp [History.next, call, made, Except.map, Except.toOption]
    rw [next]
    constructor
    case coherent => exact kept.coherent
    case fresh =>
      exact ⟨kept.fresh.distinct, fun u member => Nat.le_succ_of_le (kept.fresh.used u member)⟩
    case once => exact kept.once
    case standing => exact kept.standing
    case below => exact fun handle member => Nat.le_succ_of_le (kept.below handle member)
    case relationships => exact kept.relationships

theorem Kept.dropTable (kept : past.Kept) (handle : TableHandle) :
    (past.next (.dropTable handle)).Kept := by
  have next : past.next (.dropTable handle) = ⟨past.store.dropTable handle, past.handles⟩ := by
    simp [History.next, call, Except.toOption]
  rw [next]
  constructor
  case coherent => exact fun t member => kept.coherent t (List.mem_of_mem_filter member)
  case fresh =>
    exact ⟨Keyed.distinct_filter kept.fresh.distinct _,
      fun t member => kept.fresh.used t (List.mem_of_mem_filter member)⟩
  case once => exact kept.once
  case standing => exact fun t member => kept.standing t (List.mem_of_mem_filter member)
  case below => exact kept.below
  case relationships => exact kept.relationships

theorem Kept.recordEdges (kept : past.Kept) (edges : List Edge) :
    (past.next (.recordEdges edges)).Kept := by
  have next : past.next (.recordEdges edges) = ⟨past.store.recordEdges edges, past.handles⟩ := by
    simp [History.next, call, Except.toOption]
  rw [next]
  exact
    { kept with
      fresh := kept.fresh.record edges
      relationships := Edge.nodup_recordAll kept.relationships edges }

theorem Kept.next (kept : past.Kept) (c : Call) : (past.next c).Kept := by
  cases c with
  | createTable schema => exact kept.createTable schema
  | append handle rows => exact kept.append handle rows
  | createWithRows t => exact kept.createWithRows t
  | dropTable handle => exact kept.dropTable handle
  | recordEdges edges => exact kept.recordEdges edges

theorem Kept.run (kept : past.Kept) (calls : List Call) : (calls.foldl History.next past).Kept := by
  induction calls generalizing past with
  | nil => exact kept
  | cons c rest ih => exact ih (kept.next c)

end History

/-- What a batch does to a store: all of it or nothing. A batch is taken just if its rows fit behind
those of a table that stands, and then that table alone grows; a call that fails leaves tables and
edges as they were. -/
structure Atomic (s : Store) : Prop where
  taken : ∀ handle rows, (∃ filled, s.append handle rows = .ok filled) ↔
    ∃ t ∈ s.tables, t.handle = handle ∧ Accepts t.schema (t.rows ++ rows)
  all : ∀ handle rows filled, s.append handle rows = .ok filled →
    filled = { s with
      tables := s.tables.map (fun t => if t.handle = handle then t.taking rows else t) }
  nothing : ∀ c trouble, (s.call c).1 = .error trouble →
    (s.call c).2.tables = s.tables ∧ (s.call c).2.edges = s.edges

theorem History.Kept.atomic {past : History} (kept : past.Kept) : past.store.Atomic where
  taken := by
    intro handle rows
    simp only [append_eq_ok kept.fresh, exists_and_left, exists_eq, and_true]
    constructor
    · rintro ⟨t, member, same, free⟩
      exact ⟨t, member, same, (kept.coherent t member).batchTrouble?_eq_none.1 free⟩
    · rintro ⟨t, member, same, accepts⟩
      exact ⟨t, member, same, (kept.coherent t member).batchTrouble?_eq_none.2 accepts⟩
  all := fun handle rows filled accepted => ((append_eq_ok kept.fresh).1 accepted).2
  nothing := by
    intro c trouble failed
    cases c with
    | createTable schema => nomatch failed
    | dropTable handle => nomatch failed
    | recordEdges edges => nomatch failed
    | append handle rows =>
      simp only [call] at failed ⊢
      cases outcome : past.store.append handle rows with
      | ok filled => rw [outcome] at failed; nomatch failed
      | error problem => exact ⟨rfl, rfl⟩
    | createWithRows t =>
      simp only [call, createWithRows_eq kept.fresh t] at failed ⊢
      cases refused : batchTrouble? ⟨past.store.nextHandle, t.schema, [], []⟩ [] t.rows with
      | none => rw [refused] at failed; nomatch failed
      | some problem => exact ⟨rfl, rfl⟩

/-- Whatever calls a store has seen, its tables are coherent, its handles were given out once, its
edges are of different relationships, and the next call takes effect as a whole or not at all. -/
theorem history_atomic (calls : List Call) :
    (History.after calls).Kept ∧ (History.after calls).store.Atomic :=
  have kept : (History.after calls).Kept := History.Kept.start.run calls
  ⟨kept, kept.atomic⟩

/-- A row that is named as another of its batch is refused with it, and the handle of a table that
was dropped or refused does not come back. -/
theorem history_atomic_of_repeated :
    let row : Entity := ⟨"p1", .empty⟩
    let past := History.after
      [.createWithRows ⟨"process", .empty "process", [row]⟩, .dropTable ⟨1⟩,
        .createWithRows ⟨"process", .empty "process", [row, row]⟩, .createTable (.empty "file")]
    past.handles = [⟨1⟩, ⟨3⟩] ∧
      (past.store.call (.append ⟨3⟩ [row, row])).1 = .error (.repeatedId "p1" ⟨3⟩) ∧
      (past.store.call (.append ⟨3⟩ [row, row])).2.tables = past.store.tables ∧
      (past.store.call (.append ⟨3⟩ [row, row])).2.edges = past.store.edges :=
  ⟨by decide +kernel, by rfl, (history_atomic _).2.nothing _ (.repeatedId "p1" ⟨3⟩) rfl⟩

end Store
end ThreatHunt
