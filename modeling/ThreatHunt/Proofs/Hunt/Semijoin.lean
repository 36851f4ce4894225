import ThreatHunt.Pattern.Match
import ThreatHunt.Table.Basic
import ThreatHunt.Proofs.Number.Digits
import ThreatHunt.Proofs.Pattern.Comparisons
import ThreatHunt.Proofs.Hunt.Joined

/-!
Distinct values. Values of one kind and one text are counted once. Equality tells such values apart
only if they are instants of one millisecond or lists that are written alike, so for all others a
list of the distinct values of a column holds what equals a value of the column.
-/

namespace ThreatHunt

namespace Value

/-- What of a value is compared: the items of a list. -/
def elements : Value → List Value
  | .list items => items
  | v => [v]

/-- Values of one kind and one text of which some value equals only one. -/
inductive Blurred : Value → Value → Prop where
  | instants {t u : Instant} : t.text .millis = u.text .millis → t ≠ u →
      Blurred (.time t) (.time u)
  | lists {as bs cs : List Value} : (Value.list as).render = (Value.list bs).render →
      sameItems cs as ≠ sameItems cs bs → Blurred (.list as) (.list bs)

variable {v w : Value} {vs : List Value}

theorem distinctKey_eq_iff :
    v.distinctKey = w.distinctKey ↔ v.kind = w.kind ∧ v.render = w.render := by
  constructor
  · intro same
    have bar : ∀ kind : Kind, '|' ∉ kind.label.toList := by
      intro kind
      cases kind <;> decide
    have chars := congrArg String.toList same
    simp only [distinctKey, String.toList_append, List.append_assoc] at chars
    obtain ⟨labels, texts⟩ := Digits.cut_injective (bar v.kind) (bar w.kind) chars
    have named : ∀ kind kind' : Kind, kind.label.toList = kind'.label.toList → kind = kind' := by
      intro kind kind' same
      cases kind <;> cases kind' <;> first | rfl | exact absurd same (by decide)
    exact ⟨named _ _ labels, String.toList_inj.1 texts⟩
  · rintro ⟨kind, text⟩
    rw [distinctKey, distinctKey, kind, text]

/-- Values that are counted once equal the same values. -/
theorem equal_iff_of_distinctKey_eq (same : v.distinctKey = w.distinctKey) (clear : ¬Blurred v w)
    (u : Value) : u.compare? v = some .eq ↔ u.compare? w = some .eq := by
  obtain ⟨kinds, texts⟩ := distinctKey_eq_iff.1 same
  cases v <;> cases w <;> simp only [kind, reduceCtorEq] at kinds
  case null.null => rfl
  case bool.bool a b =>
    have values : a = b := by
      cases a <;> cases b <;> first | rfl | exact absurd texts (by decide)
    rw [values]
  case int.int i j => rw [ofInt_injective texts]
  case float.float x y =>
    rcases floatText_injective texts with rfl | ⟨none, none'⟩
    · rfl
    · rw [compare?_of_isNaN none, compare?_of_isNaN none']
  case str.str s t =>
    have values : s = t := texts
    rw [values]
  case time.time t t' =>
    have values : t = t' := by
      by_contra differ
      exact clear (.instants texts differ)
    rw [values]
  case list.list as bs =>
    have items : ∀ cs, sameItems cs as = sameItems cs bs := by
      intro cs
      by_contra differ
      exact clear (.lists texts differ)
    cases u with
    | list cs => rw [compare?, compare?, items]
    | _ => rfl

end Value

namespace Table

open Value (elements Blurred)

variable {v w : Value} {vs ws : List Value} {keys : List String}

/-- One step of counting distinct values. -/
def keepNew (seen : List String × List Value) (v : Value) : List String × List Value :=
  if seen.1.contains v.distinctKey then seen else (v.distinctKey :: seen.1, v :: seen.2)

theorem keepNew_keys (seen : List String × List Value)
    (paired : seen.1 = seen.2.map Value.distinctKey) (v : Value) :
    (keepNew seen v).1 = (keepNew seen v).2.map Value.distinctKey := by
  unfold keepNew
  split
  · exact paired
  · rw [List.map_cons, paired]

theorem mem_keepNew {seen : List String × List Value} (member : w ∈ (keepNew seen v).2) :
    w ∈ seen.2 ∨ w = v := by
  unfold keepNew at member
  split at member
  · exact .inl member
  · exact (List.mem_cons.1 member).symm

theorem mem_keys_keepNew (seen : List String × List Value) (v : Value) {key : String} :
    key ∈ (keepNew seen v).1 ↔ key ∈ seen.1 ∨ key = v.distinctKey := by
  unfold keepNew
  split
  · rename_i known
    rw [List.contains_iff_mem] at known
    refine ⟨.inl, ?_⟩
    rintro (member | rfl)
    · exact member
    · exact known
  · rw [List.mem_cons, or_comm]

/-- What is kept of a list of values, and of which values it knows. -/
theorem foldl_keepNew (vs : List Value) (seen : List String × List Value)
    (paired : seen.1 = seen.2.map Value.distinctKey) :
    (vs.foldl keepNew seen).1 = (vs.foldl keepNew seen).2.map Value.distinctKey ∧
    (∀ w ∈ (vs.foldl keepNew seen).2, w ∈ seen.2 ∨ w ∈ vs) ∧
    ∀ key, key ∈ (vs.foldl keepNew seen).1 ↔ key ∈ seen.1 ∨ key ∈ vs.map Value.distinctKey := by
  induction vs generalizing seen with
  | nil => exact ⟨paired, fun w member => .inl member, fun key => by simp⟩
  | cons v vs ih =>
    obtain ⟨same, kept, known⟩ := ih (keepNew seen v) (keepNew_keys seen paired v)
    refine ⟨same, fun w member => ?_, fun key => ?_⟩
    · rcases kept w member with early | late
      · exact (mem_keepNew early).imp_right (fun same => List.mem_cons.2 (.inl same))
      · exact .inr (List.mem_cons_of_mem _ late)
    · rw [List.foldl_cons, known, mem_keys_keepNew, List.map_cons, List.mem_cons, or_assoc]

theorem distinctByKey_eq (vs : List Value) :
    distinctByKey vs = (vs.foldl keepNew ([], [])).2.reverse := rfl

theorem mem_of_mem_distinctByKey (member : v ∈ distinctByKey vs) : v ∈ vs := by
  rw [distinctByKey_eq, List.mem_reverse] at member
  obtain ⟨-, kept, -⟩ := foldl_keepNew vs ([], []) rfl
  exact (kept v member).resolve_left List.not_mem_nil

theorem exists_mem_distinctByKey (member : v ∈ vs) :
    ∃ w ∈ distinctByKey vs, w.distinctKey = v.distinctKey := by
  obtain ⟨same, -, known⟩ := foldl_keepNew vs ([], []) rfl
  have there := (known v.distinctKey).2 (.inr (List.mem_map_of_mem member))
  rw [same] at there
  obtain ⟨w, kept, key⟩ := List.mem_map.1 there
  exact ⟨w, by rwa [distinctByKey_eq, List.mem_reverse], key⟩

/-- The values that an attribute contributes. -/
def contributed (t : Table) (attr : String) : List Value :=
  t.rows.flatMap (fun row => cellValues (row.valueOf attr))

/-- Whether a value equals that of an attribute in some row; of lists each item counts. -/
def hasEqual (t : Table) (attr : String) (v : Value) : Bool :=
  t.rows.any (fun row => (row.valueOf attr).elements.any (fun y =>
    v.elements.any (fun w => w.compare? y == some .eq)))

/-- Null equals nothing, so it need not be contributed. -/
theorem mem_cellValues {y : Value} (equal : w.compare? y = some .eq) :
    y ∈ cellValues v ↔ y ∈ v.elements := by
  have visible : y.isNull = false := by
    cases y with
    | null => cases w <;> cases equal
    | _ => rfl
  cases v with
  | list items => simp [cellValues, elements, visible]
  | null =>
    simp only [cellValues, elements, Value.isNull, if_true, List.mem_singleton, List.not_mem_nil,
      false_iff]
    rintro rfl
    cases visible
  | _ => exact Iff.rfl

theorem hasEqual_iff {t : Table} {attr : String} : t.hasEqual attr v = true ↔
    ∃ w ∈ v.elements, ∃ y ∈ t.contributed attr, w.compare? y = some .eq := by
  simp only [hasEqual, List.any_eq_true, beq_iff_eq, contributed, List.mem_flatMap]
  constructor
  · rintro ⟨row, there, y, inside, w, member, equal⟩
    exact ⟨w, member, y, ⟨row, there, (mem_cellValues equal).2 inside⟩, equal⟩
  · rintro ⟨w, member, y, ⟨row, there, inside⟩, equal⟩
    exact ⟨row, there, y, (mem_cellValues equal).1 inside, w, member, equal⟩

/-- Values of which none are blurred equal a value of a column if they equal one of its distinct
values. -/
theorem hasEqual_iff_distinctValues {t : Table} {attr : String}
    (clear : ∀ y ∈ t.contributed attr, ∀ z ∈ t.contributed attr, ¬Blurred y z) :
    t.hasEqual attr v = true ↔
      ∃ w ∈ v.elements, ∃ y ∈ t.distinctValues attr, w.compare? y = some .eq := by
  rw [hasEqual_iff]
  refine exists_congr (fun w => and_congr_right (fun _ => ⟨?_, ?_⟩))
  · rintro ⟨y, member, equal⟩
    obtain ⟨z, kept, key⟩ := exists_mem_distinctByKey member
    exact ⟨z, kept, (Value.equal_iff_of_distinctKey_eq key
      (clear z (mem_of_mem_distinctByKey kept) y member) w).2 equal⟩
  · rintro ⟨y, kept, equal⟩
    exact ⟨y, mem_of_mem_distinctByKey kept, equal⟩

end Table
end ThreatHunt

/-!
Comparisons with an attribute of a variable. They are semijoins: an entity passes if its attribute
equals that of some row of the variable, where the items of lists count each for themselves.
-/

namespace ThreatHunt

open Outcome

namespace Comparison

variable {e : Entity} {attr : String} {entityType : Option String} {ys : List Value}

/-- Whether an item of a value is among some others. -/
def meets (ys : List Value) (v : Value) : Bool :=
  v.elements.any (fun w => ys.any (fun y => w.compare? y == some .eq))

theorem meets_null (ys : List Value) : meets ys .null = false := by
  simp [meets, Value.elements, Value.compare?]

theorem holdsOf_isIn (ys : List Value) :
    holdsOf .isIn (.list ys) = fun w => ys.any (fun y => w.compare? y == some .eq) := rfl

theorem admits_isIn :
    (Comparison.mk attr entityType .isIn (.list ys)).admits e = meets ys (e.valueOf attr) := by
  unfold admits
  dsimp only [Operator.positive]
  rw [holdsOf_isIn]
  cases e.valueOf attr with
  | null => rw [meets_null]; rfl
  | _ => simp [meets, Value.elements, Value.isNull]

theorem admits_notIn :
    (Comparison.mk attr entityType .notIn (.list ys)).admits e =
      (!(e.valueOf attr).isNull && !meets ys (e.valueOf attr)) := by
  unfold admits
  dsimp only [Operator.positive]
  rw [holdsOf_isIn]
  cases e.valueOf attr with
  | null => rfl
  | _ => simp [meets, Value.elements, Value.isNull]

end Comparison

namespace Scene

variable {s : Scene} {name attr : String} {v : Variable} {t : Table}

/-- Whether comparisons with an attribute of a variable are semijoins with a table. -/
structure Semijoins (s : Scene) (name attr : String) (t : Table) : Prop where
  equal : ∀ c : Comparison, c.operand = .reference name attr →
    c.operator = .equal ∨ c.operator = .isIn →
    ∃ p, s.resolvePattern (.test c) = .ok p ∧
      ∀ e, p.admits e = t.hasEqual attr (e.valueOf c.attr)
  /-- Null passes no comparison. -/
  unequal : ∀ c : Comparison, c.operand = .reference name attr →
    c.operator = .notEqual ∨ c.operator = .notIn →
    ∃ p, s.resolvePattern (.test c) = .ok p ∧
      ∀ e, p.admits e = (!(e.valueOf c.attr).isNull && !t.hasEqual attr (e.valueOf c.attr))

/-- A comparison with an attribute of a variable becomes one with the distinct values of its
column. -/
theorem resolveComparison_reference {c : Comparison} {operator : Operator}
    (refers : c.operand = .reference name attr) (found : s.vars.find? name = some v)
    (has : v.schema.columns.isEmpty = true ∨ v.schema.has attr = true)
    (member : membership? c.operator = some operator) (read : s.tableOf v = .ok t) :
    s.resolveComparison c =
      .ok ⟨c.attr, c.entityType, operator, .list (t.distinctValues attr)⟩ :=
  resolveComparison_eq_ok.2 (.reference refers found has member read)

theorem resolvePattern_reference {c : Comparison} {operator : Operator}
    (refers : c.operand = .reference name attr) (found : s.vars.find? name = some v)
    (has : v.schema.columns.isEmpty = true ∨ v.schema.has attr = true)
    (member : membership? c.operator = some operator) (read : s.tableOf v = .ok t) :
    s.resolvePattern (.test c) =
      .ok (.test ⟨c.attr, c.entityType, operator, .list (t.distinctValues attr)⟩) := by
  rw [resolvePattern, Pattern.mapM, resolveComparison_reference refers found has member read]
  rfl

/-- The distinct values of a column stand for all of them where none are blurred. -/
theorem meets_distinctValues
    (clear : ∀ y ∈ t.contributed attr, ∀ z ∈ t.contributed attr, ¬Value.Blurred y z)
    (v : Value) : Comparison.meets (t.distinctValues attr) v = t.hasEqual attr v := by
  rw [Bool.eq_iff_iff, Table.hasEqual_iff_distinctValues clear]
  simp [Comparison.meets]

theorem semijoins_of_found (found : s.vars.find? name = some v)
    (has : v.schema.columns.isEmpty = true ∨ v.schema.has attr = true)
    (read : s.tableOf v = .ok t)
    (clear : ∀ y ∈ t.contributed attr, ∀ z ∈ t.contributed attr, ¬Value.Blurred y z) :
    s.Semijoins name attr t where
  equal c refers operator := by
    have member : membership? c.operator = some .isIn := by
      rcases operator with same | same <;> rw [same] <;> rfl
    refine ⟨_, resolvePattern_reference refers found has member read, fun e => ?_⟩
    rw [Pattern.admits, Comparison.admits_isIn, meets_distinctValues clear]
  unequal c refers operator := by
    have member : membership? c.operator = some .notIn := by
      rcases operator with same | same <;> rw [same] <;> rfl
    refine ⟨_, resolvePattern_reference refers found has member read, fun e => ?_⟩
    rw [Pattern.admits, Comparison.admits_notIn, meets_distinctValues clear]

end Scene

namespace Hunt

variable {h : Hunt} {name attr : String} {v : Variable}

/-- In every hunt comparisons with an attribute of a variable are semijoins with its table, unless
values of the attribute are blurred. -/
theorem semijoins_of_reachable (reachable : h.Reachable) (found : h.vars.find? name = some v)
    (has : v.schema.columns.isEmpty = true ∨ v.schema.has attr = true) (now : Instant)
    (statement : PlacedStatement) :
    ∃ t, h.table name = .ok t ∧
      ((∀ y ∈ t.contributed attr, ∀ z ∈ t.contributed attr, ¬Value.Blurred y z) →
        (h.scene now statement).Semijoins name attr t) := by
  obtain ⟨st, there, -⟩ := reachable.sound.stored (Variables.mem_of_find? found)
  have read : (h.scene now statement).tableOf v = .ok ⟨v.entityType, v.schema, st.rows⟩ :=
    Scene.tableOf_eq_ok.2 ⟨st, there, rfl⟩
  refine ⟨⟨v.entityType, v.schema, st.rows⟩, ?_, Scene.semijoins_of_found found has read⟩
  have resolved : h.vars.resolve name = .ok v := Variables.resolve_eq_ok.2 found
  have stored : h.store.table v.handle = .ok (Table.ofSchema st.schema st.rows) := by
    simp only [Store.table, Store.get, there]
    rfl
  simp only [table, resolved, bind, Except.bind, stored]
  rfl

/-- Texts are never blurred. -/
theorem semijoins_of_reachable_recorded : ∃ t, recorded.table "b" = .ok t ∧
    t.contributed "user" = [.str "x", .str "y"] ∧
      (recorded.scene epoch.time newUsers).Semijoins "b" "user" t := by
  have found : ∃ v, recorded.vars.find? "b" = some v ∧ v.schema.has "user" = true := by
    rw [recorded_eq]
    exact ⟨_, rfl, by decide +kernel⟩
  obtain ⟨v, found, has⟩ := found
  obtain ⟨t, read, semijoins⟩ :=
    semijoins_of_reachable reachable_recorded found (.inr has) epoch.time newUsers
  have users : t.contributed "user" = [.str "x", .str "y"] := by
    have column : (recorded.table "b").map (Table.contributed · "user") =
        .ok [.str "x", .str "y"] := by
      rw [recorded_eq]
      rfl
    rw [read] at column
    exact Except.ok.inj column
  refine ⟨t, read, users, semijoins (fun y member z _ blurred => ?_)⟩
  rw [users] at member
  cases blurred with
  | instants => simp at member
  | lists => simp at member

/-- Binds two processes, of which the second was seen one microsecond after the first. -/
def newSeen : PlacedStatement :=
  newProcesses "v"
    ("[\x7b\"id\": \"p1\", \"seen\": \"2024-01-01T00:00:00.000001Z\"\x7d, " ++
      "\x7b\"id\": \"p2\", \"seen\": \"2024-01-01T00:00:00.000002Z\"\x7d]")
    [.obj [("id", .str "p1"), ("seen", .str "2024-01-01T00:00:00.000001Z")],
      .obj [("id", .str "p2"), ("seen", .str "2024-01-01T00:00:00.000002Z")]]

/-- A process that was seen some nanoseconds into the first second of 2024. -/
def seen (id : String) (nano : Nat) : Entity :=
  ⟨id, Dict.ofList [("seen", .time ⟨1704067200, nano⟩)]⟩

def watchedTwice : Hunt := ((start .standard Disk.empty).run epoch newSeen).1

theorem watchedTwice_eq : watchedTwice =
    (start .standard Disk.empty).withProcesses newSeen [seen "p1" 1000, seen "p2" 2000] := by
  have empty : Reachable (start .standard Disk.empty) := .start _ _
  have first := (run_of_current empty epoch newSeen rfl rfl rfl (by decide +kernel)
    (by decide +kernel)).1
  rw [watchedTwice, first]
  rfl

/-- Whether something was seen when a process was. -/
def seenAlike : Comparison := ⟨"seen", none, .equal, .reference "v" "seen"⟩

/-- An instant of a column is not found behind another one of its millisecond. -/
theorem semijoins_of_reachable_fails :
    ¬∀ (h : Hunt) (name attr : String) (v : Variable) (now : Instant) (statement : PlacedStatement),
      h.Reachable → h.vars.find? name = some v →
      v.schema.columns.isEmpty = true ∨ v.schema.has attr = true →
      ∃ t, h.table name = .ok t ∧ (h.scene now statement).Semijoins name attr t := by
  intro semijoins
  have found : ∃ v, watchedTwice.vars.find? "v" = some v ∧ v.schema.has "seen" = true := by
    rw [watchedTwice_eq]
    exact ⟨_, rfl, by decide +kernel⟩
  obtain ⟨v, found, has⟩ := found
  obtain ⟨t, read, semijoin⟩ := semijoins watchedTwice "v" "seen" v epoch.time newSeen
    (.run (.start _ _) _ _) found (.inr has)
  obtain ⟨p, resolved, admits⟩ := semijoin.equal seenAlike rfl (.inl rfl)
  have refused : ((watchedTwice.scene epoch.time newSeen).resolvePattern
      (.test seenAlike)).toOption.map (Pattern.admits (seen "p2" 2000)) = some false := by
    rw [watchedTwice_eq]
    decide +kernel
  have due : (watchedTwice.table "v").toOption.map
      (Table.hasEqual · "seen" ((seen "p2" 2000).valueOf "seen")) = some true := by
    rw [watchedTwice_eq]
    decide +kernel
  rw [resolved] at refused
  rw [read] at due
  have passes := (admits (seen "p2" 2000)).trans (Option.some.inj due)
  exact absurd ((Option.some.inj refused).symm.trans passes) Bool.false_ne_true

end Hunt
end ThreatHunt
