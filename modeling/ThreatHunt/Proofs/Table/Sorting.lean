import Mathlib.Data.List.Sort
import ThreatHunt.Proofs.Number.Rounding
import ThreatHunt.Table.Refine
import ThreatHunt.Value.Order

/-!
The order that sorting uses is a total preorder of all values. What decides between two values, the
items of lists apart, is their place: kind, nearest number, instant and text, compared in turn.
Integers compare exactly with each other and through the nearest floating point number with others,
which fits together since rounding keeps the order.
-/

namespace ThreatHunt

/-- Comparisons of three values in a row: where neither step goes down, the first step that goes up
decides between the ends. -/
def Chains (first second whole : Ordering) : Prop :=
  first ≠ .gt → second ≠ .gt → whole = first.then second

theorem Chains.then {a b c a' b' c' : Ordering} (first : Chains a b c)
    (rest : Chains a' b' c') : Chains (a.then a') (b.then b') (c.then c') := by
  intro up up'
  have above : a ≠ .gt := by rintro rfl; exact up rfl
  have above' : b ≠ .gt := by rintro rfl; exact up' rfl
  rw [first above above']
  cases a with
  | gt => exact absurd rfl above
  | lt => rfl
  | eq =>
    cases b with
    | gt => exact absurd rfl above'
    | eq => exact rest up up'
    | lt => cases a' <;> first | rfl | exact absurd rfl up

theorem chains_of_trans {α : Type} {cmp : α → α → Ordering} [Std.TransCmp cmp] (a b c : α) :
    Chains (cmp a b) (cmp b c) (cmp a c) := by
  intro up up'
  cases first : cmp a b with
  | gt => exact absurd first up
  | eq => rw [Std.TransCmp.congr_left first]; rfl
  | lt => exact Std.TransCmp.lt_of_lt_of_isLE first (Ordering.ne_gt_iff_isLE.1 up')

namespace Instant

instance : Ord Instant := ⟨Instant.compare⟩

instance : Std.TransOrd Instant :=
  inferInstanceAs (Std.TransCmp (compareLex (compareOn Instant.second) (compareOn Instant.nano)))

end Instant

namespace Value

/-- What decides between values before the items of lists do. -/
structure Place where
  rank : Nat
  /-- The nearest floating point number by its place among all patterns. -/
  nearest : Int
  /-- 1 for a floating point number, which comes after the integers that round to it. -/
  floats : Nat
  whole : Int
  instant : Option Instant
  text : String

def place : Value → Place
  | .null => ⟨5, 0, 0, 0, none, ""⟩
  | .bool b => ⟨0, 0, 0, b.toNat, none, ""⟩
  | .int i => ⟨1, (Binary64.ofInt i).totalKey, 0, i, none, ""⟩
  | .float x => ⟨1, x.totalKey, 1, 0, none, ""⟩
  | .time t => ⟨2, 0, 0, 0, some t, ""⟩
  | .str s => ⟨3, 0, 0, 0, Instant.read? s, s⟩
  | .list _ => ⟨4, 0, 0, 0, none, ""⟩

def items : Value → List Value
  | .list items => items
  | _ => []

def Place.compare : Place → Place → Ordering :=
  compareLex (compareOn Place.rank) (compareLex (compareOn Place.nearest)
    (compareLex (compareOn Place.floats) (compareLex (compareOn Place.whole)
      (compareLex (compareOn Place.instant) (compareOn Place.text)))))

instance : Std.TransCmp Place.compare :=
  inferInstanceAs (Std.TransCmp (compareLex _ (compareLex _ (compareLex _ (compareLex _
    (compareLex _ _))))))

theorem Place.compare_eq (p q : Place) : p.compare q =
    (Ord.compare p.rank q.rank).then ((Ord.compare p.nearest q.nearest).then
      ((Ord.compare p.floats q.floats).then ((Ord.compare p.whole q.whole).then
        ((Ord.compare p.instant q.instant).then (Ord.compare p.text q.text))))) := rfl

theorem compareInstants_eq (a b : Option Instant) : compareInstants a b = compare a b := by
  cases a <;> cases b <;> rfl

theorem compare_toNat (a b : Bool) : compare a.toNat b.toNat = compare (a.toNat : Int) b.toNat := by
  cases a <;> cases b <;> rfl

/-- Integers may be compared through the numbers nearest to them first. -/
theorem compare_int (a b : Int) :
    compare a b = (compare (Binary64.ofInt a).totalKey (Binary64.ofInt b).totalKey).then
      (compare a b) := by
  cases order : compare a b with
  | eq =>
    rw [Std.LawfulEqCmp.eq_of_compare order, Std.ReflOrd.compare_self]
    rfl
  | lt =>
    have nearest := Binary64.totalKey_ofInt_mono (Int.le_of_lt (Int.compare_eq_lt.1 order))
    cases keys : compare (Binary64.ofInt a).totalKey (Binary64.ofInt b).totalKey with
    | gt => exact absurd (Int.compare_eq_gt.1 keys) (Int.not_lt.2 nearest)
    | _ => rfl
  | gt =>
    have nearest := Binary64.totalKey_ofInt_mono (Int.le_of_lt (Int.compare_eq_gt.1 order))
    cases keys : compare (Binary64.ofInt a).totalKey (Binary64.ofInt b).totalKey with
    | lt => exact absurd (Int.compare_eq_lt.1 keys) (Int.not_lt.2 nearest)
    | _ => rfl

/-- Values of one rank. -/
inductive Alike : Value → Value → Prop where
  | null : Alike .null .null
  | bool (a b : Bool) : Alike (.bool a) (.bool b)
  | int (a b : Int) : Alike (.int a) (.int b)
  | intFloat (a : Int) (b : Binary64) : Alike (.int a) (.float b)
  | floatInt (a : Binary64) (b : Int) : Alike (.float a) (.int b)
  | float (a b : Binary64) : Alike (.float a) (.float b)
  | time (a b : Instant) : Alike (.time a) (.time b)
  | str (a b : String) : Alike (.str a) (.str b)
  | list (as bs : List Value) : Alike (.list as) (.list bs)

theorem alike_of_rank_eq {a b : Value} (same : a.rank = b.rank) : Alike a b := by
  cases a <;> cases b <;> first | constructor | exact absurd same (by simp [rank])

theorem compareTotal_of_rank_ne {a b : Value} (apart : a.rank ≠ b.rank) :
    a.compareTotal b = compare a.rank b.rank := by
  cases a <;> cases b <;> first | exact absurd rfl apart | rfl

theorem rank_place (v : Value) : v.place.rank = v.rank := by
  cases v <;> rfl

/-- The total order compares places, and then items. -/
theorem compareTotal_eq (a b : Value) :
    a.compareTotal b = (a.place.compare b.place).then (compareItems a.items b.items) := by
  by_cases same : a.rank = b.rank
  · have items_nil : compareItems [] [] = .eq := rfl
    have lower : compare 0 1 = .lt := rfl
    have upper : compare 1 0 = .gt := rfl
    cases alike_of_rank_eq same with
    | null => rfl
    | bool a b => simp [compareTotal, place, Place.compare_eq, items, items_nil, compare_toNat]
    | int a b =>
      simp only [compareTotal, place, Place.compare_eq, items, items_nil, Std.compare_self,
        Ordering.eq_then, Ordering.then_eq]
      exact compare_int a b
    | intFloat a b =>
      simp [compareTotal, compareNumbers, Binary64.totalCompare, place, Place.compare_eq, items,
        items_nil, lower]
    | floatInt a b =>
      simp [compareTotal, compareNumbers, Binary64.totalCompare, place, Place.compare_eq, items,
        items_nil, upper]
    | float a b =>
      simp [compareTotal, compareNumbers, Binary64.totalCompare, place, Place.compare_eq, items,
        items_nil]
    | time a b =>
      simp [compareTotal, place, Place.compare_eq, items, items_nil]
      rfl
    | str a b =>
      simp [compareTotal, compareTexts, compareInstants_eq, place, Place.compare_eq, items,
        items_nil]
    | list as bs => simp [compareTotal, place, Place.compare_eq, items]
  · have ranks : compare a.rank b.rank ≠ .eq := fun eq => same (Std.LawfulEqCmp.eq_of_compare eq)
    rw [compareTotal_of_rank_ne same, Place.compare_eq, rank_place, rank_place]
    cases order : compare a.rank b.rank with
    | eq => exact absurd order ranks
    | _ => rfl

/-- What holds of a value if it holds of the items of its list holds of all values. -/
theorem forall_of_items {P : Value → Prop} (step : ∀ v, (∀ item ∈ v.items, P item) → P v)
    (v : Value) : P v := by
  refine step v (fun item member => ?_)
  have smaller : sizeOf item < sizeOf v := by
    cases v with
    | list items =>
      have below : sizeOf item < sizeOf items := List.sizeOf_lt_of_mem member
      rw [list.sizeOf_spec]
      omega
    | _ => exact absurd member List.not_mem_nil
  exact forall_of_items step item
termination_by sizeOf v

theorem swap_compareItems {as : List Value}
    (each : ∀ a ∈ as, ∀ b, (a.compareTotal b).swap = b.compareTotal a) (bs : List Value) :
    (compareItems as bs).swap = compareItems bs as := by
  induction as generalizing bs with
  | nil => cases bs <;> rfl
  | cons a as ih =>
    cases bs with
    | nil => rfl
    | cons b bs =>
      rw [compareItems, compareItems, Ordering.swap_then, each a (List.mem_cons_self ..),
        ih (fun other member => each other (List.mem_cons_of_mem _ member))]

theorem swap_compareTotal (a b : Value) : (a.compareTotal b).swap = b.compareTotal a := by
  induction a using forall_of_items generalizing b with
  | step a ih =>
    rw [compareTotal_eq, compareTotal_eq b a, Ordering.swap_then, swap_compareItems ih,
      ← Std.OrientedCmp.eq_swap]

theorem chains_compareItems {as : List Value}
    (each : ∀ a ∈ as, ∀ b c, Chains (a.compareTotal b) (b.compareTotal c) (a.compareTotal c))
    (bs cs : List Value) :
    Chains (compareItems as bs) (compareItems bs cs) (compareItems as cs) := by
  induction as generalizing bs cs with
  | nil =>
    intro up up'
    cases bs <;> cases cs <;> first | rfl | exact absurd rfl up'
  | cons a as ih =>
    cases bs with
    | nil => exact fun up _ => absurd rfl up
    | cons b bs =>
      cases cs with
      | nil => exact fun _ up' => absurd rfl up'
      | cons c cs =>
        exact (each a (List.mem_cons_self ..) b c).then
          (ih (fun other member => each other (List.mem_cons_of_mem _ member)) bs cs)

theorem chains_compareTotal (a b c : Value) :
    Chains (a.compareTotal b) (b.compareTotal c) (a.compareTotal c) := by
  induction a using forall_of_items generalizing b c with
  | step a ih =>
    rw [compareTotal_eq a b, compareTotal_eq b c, compareTotal_eq a c]
    exact (chains_of_trans a.place b.place c.place).then (chains_compareItems ih b.items c.items)

instance : Std.TransCmp compareTotal where
  eq_swap := (swap_compareTotal _ _).symm
  isLE_trans {a b c} up up' := by
    have whole := chains_compareTotal a b c (Ordering.isLE_iff_ne_gt.1 up)
      (Ordering.isLE_iff_ne_gt.1 up')
    rw [whole]
    cases first : a.compareTotal b with
    | gt => rw [first] at up; exact up
    | lt => rfl
    | eq => exact up'

/-- The order that sorting uses is a total preorder: all values compare, a value is equal to itself,
two values compare the same way from either side, and what does not go down in two steps does not
go down in one. -/
theorem compareTotal_laws (a b c : Value) :
    a.compareTotal a = .eq ∧ b.compareTotal a = (a.compareTotal b).swap ∧
      (a.compareTotal b ≠ .gt → b.compareTotal c ≠ .gt → a.compareTotal c ≠ .gt) := by
  refine ⟨Std.ReflCmp.compare_self, Std.OrientedCmp.eq_swap, fun up up' => ?_⟩
  have below := Ordering.isLE_iff_ne_gt.2 up
  have above := Ordering.isLE_iff_ne_gt.2 up'
  exact Ordering.isLE_iff_ne_gt.1 (Std.TransCmp.isLE_trans below above)

/-- Two integers and a floating point number with one nearest number, each behind a number that is
none: the integers are told apart and the floating point number comes last. -/
theorem compareTotal_laws_rounded :
    let front : Value := .float (Binary64.nan true)
    let a : Value := .list [front, .int 9007199254740992]
    let b : Value := .list [front, .int 9007199254740993]
    let c : Value := .list [front, .float (Binary64.ofNat 9007199254740992)]
    a.compareTotal b = .lt ∧ b.compareTotal c = .lt ∧ a.compareTotal c ≠ .gt := by
  intro front a b c
  have first : a.compareTotal b = .lt := by decide +kernel
  have second : b.compareTotal c = .lt := by decide +kernel
  have law := (compareTotal_laws a b c).2.2
  exact ⟨first, second, law (by rw [first]; decide) (by rw [second]; decide)⟩

end Value
end ThreatHunt

/-!
Sorted rows. What sorting promises for a row and each one behind it can hold of one arrangement of
the rows only, so that sorting does not depend on the order in which rows come.
-/

namespace ThreatHunt.Table

variable {attr : String} {order : SortOrder} {rows : List Entity}

/-- The total order of keys, or its reverse. -/
def direct : SortOrder → Value → Value → Ordering
  | .ascending, a, b => a.compareTotal b
  | .descending, a, b => b.compareTotal a

instance (order : SortOrder) : Std.TransCmp (direct order) :=
  match order with
  | .ascending => inferInstanceAs (Std.TransCmp Value.compareTotal)
  | .descending => inferInstanceAs (Std.TransCmp (fun a b => Value.compareTotal b a))

theorem direct_eq_iff {a b : Value} : direct order a b = .eq ↔ a.compareTotal b = .eq := by
  cases order with
  | ascending => exact Iff.rfl
  | descending => exact Std.OrientedCmp.eq_comm

theorem eq_null {v : Value} (null : v.isNull = true) : v = .null := by
  cases v <;> first | rfl | exact absurd null Bool.false_ne_true

theorem isNull_eq {a b : Value} (equal : a.compareTotal b = .eq) : a.isNull = b.isNull := by
  have ranks : a.rank = b.rank := by
    by_contra apart
    rw [Value.compareTotal_of_rank_ne apart] at equal
    exact apart (Std.LawfulEqCmp.eq_of_compare equal)
  cases Value.alike_of_rank_eq ranks <;> rfl

/-- Keys are compared by being null first. -/
theorem compareKeys_eq (order : SortOrder) (a b : Value) :
    compareKeys order a b =
      (compare a.isNull.toNat b.isNull.toNat).then (direct order a b) := by
  unfold compareKeys
  cases null : a.isNull <;> cases null' : b.isNull
  · cases order with
    | ascending => rfl
    | descending => exact Std.OrientedCmp.eq_swap.symm
  · rfl
  · rfl
  · rw [eq_null null, eq_null null']
    cases order <;> rfl

instance (order : SortOrder) : Std.TransCmp (compareKeys order) := by
  have keys : compareKeys order = compareLex (compareOn (fun v : Value => v.isNull.toNat))
      (direct order) := funext (fun a => funext (compareKeys_eq order a))
  rw [keys]
  infer_instance

instance (attr : String) (order : SortOrder) : Std.TransCmp (compareRows attr order) := by
  have keys : Std.TransCmp
      (fun a b : Entity => compareKeys order (a.valueOf attr) (b.valueOf attr)) :=
    { eq_swap := Std.OrientedCmp.eq_swap, isLE_trans := Std.TransCmp.isLE_trans }
  exact inferInstanceAs (Std.TransCmp (compareLex
    (fun a b : Entity => compareKeys order (a.valueOf attr) (b.valueOf attr))
    (compareOn Entity.id)))

/-- What sorting promises for a row and one behind it. -/
structure Precedes (attr : String) (order : SortOrder) (a b : Entity) : Prop where
  nullsLast : (a.valueOf attr).isNull = true → (b.valueOf attr).isNull = true
  keys : (a.valueOf attr).isNull = false → (b.valueOf attr).isNull = false →
    direct order (a.valueOf attr) (b.valueOf attr) ≠ .gt
  ties : (a.valueOf attr).compareTotal (b.valueOf attr) = .eq → a.id < b.id

/-- Of two rows no more than one precedes the other. -/
theorem Precedes.asymm {a b : Entity} (first : Precedes attr order a b) :
    ¬Precedes attr order b a := by
  intro second
  have equal : (a.valueOf attr).compareTotal (b.valueOf attr) = .eq := by
    cases null : (a.valueOf attr).isNull with
    | true =>
      rw [eq_null null, eq_null (first.nullsLast null)]
      rfl
    | false =>
      have filled : (b.valueOf attr).isNull = false := by
        refine Bool.eq_false_iff.2 (fun null' => ?_)
        rw [second.nullsLast null'] at null
        exact absurd null.symm Bool.false_ne_true
      have up := Ordering.isLE_iff_ne_gt.2 (first.keys null filled)
      have down := Ordering.isLE_iff_ne_gt.2 (second.keys filled null)
      exact direct_eq_iff.1 (Std.OrientedCmp.isLE_antisymm up down)
  exact String.lt_asymm (first.ties equal) (second.ties (Std.OrientedCmp.eq_symm equal))

theorem precedes_of_compareRows {a b : Entity} (sorted : compareRows attr order a b ≠ .gt)
    (apart : a.id ≠ b.id) : Precedes attr order a b := by
  rw [compareRows, compareKeys_eq] at sorted
  refine ⟨fun null => ?_, fun filled filled' gt => ?_, fun equal => ?_⟩
  · by_contra filled
    rw [null, Bool.eq_false_iff.2 filled] at sorted
    exact sorted rfl
  · rw [filled, filled', gt] at sorted
    exact sorted rfl
  · have nulls : compare (a.valueOf attr).isNull.toNat (b.valueOf attr).isNull.toNat = .eq := by
      rw [isNull_eq equal, Std.compare_self]
    rw [nulls, direct_eq_iff.2 equal] at sorted
    refine compareOfLessAndEq_eq_lt.1 ?_
    cases ids : compare a.id b.id with
    | lt => exact ids
    | eq => exact absurd (Std.LawfulEqCmp.eq_of_compare ids) apart
    | gt => exact absurd ids sorted

/-- One arrangement of rows has each row precede all behind it. -/
theorem eq_of_precedes {others : List Entity} (same : others.Perm rows)
    (sorted : others.Pairwise (Precedes attr order))
    (sorted' : rows.Pairwise (Precedes attr order)) : others = rows :=
  List.Perm.eq_of_pairwise (fun _ _ _ _ first second => absurd second first.asymm) sorted sorted'
    same

theorem pairwise_sortRows (distinct : (rows.map Entity.id).Nodup) :
    (sortRows attr order rows).Pairwise (Precedes attr order) := by
  have le : ∀ {a b : Entity}, (compareRows attr order a b != .gt) = true ↔
      (compareRows attr order a b).isLE = true := by
    intro a b
    rw [bne_iff_ne, Ordering.isLE_iff_ne_gt]
  have sorted : (sortRows attr order rows).Pairwise
      (fun a b => (compareRows attr order a b != .gt) = true) := by
    refine List.pairwise_mergeSort (fun a b c up up' => ?_) (fun a b => ?_) rows
    · exact le.2 (Std.TransCmp.isLE_trans (le.1 up) (le.1 up'))
    · rw [Bool.or_eq_true, le, le]
      cases order' : compareRows attr order a b with
      | gt => exact .inr (by rw [Std.OrientedCmp.lt_of_gt order']; rfl)
      | _ => exact .inl rfl
  have apart : (sortRows attr order rows).Pairwise (fun a b => a.id ≠ b.id) :=
    List.pairwise_map.1 (((List.mergeSort_perm rows _).map Entity.id).nodup_iff.2 distinct)
  exact (sorted.and apart).imp (fun both => precedes_of_compareRows (bne_iff_ne.1 both.1) both.2)

/-- Sorting rows with distinct identifiers gives the one arrangement of them in which nulls come
last, keys go up, or down, and rows with equal keys go up by identifier; the order in which the rows
come makes no difference. -/
theorem sortRows_canonical (distinct : (rows.map Entity.id).Nodup) :
    (sortRows attr order rows).Perm rows ∧
      (sortRows attr order rows).Pairwise (Precedes attr order) ∧
      ∀ others, others.Perm rows → sortRows attr order others = sortRows attr order rows := by
  refine ⟨List.mergeSort_perm _ _, pairwise_sortRows distinct, fun others same => ?_⟩
  have distinct' : (others.map Entity.id).Nodup := (same.map Entity.id).nodup_iff.2 distinct
  exact eq_of_precedes (((List.mergeSort_perm _ _).trans same).trans (List.mergeSort_perm _ _).symm)
    (pairwise_sortRows distinct') (pairwise_sortRows distinct)

/-- A row with one attribute. -/
def scored (id : String) (score : Value) : Entity := ⟨id, Dict.empty.insert "score" score⟩

/-- Two rows with one integer, one with the floating point number of the same size, which comes after
it, and one with no key, sorted down. -/
theorem sortRows_canonical_tied :
    let least := scored "a" (.int 1)
    let tied := scored "b" (.int 1)
    let greatest := scored "c" (.float (Binary64.ofNat 1))
    let missing := scored "d" .null
    let rows := [missing, tied, least, greatest]
    (rows.map Entity.id).Nodup ∧
      sortRows "score" .descending rows = [greatest, least, tied, missing] := by
  intro least tied greatest missing rows
  have distinct : (rows.map Entity.id).Nodup := by decide
  have same : [greatest, least, tied, missing].Perm rows := List.reverse_perm rows
  have sorted : sortRows "score" .descending [greatest, least, tied, missing] =
      [greatest, least, tied, missing] := List.mergeSort_of_pairwise (by decide +kernel)
  refine ⟨distinct, ?_⟩
  rw [← (sortRows_canonical distinct).2.2 _ same, sorted]

end ThreatHunt.Table
