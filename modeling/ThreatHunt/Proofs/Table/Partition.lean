import Mathlib.Algebra.BigOperators.Group.List.Basic
import Mathlib.Algebra.GroupWithZero.Nat
import Mathlib.Algebra.Ring.Int.Defs
import ThreatHunt.Proofs.Table.Grouping
import ThreatHunt.Proofs.Table.Merging

/-!
Groups as a partition. Each row is in one group and in no other, so that what is counted or added
up over the groups is what is counted or added up over all rows. Sums are exact as long as no
partial sum leaves 64 bits.
-/

namespace ThreatHunt

namespace Text

theorem hexDigit_injective {m n : Nat} (first : m < 16) (second : n < 16)
    (same : hexDigit m = hexDigit n) : m = n := by
  have table : ∀ m < 16, ∀ n < 16, hexDigit m = hexDigit n → m = n := by decide
  exact table m first n second same

theorem hex_injective {width m n : Nat} (first : m < 16 ^ width) (second : n < 16 ^ width)
    (same : hex width m = hex width n) : m = n := by
  induction width generalizing m n with
  | zero => omega
  | succ width ih =>
    obtain ⟨front, last⟩ := List.append_inj' same rfl
    have high : m / 16 = n / 16 := by
      apply ih
      · rw [Nat.div_lt_iff_lt_mul (by decide)]
        exact first
      · rw [Nat.div_lt_iff_lt_mul (by decide)]
        exact second
      · exact front
    have low : m % 16 = n % 16 :=
      hexDigit_injective (Nat.mod_lt m (by decide)) (Nat.mod_lt n (by decide))
        (List.cons.inj last).1
    omega

end Text

/-- Texts with one digest as text have one digest. -/
theorem Digest.hash64_eq_of_ofText {s t : String} (same : ofText s = ofText t) :
    hash64 s.toUTF8 = hash64 t.toUTF8 := by
  apply UInt64.toNat_inj.1
  exact Text.hex_injective (UInt64.toNat_lt _) (UInt64.toNat_lt _) (String.ofList_injective same)

namespace Value

/-- Whether a value is an integer or null. -/
def IsWhole (v : Value) : Prop := v = .null ∨ ∃ i, v = .int i

/-- An integer as what it adds to a sum; anything else adds nothing. -/
def amount : Value → Int
  | .int i => i
  | _ => 0

end Value

namespace Aggregate

open Value (IsWhole)

variable {attr : String} {rows : List Entity} {row : Entity} {xs : List Int} {x : Int}

/-- What rows add to the sum of an attribute. -/
def amounts (attr : String) (rows : List Entity) : List Int :=
  rows.map (fun row => (row.valueOf attr).amount)

/-- Whether no partial sum leaves 64 bits. -/
def Fits (xs : List Int) : Prop :=
  ∀ front, front <+: xs → Text.minInt64 ≤ front.sum ∧ front.sum ≤ Text.maxInt64

theorem Fits.front (fits : Fits (xs ++ [x])) : Fits xs :=
  fun front before => fits front (before.trans (List.prefix_append xs [x]))

theorem clamp_of_fits {i : Int} (low : Text.minInt64 ≤ i) (high : i ≤ Text.maxInt64) :
    clamp i = i := by
  rw [clamp, Int.min_eq_left high, Int.max_eq_right low]

/-- The integers among the values of an attribute. -/
def wholes (attr : String) (rows : List Entity) : List Int :=
  ((rows.map (fun row => row.valueOf attr)).filter (fun v => !v.isNull)).filterMap intOf?

theorem foldl_wholes (whole : ∀ row ∈ rows, IsWhole (row.valueOf attr))
    (fits : Fits (amounts attr rows)) :
    (wholes attr rows).foldl (fun sum i => clamp (sum + i)) 0 = (amounts attr rows).sum := by
  -- The sum of all rows but the last is exact, and adding the last does not leave the range.
  induction rows using List.reverseRecOn with
  | nil => rfl
  | append_singleton rows row ih =>
    obtain ⟨before, last⟩ := List.forall_mem_append.1 whole
    have split : amounts attr (rows ++ [row]) = amounts attr rows ++ [(row.valueOf attr).amount] :=
      List.map_append
    have all := fits _ List.prefix_rfl
    rw [split] at fits all ⊢
    rw [List.sum_append, List.sum_singleton] at all ⊢
    have earlier := ih before fits.front
    rcases last row (List.mem_singleton_self row) with null | ⟨i, int⟩
    · have none : wholes attr (rows ++ [row]) = wholes attr rows := by
        simp [wholes, null, Value.isNull]
      rw [none, earlier, null]
      exact (Int.add_zero _).symm
    · have one : wholes attr (rows ++ [row]) = wholes attr rows ++ [i] := by
        simp [wholes, int, Value.isNull, intOf?]
      rw [int] at all ⊢
      rw [one, List.foldl_concat, earlier]
      exact clamp_of_fits all.1 all.2

/-- Without any value there is no sum, and of integers the sum is exact while it fits. -/
theorem evaluate_sum (whole : ∀ row ∈ rows, IsWhole (row.valueOf attr))
    (fits : Fits (amounts attr rows)) :
    IsWhole (sum.evaluate attr rows) ∧
      (sum.evaluate attr rows).amount = (amounts attr rows).sum := by
  have folded := foldl_wholes whole fits
  have ints : ∀ v ∈ (rows.map (fun row => row.valueOf attr)).filter (fun v => !v.isNull),
      (intOf? v).isSome = true := by
    intro v member
    obtain ⟨there, present⟩ := List.mem_filter.1 member
    obtain ⟨row, inside, rfl⟩ := List.mem_map.1 there
    rcases whole row inside with null | ⟨i, int⟩
    · rw [null] at present
      exact absurd present (by decide)
    · rw [int]
      rfl
  rw [evaluate]
  unfold wholes at folded
  generalize (rows.map (fun row => row.valueOf attr)).filter (fun v => !v.isNull) = values
    at folded ints
  rw [sumOf]
  by_cases none : values = []
  · rw [none] at folded
    rw [if_pos (List.isEmpty_iff.2 none)]
    exact ⟨.inl rfl, folded⟩
  · rw [if_neg (mt List.isEmpty_iff.1 none), if_pos (List.all_eq_true.2 ints), folded]
    exact ⟨.inr ⟨_, rfl⟩, rfl⟩

end Aggregate

namespace Table

open Aggregate (amounts Fits)

variable {attrs : List String} {row : Entity} {rows : List Entity}
  {aggregations before after : List Aggregation} {a : Aggregation}

theorem perm_addToGroup (key : String) (row : Entity) (gs : List (String × List Entity)) :
    ((addToGroup key row gs).flatMap Prod.snd).Perm (row :: gs.flatMap Prod.snd) := by
  induction gs with
  | nil => exact List.Perm.refl [row]
  | cons g rest ih =>
    rw [addToGroup]
    split
    · rw [List.flatMap_cons, List.flatMap_cons, List.append_assoc]
      exact List.perm_middle
    · rw [List.flatMap_cons, List.flatMap_cons]
      exact (ih.append_left g.2).trans List.perm_middle

/-- Each row stands in one group as often as it stands among the rows. -/
theorem perm_groups (attrs : List String) (rows : List Entity) :
    ((groups attrs rows).flatMap Prod.snd).Perm rows := by
  induction rows using List.reverseRecOn with
  | nil => exact List.Perm.nil
  | append_singleton rows row ih =>
    have last : groups attrs (rows ++ [row]) =
        addToGroup (groupKey attrs row) row (groups attrs rows) := List.foldl_concat ..
    rw [last]
    have opened := perm_addToGroup (groupKey attrs row) row (groups attrs rows)
    have moved : (row :: rows).Perm (rows ++ [row]) := (List.perm_append_singleton row rows).symm
    exact opened.trans ((ih.cons row).trans moved)

/-- What is added up over each group adds up to what it is over all rows. -/
theorem sum_groups {M : Type} [AddCommMonoid M] (f : Entity → M) (attrs : List String)
    (rows : List Entity) :
    ((groups attrs rows).map (fun g => (g.2.map f).sum)).sum = (rows.map f).sum := by
  have all := ((perm_groups attrs rows).map f).sum_eq
  rw [List.map_flatMap, List.flatMap_def, List.sum_flatten, List.map_map] at all
  exact all

theorem fst_groups (attrs : List String) (rows : List Entity) :
    (groups attrs rows).map Prod.fst = groupKeys attrs rows := by
  rw [groups_eq, List.map_map]
  exact List.map_id _

theorem mem_group {g : String × List Entity} (member : g ∈ groups attrs rows) :
    row ∈ g.2 ↔ row ∈ rows ∧ groupKey attrs row = g.1 := by
  rw [groups_eq] at member
  obtain ⟨key, -, rfl⟩ := List.mem_map.1 member
  simp [membersOf]

theorem existsUnique_group (member : row ∈ rows) : ∃! g, g ∈ groups attrs rows ∧ row ∈ g.2 := by
  have key : groupKey attrs row ∈ groupKeys attrs rows :=
    List.mem_eraseDups.2 (List.mem_map_of_mem member)
  refine ⟨(groupKey attrs row, membersOf attrs rows (groupKey attrs row)), ⟨?_, ?_⟩, ?_⟩
  · rw [groups_eq]
    exact List.mem_map_of_mem key
  · exact List.mem_filter.2 ⟨member, decide_eq_true rfl⟩
  · rintro g ⟨there, inside⟩
    have own := ((mem_group there).1 inside).2
    rw [groups_eq] at there
    obtain ⟨k, -, rfl⟩ := List.mem_map.1 there
    rw [own]

/-- Whether no two keys of rows have one digest. -/
def NoCollision (attrs : List String) (rows : List Entity) : Prop :=
  ∀ k ∈ groupKeys attrs rows, ∀ l ∈ groupKeys attrs rows,
    Digest.hash64 k.toUTF8 = Digest.hash64 l.toUTF8 → k = l

instance : Decidable (NoCollision attrs rows) :=
  inferInstanceAs (Decidable (∀ k ∈ groupKeys attrs rows, ∀ l ∈ groupKeys attrs rows,
    Digest.hash64 k.toUTF8 = Digest.hash64 l.toUTF8 → k = l))

theorem ids_groupRows (attrs : List String) (aggregations : List Aggregation) (rows : List Entity) :
    (groupRows attrs aggregations rows).map Entity.id =
      (groupKeys attrs rows).map (fun key => "group--" ++ Digest.ofText key) := by
  rw [← fst_groups, groupRows, List.map_map, List.map_map]
  rfl

theorem nodup_ids_groupRows (apart : NoCollision attrs rows) :
    ((groupRows attrs aggregations rows).map Entity.id).Nodup := by
  rw [ids_groupRows]
  apply List.Nodup.map_on
  · intro k first l second same
    apply apart k first l second
    exact Digest.hash64_eq_of_ofText ((String.append_right_inj _).1 same)
  · exact Firsts.nodup_eraseDups _

theorem group_ne_nil {g : String × List Entity} (member : g ∈ groups attrs rows) : g.2 ≠ [] := by
  rw [groups_eq] at member
  obtain ⟨key, seen, rfl⟩ := List.mem_map.1 member
  obtain ⟨row, there, own⟩ := List.mem_map.1 (List.mem_eraseDups.1 seen)
  exact List.ne_nil_of_mem (List.mem_filter.2 ⟨there, decide_eq_true own⟩)

/-- The values of the aggregations of a group under their names. -/
def results (aggregations : List Aggregation) (members : List Entity) : List (String × Value) :=
  aggregations.map (fun a => (a.name, a.func.evaluate a.attr members))

/-- An aggregate is shown under its name, unless another aggregation that comes later has the
name. -/
theorem find?_groupRow_result (split : aggregations = before ++ a :: after)
    (last : ∀ b ∈ after, b.name = a.name → b = a) (g : String × List Entity) :
    (groupRow attrs aggregations g).attributes.find? a.name =
      some (a.func.evaluate a.attr g.2) := by
  have parts : results aggregations g.2 = results before g.2 ++ results (a :: after) g.2 := by
    rw [split]
    exact List.map_append
  have found : Dict.findEntry a.name (results (a :: after) g.2).reverse =
      some (a.func.evaluate a.attr g.2) := by
    apply Dict.findEntry_of_forall
    · exact List.mem_reverse.2 (List.mem_cons_self ..)
    · intro e member own
      obtain ⟨b, there, rfl⟩ := List.mem_map.1 (List.mem_reverse.1 member)
      rcases List.mem_cons.1 there with rfl | later
      · rfl
      · rw [last b later own]
  change (Dict.ofList (_ ++ results aggregations g.2)).find? a.name = _
  rw [Dict.find?_ofList, parts, List.reverse_append, List.reverse_append, List.append_assoc,
    Dict.findEntry_append, found, Option.some_or]

/-- An attribute of the groups is shown as it is in the first member, unless an aggregation has its
name. -/
theorem find?_groupRow_key {name : String} {first : Entity} {rest : List Entity}
    {g : String × List Entity} (member : name ∈ attrs) (free : ∀ b ∈ aggregations, b.name ≠ name)
    (starts : g.2 = first :: rest) :
    (groupRow attrs aggregations g).attributes.find? name = some (first.valueOf name) := by
  have none : Dict.findEntry name (results aggregations g.2).reverse = none := by
    apply Dict.findEntry_eq_none
    intro e inside
    obtain ⟨b, there, rfl⟩ := List.mem_map.1 (List.mem_reverse.1 inside)
    exact free b there
  change (Dict.ofList (_ ++ results aggregations g.2)).find? name = _
  rw [Dict.find?_ofList, List.reverse_append, Dict.findEntry_append, none, Option.none_or, starts]
  apply Dict.findEntry_of_forall
  · exact List.mem_reverse.2 (List.mem_map.2 ⟨name, member, rfl⟩)
  · intro e inside own
    obtain ⟨n, -, rfl⟩ := List.mem_map.1 (List.mem_reverse.1 inside)
    exact congrArg first.valueOf own

/-- All rows of groups show the same attributes. -/
theorem contains_groupRow {name : String} {g : String × List Entity} :
    (groupRow attrs aggregations g).attributes.contains name = true ↔
      name ∈ attrs ∨ ∃ b ∈ aggregations, b.name = name := by
  rw [groupRow, Dict.contains_ofList]
  simp only [List.mem_append, List.mem_map]
  constructor
  · rintro ⟨e, ⟨n, member, rfl⟩ | ⟨b, member, rfl⟩, same⟩
    · exact .inl (same ▸ member)
    · exact .inr ⟨b, member, same⟩
  · rintro (member | ⟨b, member, same⟩)
    · exact ⟨_, .inl ⟨name, member, rfl⟩, rfl⟩
    · exact ⟨_, .inr ⟨b, member, rfl⟩, same⟩

/-- What rows of groups owe to the rows that are grouped. -/
structure Partitions (attrs : List String) (aggregations : List Aggregation)
    (rows result : List Entity) : Prop where
  /-- There is one group for each key, in the order in which the keys are first seen. -/
  keys : (groups attrs rows).map Prod.fst = (rows.map (groupKey attrs)).eraseDups
  /-- There is one row for each group. -/
  ids : result.map Entity.id =
    (groups attrs rows).map (fun g => "group--" ++ Digest.ofText g.1)
  distinct : (result.map Entity.id).Nodup
  /-- A row shows the aggregates of its group. -/
  shown : ∀ before a after, aggregationsOrCount aggregations = before ++ a :: after →
    (∀ b ∈ after, b.name = a.name → b = a) →
    result.map (fun row => row.attributes.find? a.name) =
      (groups attrs rows).map (fun g => some (a.func.evaluate a.attr g.2))
  members : ∀ g ∈ groups attrs rows, ∀ row, row ∈ g.2 ↔ row ∈ rows ∧ groupKey attrs row = g.1
  exactlyOne : ∀ row ∈ rows, ∃! g, g ∈ groups attrs rows ∧ row ∈ g.2
  /-- Rows stand in the groups as often as they are there. -/
  conserved : ((groups attrs rows).flatMap Prod.snd).Perm rows
  counted : ∃ counts : List Nat,
    (groups attrs rows).map (fun g => Aggregate.count.evaluate "*" g.2) =
      counts.map (fun n => .int n) ∧ counts.sum = rows.length
  /-- The sums of integers, a null counting nothing, add up while they fit. -/
  summed : ∀ attr, (∀ row ∈ rows, (row.valueOf attr).IsWhole) →
    (∀ g ∈ groups attrs rows, Fits (amounts attr g.2)) →
    (∀ g ∈ groups attrs rows, (Aggregate.sum.evaluate attr g.2).IsWhole) ∧
      ((groups attrs rows).map (fun g => (Aggregate.sum.evaluate attr g.2).amount)).sum =
        (amounts attr rows).sum ∧
      (Fits (amounts attr rows) →
        (Aggregate.sum.evaluate attr rows).amount = (amounts attr rows).sum)

theorem sum_lengths (attrs : List String) (rows : List Entity) :
    ((groups attrs rows).map (fun g => g.2.length)).sum = rows.length := by
  have ones := sum_groups (fun _ => 1) attrs rows
  simpa using ones

/-- The sums of the groups add up to the sum of all rows. -/
theorem sum_sums {attr : String} (whole : ∀ row ∈ rows, (row.valueOf attr).IsWhole)
    (fits : ∀ g ∈ groups attrs rows, Fits (amounts attr g.2)) :
    (∀ g ∈ groups attrs rows, (Aggregate.sum.evaluate attr g.2).IsWhole) ∧
      ((groups attrs rows).map (fun g => (Aggregate.sum.evaluate attr g.2).amount)).sum =
        (amounts attr rows).sum := by
  have exact : ∀ g ∈ groups attrs rows, (Aggregate.sum.evaluate attr g.2).IsWhole ∧
      (Aggregate.sum.evaluate attr g.2).amount = (amounts attr g.2).sum := by
    intro g member
    apply Aggregate.evaluate_sum
    · intro row inside
      exact whole row ((mem_group member).1 inside).1
    · exact fits g member
  refine ⟨fun g member => (exact g member).1, ?_⟩
  rw [List.map_congr_left (fun g member => (exact g member).2)]
  exact sum_groups (fun row => (row.valueOf attr).amount) attrs rows

theorem partitions_groupRows (apart : NoCollision attrs rows) :
    Partitions attrs aggregations rows (groupRows attrs aggregations rows) where
  keys := fst_groups attrs rows
  ids := by
    rw [ids_groupRows, ← fst_groups, List.map_map]
    rfl
  distinct := nodup_ids_groupRows apart
  shown := by
    intro before a after split last
    rw [groupRows, List.map_map]
    exact List.map_congr_left (fun g _ => find?_groupRow_result split last g)
  members := fun _ member _ => mem_group member
  exactlyOne := fun _ member => existsUnique_group member
  conserved := perm_groups attrs rows
  counted := by
    refine ⟨(groups attrs rows).map (fun g => g.2.length), ?_, sum_lengths attrs rows⟩
    rw [List.map_map]
    rfl
  summed := by
    intro attr whole fits
    obtain ⟨wholes, total⟩ := sum_sums whole fits
    exact ⟨wholes, total, fun all => (Aggregate.evaluate_sum whole all).2⟩

end Table
end ThreatHunt
