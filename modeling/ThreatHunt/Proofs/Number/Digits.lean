import Mathlib.Data.List.Basic
import Mathlib.Tactic.IntervalCases
import ThreatHunt.Number.Decimal

/-!
Texts made of digits: what a natural number is written as, and how the digits of a decimal can be
told from its text.
-/

namespace ThreatHunt.Digits

theorem isDigit_of_mem_repr {n : Nat} {c : Char} (member : c ∈ (Nat.repr n).toList) :
    c.isDigit = true := by
  rw [Nat.toList_repr] at member
  exact Nat.isDigit_of_mem_toDigits (by decide) (by decide) member

theorem value_repr (n : Nat) : Nat.ofDigitChars 10 (Nat.repr n).toList 0 = n := by
  rw [Nat.toList_repr]
  exact Nat.ofDigitChars_ten_toDigits

theorem repr_injective {m n : Nat} (same : Nat.repr m = Nat.repr n) : m = n := by
  rw [← value_repr m, same, value_repr]

theorem repr_ne_nil (n : Nat) : (Nat.repr n).toList ≠ [] := by
  rw [Nat.toList_repr]
  exact Nat.toDigits_ne_nil

theorem readDigits?_repr (n : Nat) : Text.readDigits? (Nat.repr n).toList = some n := by
  have digits : (Nat.repr n).toList.all Char.isDigit = true :=
    List.all_eq_true.2 (fun _ => isDigit_of_mem_repr)
  rw [Text.readDigits?, if_pos ⟨repr_ne_nil n, digits⟩]
  exact congrArg some (value_repr n)

theorem digitChar_ne_zero {n : Nat} (positive : 0 < n) (small : n < 10) : n.digitChar ≠ '0' := by
  interval_cases n <;> decide

/-- A positive number is written without leading zeros. -/
theorem head_repr {n : Nat} (positive : 0 < n) : (Nat.repr n).toList.head? ≠ some '0' := by
  rw [Nat.toList_repr]
  induction n using Nat.strongRecOn with
  | ind n ih =>
    by_cases small : n < 10
    · rw [Nat.toDigits_of_lt_base small]
      simpa using digitChar_ne_zero positive small
    · have less : n / 10 < n := Nat.div_lt_self positive (by decide)
      have before := ih (n / 10) less (Nat.div_pos (Nat.le_of_not_lt small) (by decide))
      rw [Nat.toDigits_of_base_le (by decide) (Nat.le_of_not_lt small), List.head?_append]
      cases front : (Nat.toDigits 10 (n / 10)).head? with
      | none => exact absurd (List.head?_eq_none_iff.1 front) Nat.toDigits_ne_nil
      | some c =>
        rw [front] at before
        exact before

/-- The digits of a decimal: no zeros at either end. -/
structure Trimmed (ds : List Char) : Prop where
  some : ds ≠ []
  digits : ∀ c ∈ ds, c.isDigit = true
  head : ds.head? ≠ Option.some '0'
  last : ds.getLast? ≠ Option.some '0'

theorem append_zeros (ds : List Char) :
    ∃ z, ds = Decimal.dropTrailingZeros ds ++ List.replicate z '0' := by
  refine ⟨(ds.reverse.takeWhile (· == '0')).length, ?_⟩
  have zeros : ds.reverse.takeWhile (· == '0') =
      List.replicate (ds.reverse.takeWhile (· == '0')).length '0' := by
    refine List.eq_replicate_iff.2 ⟨rfl, fun c member => ?_⟩
    simpa using List.all_eq_true.1 List.all_takeWhile c member
  have parts := congrArg List.reverse
    (List.takeWhile_append_dropWhile (p := (· == '0')) (l := ds.reverse))
  rw [List.reverse_append, List.reverse_reverse, zeros, List.reverse_replicate] at parts
  exact parts.symm

theorem last_dropTrailingZeros (ds : List Char) :
    (Decimal.dropTrailingZeros ds).getLast? ≠ some '0' := by
  unfold Decimal.dropTrailingZeros
  rw [List.getLast?_reverse]
  intro zero
  have test := List.head?_dropWhile_not (· == '0') ds.reverse
  rw [zero] at test
  exact absurd test (by decide)

/-- Dropping the zeros at the end of digits that have none in front trims them. -/
theorem trimmed_dropTrailingZeros {ds : List Char} (some : ds ≠ [])
    (digits : ∀ c ∈ ds, c.isDigit = true) (head : ds.head? ≠ Option.some '0') :
    Trimmed (Decimal.dropTrailingZeros ds) := by
  obtain ⟨z, parts⟩ := append_zeros ds
  have nonempty : Decimal.dropTrailingZeros ds ≠ [] := by
    intro none
    rw [none, List.nil_append] at parts
    cases z with
    | zero => exact some parts
    | succ z =>
      rw [parts, List.replicate_succ, List.head?_cons] at head
      exact head rfl
  refine ⟨nonempty, fun c member => ?_, fun zero => head ?_, last_dropTrailingZeros ds⟩
  · exact digits c (parts ▸ List.mem_append_left _ member)
  · rw [parts, List.head?_append, zero, Option.some_or]

theorem trimmed_repr {n : Nat} (positive : 0 < n) :
    Trimmed (Decimal.dropTrailingZeros (Nat.repr n).toList) :=
  trimmed_dropTrailingZeros (repr_ne_nil n) (fun _ => isDigit_of_mem_repr) (head_repr positive)

theorem dot_not_mem {ds : List Char} (digits : ∀ c ∈ ds, c.isDigit = true) : '.' ∉ ds :=
  fun member => absurd (digits _ member) (by decide)

theorem zeros_append_injective {m n : Nat} {ds es : List Char} (head : ds.head? ≠ some '0')
    (head' : es.head? ≠ some '0')
    (same : List.replicate m '0' ++ ds = List.replicate n '0' ++ es) : m = n ∧ ds = es := by
  induction m generalizing n with
  | zero =>
    cases n with
    | zero => exact ⟨rfl, same⟩
    | succ n =>
      rw [List.replicate_zero, List.nil_append] at same
      exact absurd (by rw [same]; rfl) head
  | succ m ih =>
    cases n with
    | zero =>
      rw [List.replicate_zero, List.nil_append] at same
      exact absurd (by rw [← same]; rfl) head'
    | succ n =>
      rw [List.replicate_succ, List.replicate_succ, List.cons_append, List.cons_append] at same
      obtain ⟨count, rest⟩ := ih (List.cons.inj same).2
      exact ⟨congrArg (· + 1) count, rest⟩

theorem append_zeros_injective {m n : Nat} {ds es : List Char} (last : ds.getLast? ≠ some '0')
    (last' : es.getLast? ≠ some '0')
    (same : ds ++ List.replicate m '0' = es ++ List.replicate n '0') : m = n ∧ ds = es := by
  have turned := congrArg List.reverse same
  rw [List.reverse_append, List.reverse_append, List.reverse_replicate, List.reverse_replicate]
    at turned
  obtain ⟨count, rest⟩ := zeros_append_injective (by rwa [List.head?_reverse])
    (by rwa [List.head?_reverse]) turned
  exact ⟨count, List.reverse_injective rest⟩

/-- Where a mark stands that is in neither front, a list can be cut in one way. -/
theorem cut_injective {α : Type} {mark : α} {as bs cs ds : List α} (front : mark ∉ as)
    (front' : mark ∉ bs) (same : as ++ mark :: cs = bs ++ mark :: ds) : as = bs ∧ cs = ds := by
  induction as generalizing bs with
  | nil =>
    cases bs with
    | nil => exact ⟨rfl, (List.cons.inj same).2⟩
    | cons b bs => exact absurd ((List.cons.inj same).1 ▸ List.mem_cons_self ..) front'
  | cons a as ih =>
    cases bs with
    | nil => exact absurd ((List.cons.inj same).1 ▸ List.mem_cons_self ..) front
    | cons b bs =>
      obtain ⟨rfl, rest⟩ := List.cons.inj same
      obtain ⟨rfl, rfl⟩ := ih (fun member => front (List.mem_cons_of_mem _ member))
        (fun member => front' (List.mem_cons_of_mem _ member)) rest
      exact ⟨rfl, rfl⟩

end ThreatHunt.Digits
