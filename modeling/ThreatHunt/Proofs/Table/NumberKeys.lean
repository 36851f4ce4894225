import Mathlib.Tactic.Tauto
import ThreatHunt.Proofs.Number.Rounding
import ThreatHunt.Proofs.Number.Text
import ThreatHunt.Proofs.Table.Grouping
import ThreatHunt.Proofs.Table.Pairs
import ThreatHunt.Value.Order

/-!
Keys of numbers. Two numbers have one key just if the floating point numbers nearest to them are the
same, sign included. Comparison tells integers apart that have one nearest number, and knows no sign
of zero, so these are the two ways in which keys and comparison disagree.
-/

namespace ThreatHunt.Value

variable {v w : Value} {x y : Binary64}

/-- Whether a value is a number that can be compared. -/
def IsNumber (v : Value) : Prop := ∃ x, v.number? = some x ∧ x.isNaN = false

/-- Numbers whose keys do not say what comparison says. -/
inductive Mistaken (v w : Value) : Prop where
  /-- Different integers have one key. -/
  | rounded {i j : Int} (first : v = .int i) (second : w = .int j) (apart : i ≠ j)
      (nearest : Binary64.ofInt i = Binary64.ofInt j)
  /-- Zeros of either sign have two keys. -/
  | zeros {x y : Binary64} (first : v.number? = some x) (second : w.number? = some y)
      (zero : x.magnitude = 0) (zero' : y.magnitude = 0) (signs : x.isNegative ≠ y.isNegative)

/-- Whether keys take two numbers for equal ones: they are, or they are mistaken for such. -/
def TakenEqual (v w : Value) : Prop :=
  v.compare? w = some .eq ∧ ¬Mistaken v w ∨ v.compare? w ≠ some .eq ∧ Mistaken v w

theorem eq_iff_magnitude :
    x = y ↔ x.isNegative = y.isNegative ∧ x.magnitude = y.magnitude := by
  constructor
  · rintro rfl
    exact ⟨rfl, rfl⟩
  · rintro ⟨sign, magnitude⟩
    exact Decimal.eq_of_magnitude sign magnitude

theorem matchKey?_of_number (number : v.number? = some x) :
    v.matchKey? = some ("n:" ++ Decimal.text x) := by
  rw [matchKey?, number]

theorem matchKey?_eq_iff (first : v.number? = some x) (second : w.number? = some y)
    (number : x.isNaN = false) : v.matchKey? = w.matchKey? ↔ x = y := by
  rw [matchKey?_of_number first, matchKey?_of_number second, Option.some_inj,
    String.append_right_inj]
  constructor
  · intro same
    rcases Decimal.text_injective same with equal | ⟨none, -⟩
    · exact equal
    · exact absurd (number.symm.trans none) Bool.false_ne_true
  · rintro rfl
    rfl

theorem compare?_eq_iff (number : x.isNaN = false) (number' : y.isNaN = false) :
    x.compare? y = some .eq ↔ x.orderKey = y.orderKey := by
  simp [Binary64.compare?, number, number']

/-- Where the nearest numbers are compared, keys say the same but for zeros of either sign. -/
theorem keys_iff_of_compare? (compared : v.compare? w = x.compare? y)
    (first : v.number? = some x) (second : w.number? = some y) (number : x.isNaN = false)
    (number' : y.isNaN = false) :
    (v.matchKey? = w.matchKey? ↔ v.compare? w = some .eq) ↔
      ¬(x.magnitude = 0 ∧ y.magnitude = 0 ∧ x.isNegative ≠ y.isNegative) := by
  rw [matchKey?_eq_iff first second number, compared, compare?_eq_iff number number',
    Binary64.orderKey_eq_iff, eq_iff_magnitude]
  by_cases signs : x.isNegative = y.isNegative
  · simp only [signs, true_and, ne_eq, not_true_eq_false, and_false, not_false_eq_true, iff_true]
    omega
  · simp only [signs, false_and, false_or, false_iff, ne_eq, not_false_eq_true, and_true]

/-- Integers are compared as they are. -/
theorem keys_iff_of_int (i j : Int) :
    ((Value.int i).matchKey? = (Value.int j).matchKey? ↔
      (Value.int i).compare? (.int j) = some .eq) ↔
      ¬(i ≠ j ∧ Binary64.ofInt i = Binary64.ofInt j) := by
  have equal : (Value.int i).compare? (.int j) = some .eq ↔ i = j := by
    simp [compare?]
  rw [matchKey?_eq_iff rfl rfl (Binary64.isNaN_ofInt i), equal]
  constructor
  · rintro agree ⟨apart, nearest⟩
    exact apart (agree.1 nearest)
  · intro clear
    refine ⟨fun nearest => ?_, fun same => congrArg Binary64.ofInt same⟩
    by_contra apart
    exact clear ⟨apart, nearest⟩

theorem mistaken_int {i j : Int} : Mistaken (.int i) (.int j) ↔
    i ≠ j ∧ Binary64.ofInt i = Binary64.ofInt j := by
  constructor
  · rintro (⟨first, second, apart, nearest⟩ | ⟨first, second, zero, zero', signs⟩)
    · cases first
      cases second
      exact ⟨apart, nearest⟩
    · cases first
      cases second
      rw [Binary64.eq_zero_of_magnitude_ofInt zero, Binary64.eq_zero_of_magnitude_ofInt zero']
        at signs
      exact absurd rfl signs
  · rintro ⟨apart, nearest⟩
    exact .rounded rfl rfl apart nearest

theorem mistaken_iff_zeros (first : v.number? = some x) (second : w.number? = some y)
    (mixed : ∀ i j, ¬(v = .int i ∧ w = .int j)) :
    Mistaken v w ↔ x.magnitude = 0 ∧ y.magnitude = 0 ∧ x.isNegative ≠ y.isNegative := by
  constructor
  · rintro (⟨int, int', -, -⟩ | ⟨own, own', zero, zero', signs⟩)
    · exact absurd ⟨int, int'⟩ (mixed _ _)
    · cases first.symm.trans own
      cases second.symm.trans own'
      exact ⟨zero, zero', signs⟩
  · rintro ⟨zero, zero', signs⟩
    exact .zeros first second zero zero' signs

theorem keys_iff_of_nearest (first : v.number? = some x) (second : w.number? = some y)
    (number : x.isNaN = false) (number' : y.isNaN = false)
    (compared : v.compare? w = x.compare? y) (mixed : ∀ i j, ¬(v = .int i ∧ w = .int j)) :
    (v.matchKey? = w.matchKey? ↔ v.compare? w = some .eq) ↔ ¬Mistaken v w := by
  rw [keys_iff_of_compare? compared first second number number',
    mistaken_iff_zeros first second mixed]

/-- Keys of numbers say what comparison says, but for numbers that are mistaken. -/
theorem keys_iff (first : v.IsNumber) (second : w.IsNumber) :
    (v.matchKey? = w.matchKey? ↔ v.compare? w = some .eq) ↔ ¬Mistaken v w := by
  obtain ⟨x, nearest, number⟩ := first
  obtain ⟨y, nearest', number'⟩ := second
  cases v with
  | int i =>
    cases w with
    | int j => rw [keys_iff_of_int, mistaken_int]
    | float y' =>
      cases nearest
      cases nearest'
      exact keys_iff_of_nearest rfl rfl number number' rfl (by simp)
    | _ => cases nearest'
  | float x' =>
    cases w with
    | int j =>
      cases nearest
      cases nearest'
      exact keys_iff_of_nearest rfl rfl number number' rfl (by simp)
    | float y' =>
      cases nearest
      cases nearest'
      exact keys_iff_of_nearest rfl rfl number number' rfl (by simp)
    | _ => cases nearest'
  | _ => cases nearest

theorem matchKey?_eq_iff_taken (first : v.IsNumber) (second : w.IsNumber) :
    v.matchKey? = w.matchKey? ↔ TakenEqual v w := by
  have exact := keys_iff first second
  unfold TakenEqual
  tauto

theorem IsNumber.matchKey? (number : v.IsNumber) :
    ∃ x, v.matchKey? = some ("n:" ++ Decimal.text x) := by
  obtain ⟨x, nearest, -⟩ := number
  exact ⟨x, matchKey?_of_number nearest⟩

theorem isNumber_int (i : Int) : IsNumber (.int i) := ⟨_, rfl, Binary64.isNaN_ofInt i⟩

end ThreatHunt.Value

/-!
Tables of numbers. What is joined, grouped or counted as one are the numbers with one key: these are
the equal ones, except for integers with one nearest floating point number, which count as one
though they differ, and for zeros of either sign, which do not though they are equal.
-/

namespace ThreatHunt

open Value (IsNumber TakenEqual Mistaken matchKey?_eq_iff_taken)

namespace Table

variable {attrs : List String} {row other : Entity} {rows : List Entity} {attr : String}

theorem matches_iff_taken {leftAttr rightAttr : String} {l r : Entity}
    (first : IsNumber (l.valueOf leftAttr)) (second : IsNumber (r.valueOf rightAttr)) :
    Matches leftAttr rightAttr l r ↔ TakenEqual (l.valueOf leftAttr) (r.valueOf rightAttr) := by
  obtain ⟨x, own⟩ := first.matchKey?
  have keyed : (l.valueOf leftAttr).matchKey? ≠ none := by rw [own]; exact Option.some_ne_none _
  rw [Matches, and_iff_right keyed, matchKey?_eq_iff_taken first second]

theorem plain_of_number (number : IsNumber (row.valueOf attr)) : Plain row attr := by
  obtain ⟨x, own⟩ := number.matchKey?
  rw [Plain, keyPart, own, Option.getD_some, String.toList_append]
  intro member
  rcases List.mem_append.1 member with mark | digit
  · exact absurd mark (by decide)
  · exact absurd (Value.isNumeral_of_mem_text digit) (by decide)

theorem keyPart_iff_taken (first : IsNumber (row.valueOf attr))
    (second : IsNumber (other.valueOf attr)) :
    keyPart row attr = keyPart other attr ↔ TakenEqual (row.valueOf attr) (other.valueOf attr) := by
  rw [← matchKey?_eq_iff_taken first second]
  obtain ⟨x, own⟩ := first.matchKey?
  obtain ⟨y, own'⟩ := second.matchKey?
  rw [keyPart, keyPart, own, own', Option.getD_some, Option.getD_some, Option.some_inj]

theorem groupKey_iff_taken (first : ∀ a ∈ attrs, IsNumber (row.valueOf a))
    (second : ∀ a ∈ attrs, IsNumber (other.valueOf a)) :
    groupKey attrs row = groupKey attrs other ↔
      ∀ a ∈ attrs, TakenEqual (row.valueOf a) (other.valueOf a) := by
  rw [groupKey_eq_iff (fun a member => plain_of_number (first a member))
    (fun a member => plain_of_number (second a member))]
  exact forall₂_congr (fun a member => keyPart_iff_taken (first a member) (second a member))

/-- The values of an attribute that are not null. -/
def presentValues (attr : String) (rows : List Entity) : List Value :=
  (rows.map (fun row => row.valueOf attr)).filter (fun v => !v.isNull)

/-- Numbers that stand for some values, one for all that are taken for equal ones. -/
structure StandFor (kept vs : List Value) : Prop where
  part : kept.Sublist vs
  apart : kept.Pairwise (fun v w => ¬TakenEqual v w)
  all : ∀ v ∈ vs, ∃ w ∈ kept, TakenEqual v w

/-- Numbers are counted once for all that are taken for equal ones. -/
theorem exists_standFor (numbers : ∀ v ∈ presentValues attr rows, IsNumber v) :
    ∃ kept, StandFor kept (presentValues attr rows) ∧
      Aggregate.evaluate .distinct attr rows = .int kept.length := by
  obtain ⟨kept, part, shown⟩ :=
    Firsts.exists_representatives Value.matchKey? (presentValues attr rows)
  -- What is kept has the keys that are counted, each once, so it stands for all and is as long.
  have distinct : (kept.map Value.matchKey?).Nodup := by
    rw [shown]
    exact (Firsts.nodup_eraseDups _).map (Option.some_injective _)
  refine ⟨kept, ⟨part, ?_, fun v member => ?_⟩, ?_⟩
  · refine List.Pairwise.imp_of_mem (fun inside inside' differ taken => differ ?_)
      (List.pairwise_map.1 distinct)
    exact (matchKey?_eq_iff_taken (numbers _ (part.subset inside))
      (numbers _ (part.subset inside'))).2 taken
  · obtain ⟨x, own⟩ := (numbers v member).matchKey?
    have seen : v.matchKey? ∈ kept.map Value.matchKey? := by
      rw [shown, own]
      exact List.mem_map_of_mem (List.mem_eraseDups.2 (List.mem_filterMap.2 ⟨v, member, own⟩))
    obtain ⟨w, inside, same⟩ := List.mem_map.1 seen
    exact ⟨w, inside, (matchKey?_eq_iff_taken (numbers v member)
      (numbers w (part.subset inside))).1 same.symm⟩
  · have size := congrArg List.length shown
    rw [List.length_map, List.length_map] at size
    rw [size, ← Schema.distinct_eq_eraseDups]
    rfl

/-- Keys of numbers say what comparison says, but for numbers that are mistaken. So a join pairs the
rows whose numbers are taken for equal, groups hold such rows together, and they count as one. -/
theorem numbers_keyed (v w : Value) (left right : Table) (leftAttr rightAttr : String)
    (attrs : List String) (attr : String) (rows : List Entity) :
    (v.IsNumber → w.IsNumber →
      ((v.matchKey? = w.matchKey? ↔ v.compare? w = some .eq) ↔ ¬Mistaken v w)) ∧
    (∃ pairs, JoinedAt (Matches leftAttr rightAttr) left.rows right.rows pairs
        (joinRows left right leftAttr rightAttr) ∧
      ∀ i j, IsNumber (left.rows[i].valueOf leftAttr) →
        IsNumber (right.rows[j].valueOf rightAttr) →
        ((i, j) ∈ pairs ↔
          TakenEqual (left.rows[i].valueOf leftAttr) (right.rows[j].valueOf rightAttr))) ∧
    (∀ row ∈ rows, ∀ other ∈ rows, (∀ a ∈ attrs, IsNumber (row.valueOf a)) →
      (∀ a ∈ attrs, IsNumber (other.valueOf a)) →
      ((∃ g ∈ groups attrs rows, row ∈ g.2 ∧ other ∈ g.2) ↔
        ∀ a ∈ attrs, TakenEqual (row.valueOf a) (other.valueOf a))) ∧
    ((∀ v ∈ presentValues attr rows, IsNumber v) →
      ∃ kept, StandFor kept (presentValues attr rows) ∧
        Aggregate.evaluate .distinct attr rows = .int kept.length) := by
  refine ⟨fun first second => Value.keys_iff first second, ?_,
    fun row there other there' first second => ?_, exists_standFor⟩
  · refine ⟨pairs (Matches leftAttr rightAttr) left.rows right.rows,
      ⟨pairwise_pairs _ _ _, fun i j => mem_pairs _, ?_⟩, fun i j first second => ?_⟩
    · rw [joinRows_eq_filter]
      exact forall₂_pairs _ left.rows right.rows
    · rw [mem_pairs, matches_iff_taken first second]
  · rw [together_iff there there', groupKey_iff_taken first second]

/-- An integer and the floating point number of its value are one in a join, in groups and in
counts. -/
theorem numbers_keyed_together :
    let two : Value := .int 2
    let second : Value := .float (Binary64.ofInt 2)
    let row : Entity := ⟨"p1", Dict.ofList [("load", two)]⟩
    let other : Entity := ⟨"p2", Dict.ofList [("load", second)]⟩
    let left : Table := ofRows "process" [row]
    let right : Table := ofRows "process" [other]
    (two.matchKey? = second.matchKey? ↔ two.compare? second = some .eq) ∧
      (∃ pairs, JoinedAt (Matches "load" "load") left.rows right.rows pairs
        (joinRows left right "load" "load") ∧ (⟨0, by decide⟩, ⟨0, by decide⟩) ∈ pairs) ∧
      (∃ g ∈ groups ["load"] [row, other], row ∈ g.2 ∧ other ∈ g.2) ∧
      ∃ kept, StandFor kept (presentValues "load" [row, other]) ∧
        Aggregate.evaluate .distinct "load" [row, other] = .int kept.length := by
  intro two second row other left right
  have first : two.IsNumber := Value.isNumber_int 2
  have float : second.IsNumber := ⟨_, rfl, Binary64.isNaN_ofInt 2⟩
  have clear : ¬Mistaken two second := by
    rw [Value.mistaken_iff_zeros rfl rfl (by simp [two, second])]
    decide
  have taken : TakenEqual two second := .inl ⟨by decide, clear⟩
  have each : ∀ v ∈ presentValues "load" [row, other], v.IsNumber := by
    intro v member
    have values : presentValues "load" [row, other] = [two, second] := rfl
    rw [values] at member
    rcases List.mem_pair.1 member with rfl | rfl
    · exact first
    · exact float
  obtain ⟨keys, ⟨pairs, joined, exact⟩, grouped, counted⟩ :=
    numbers_keyed two second left right "load" "load" ["load"] "load" [row, other]
  refine ⟨(keys first float).2 clear, ⟨pairs, joined, ?_⟩, ?_, counted each⟩
  · exact (exact ⟨0, by decide⟩ ⟨0, by decide⟩ first float).2 taken
  · refine (grouped row (by simp) other (by simp) ?_ ?_).2 ?_
    · intro a member
      rw [List.mem_singleton.1 member]
      exact first
    · intro a member
      rw [List.mem_singleton.1 member]
      exact float
    · intro a member
      rw [List.mem_singleton.1 member]
      exact taken

/-- Two integers that differ have one key, and the zeros have two. -/
theorem numbers_keyed_mistaken :
    (¬∀ i j : Int, (Value.int i).matchKey? = (Value.int j).matchKey? →
      (Value.int i).compare? (.int j) = some .eq) ∧
    ¬∀ v w : Value, v.IsNumber → w.IsNumber → v.compare? w = some .eq →
      v.matchKey? = w.matchKey? := by
  constructor
  · intro exact
    have nearest : Binary64.ofInt 9007199254740992 = Binary64.ofInt 9007199254740993 := by decide
    have keys : (Value.int 9007199254740992).matchKey? = (Value.int 9007199254740993).matchKey? :=
      (Value.matchKey?_eq_iff rfl rfl (Binary64.isNaN_ofInt _)).2 nearest
    exact absurd (exact _ _ keys) (by decide)
  · intro exact
    have zero : Value.IsNumber (.float Binary64.negativeZero) := ⟨_, rfl, by decide⟩
    have keys := exact (.int 0) (.float Binary64.negativeZero) (Value.isNumber_int 0) zero (by decide)
    exact absurd ((Value.matchKey?_eq_iff rfl rfl (Binary64.isNaN_ofInt 0)).1 keys) (by decide)

end Table
end ThreatHunt
