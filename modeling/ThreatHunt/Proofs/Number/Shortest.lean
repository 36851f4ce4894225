import Mathlib.Tactic.Positivity
import ThreatHunt.Number.Decimal
import ThreatHunt.Proofs.Number.Neighbours

/-!
The shortest decimal that reads back. Seventeen digits always suffice, and no decimal reads back as
two numbers.
-/

namespace ThreatHunt.Decimal

open Binary64

variable {x y : Binary64}

/-- How far the interval of a number reaches down, in quarters of the distance above it. -/
def reachBelow (x : Binary64) : Nat := if x.significand = hiddenBit ∧ -1074 < x.exponent then 1 else 2

theorem gapAfter_eq (x : Binary64) : gapAfter x.magnitude = 2 ^ (x.exponent + 1074).toNat := by
  unfold gapAfter exponent hiddenBit
  congr 1
  split <;> omega

/-- The interval of a number ends halfway to the next one. -/
theorem high_eq (x : Binary64) :
    (4 * x.significand + 2) * 2 ^ (x.exponent + 1074).toNat = middle x.magnitude := by
  rw [middle, sizeOf_succ, ← significand_eq, gapAfter_eq]
  ring

theorem gapAfter_pred (positive : 1 ≤ x.magnitude) :
    2 * gapAfter (x.magnitude - 1) = reachBelow x * gapAfter x.magnitude := by
  unfold gapAfter reachBelow significand exponent hiddenBit
  by_cases below : x.magnitude < 4503599627370496
  · have least : ¬(x.magnitude = 4503599627370496 ∧ (-1074 : Int) < -1074) := by omega
    rw [if_pos below, if_pos below, if_neg least]
    have same : (x.magnitude - 1) / 4503599627370496 = x.magnitude / 4503599627370496 := by omega
    rw [same]
  · rw [if_neg below, if_neg below]
    by_cases first : x.magnitude % 4503599627370496 = 0 ∧ 2 ≤ x.magnitude / 4503599627370496
    · rw [if_pos (by omega)]
      obtain ⟨p, quotient⟩ : ∃ p, x.magnitude / 4503599627370496 = p + 2 :=
        ⟨x.magnitude / 4503599627370496 - 2, by omega⟩
      have less : (x.magnitude - 1) / 4503599627370496 - 1 = p := by omega
      rw [less, quotient, show p + 2 - 1 = p + 1 from rfl, pow_succ]
      ring
    · rw [if_neg (by omega)]
      have same : (x.magnitude - 1) / 4503599627370496 - 1 =
          x.magnitude / 4503599627370496 - 1 := by omega
      rw [same]

/-- The interval of a number begins halfway to the one before. -/
theorem low_eq (positive : 1 ≤ x.magnitude) :
    (4 * x.significand - reachBelow x) * 2 ^ (x.exponent + 1074).toNat =
      middle (x.magnitude - 1) := by
  have next := sizeOf_succ (x.magnitude - 1)
  rw [Nat.sub_add_cancel positive] at next
  have gap := gapAfter_pred positive
  rw [gapAfter_eq] at gap
  rw [Nat.sub_mul, ← gap, Nat.mul_assoc, significand_eq, middle, Nat.sub_add_cancel positive]
  omega

theorem significand_pos (positive : 1 ≤ x.magnitude) : 1 ≤ x.significand := by
  unfold significand hiddenBit
  split <;> omega

/-- Quarters of the least number in one. -/
def quarters : Nat := 2 ^ 1076

theorem quarters_pos : 0 < quarters := by
  unfold quarters
  positivity

/-- One power of two on the grid is the unit times another. -/
theorem scale_eq {e : Int} (least : -1074 ≤ e) :
    2 ^ (e - 2).toNat * quarters = 2 ^ (2 - e).toNat * 2 ^ (e + 1074).toNat := by
  rw [quarters, ← pow_add, ← pow_add]
  congr 1
  omega

/-- A decimal reads back if it lies in the interval of the number; at the ends of the interval it
does so only where the significand is even. -/
theorem holds_iff {k : Int} {c : Nat} :
    (Grid.place x.significand x.exponent k).holds c = true ↔
      let grow := 2 ^ (x.exponent - 2).toNat * 10 ^ (-k).toNat
      let shifted := c * (2 ^ (2 - x.exponent).toNat * 10 ^ k.toNat)
      if x.magnitude % 2 = 0 then
        (4 * x.significand - reachBelow x) * grow ≤ shifted ∧
          shifted ≤ (4 * x.significand + 2) * grow
      else
        (4 * x.significand - reachBelow x) * grow < shifted ∧
          shifted < (4 * x.significand + 2) * grow := by
  rw [← significand_parity]
  by_cases even : x.significand % 2 = 0
  · simp only [Grid.holds, Grid.place, even, beq_self_eq_true, if_true, Bool.and_eq_true,
      decide_eq_true_eq]
    rfl
  · simp only [Grid.holds, Grid.place, even, beq_eq_false_iff_ne.2 even, Bool.false_eq_true,
      if_false, Bool.and_eq_true, decide_eq_true_eq]
    rfl

/-- The same in quarters of the least number. -/
theorem holds_bounds (finite : x.isFinite = true) (positive : 1 ≤ x.magnitude) {k : Int} {c : Nat}
    (holds : (Grid.place x.significand x.exponent k).holds c = true) :
    let decimal := c * 10 ^ k.toNat * quarters
    let low := middle (x.magnitude - 1) * 10 ^ (-k).toNat
    let high := middle x.magnitude * 10 ^ (-k).toNat
    low ≤ decimal ∧ decimal ≤ high ∧ (x.magnitude % 2 ≠ 0 → low < decimal ∧ decimal < high) := by
  intro decimal low high
  have grow : 0 < 2 ^ (2 - x.exponent).toNat := Nat.pow_pos (by decide)
  have left : ∀ n : Nat, n * (2 ^ (x.exponent - 2).toNat * 10 ^ (-k).toNat) * quarters =
      2 ^ (2 - x.exponent).toNat * (n * 2 ^ (x.exponent + 1074).toNat * 10 ^ (-k).toNat) := by
    intro n
    calc n * (2 ^ (x.exponent - 2).toNat * 10 ^ (-k).toNat) * quarters
        = n * (2 ^ (x.exponent - 2).toNat * quarters) * 10 ^ (-k).toNat := by ring
      _ = _ := by rw [scale_eq (exponent_bounds finite).1]; ring
  have lower := left (4 * x.significand - reachBelow x)
  have upper := left (4 * x.significand + 2)
  rw [low_eq positive] at lower
  rw [high_eq] at upper
  have shifted : c * (2 ^ (2 - x.exponent).toNat * 10 ^ k.toNat) * quarters =
      2 ^ (2 - x.exponent).toNat * decimal := by
    simp only [decimal]
    ring
  have bounds := holds_iff.1 holds
  by_cases even : x.magnitude % 2 = 0
  · simp only [even, if_true] at bounds
    have above := Nat.mul_le_mul_right quarters bounds.1
    have beneath := Nat.mul_le_mul_right quarters bounds.2
    rw [lower, shifted] at above
    rw [upper, shifted] at beneath
    exact ⟨Nat.le_of_mul_le_mul_left above grow, Nat.le_of_mul_le_mul_left beneath grow,
      fun odd => absurd even odd⟩
  · simp only [even, if_false] at bounds
    have above := Nat.mul_lt_mul_of_pos_right bounds.1 quarters_pos
    have beneath := Nat.mul_lt_mul_of_pos_right bounds.2 quarters_pos
    rw [lower, shifted] at above
    rw [upper, shifted] at beneath
    have above := Nat.lt_of_mul_lt_mul_left above
    have beneath := Nat.lt_of_mul_lt_mul_left beneath
    exact ⟨Nat.le_of_lt above, Nat.le_of_lt beneath, fun _ => ⟨above, beneath⟩⟩

theorem middle_pos (a : Nat) : 0 < middle (a - 1) := by
  have some : Binary64.sizeOf 0 < Binary64.sizeOf (a - 1 + 1) := sizeOf_strictMono (by omega)
  unfold middle
  omega

/-- Whether two decimals `c · 10^k` are the same number. -/
def SameDecimal (c : Nat) (k : Int) (d : Nat) (l : Int) : Prop :=
  c * 10 ^ k.toNat * 10 ^ (-l).toNat = d * 10 ^ l.toNat * 10 ^ (-k).toNat

/-- No decimal reads back as two numbers. -/
theorem magnitude_not_lt (finite : x.isFinite = true) (finite' : y.isFinite = true)
    (positive : 1 ≤ x.magnitude) {k l : Int} {c d : Nat} (same : SameDecimal c k d l)
    (first : (Grid.place x.significand x.exponent k).holds c = true)
    (second : (Grid.place y.significand y.exponent l).holds d = true) :
    ¬x.magnitude < y.magnitude := by
  intro less
  obtain ⟨_, high, oddHigh⟩ := holds_bounds finite positive first
  obtain ⟨low, _, oddLow⟩ := holds_bounds finite' (by omega) second
  have tens : 0 < 10 ^ (-k).toNat * 10 ^ (-l).toNat :=
    Nat.mul_pos (Nat.pow_pos (by decide)) (Nat.pow_pos (by decide))
  -- Both decimals over the common denominator.
  have common : c * 10 ^ k.toNat * quarters * 10 ^ (-l).toNat =
      d * 10 ^ l.toNat * quarters * 10 ^ (-k).toNat := by
    calc c * 10 ^ k.toNat * quarters * 10 ^ (-l).toNat
        = c * 10 ^ k.toNat * 10 ^ (-l).toNat * quarters := by ring
      _ = _ := by rw [same]; ring
  have middles := middle_le less
  have ends : middle (y.magnitude - 1) = middle x.magnitude := by
    refine Nat.le_antisymm (Nat.le_of_mul_le_mul_right ?_ tens) middles
    have below := Nat.mul_le_mul_right (10 ^ (-k).toNat) low
    have above := Nat.mul_le_mul_right (10 ^ (-l).toNat) high
    rw [common] at above
    calc middle (y.magnitude - 1) * (10 ^ (-k).toNat * 10 ^ (-l).toNat)
        = middle (y.magnitude - 1) * 10 ^ (-l).toNat * 10 ^ (-k).toNat := by ring
      _ ≤ d * 10 ^ l.toNat * quarters * 10 ^ (-k).toNat := below
      _ ≤ middle x.magnitude * 10 ^ (-k).toNat * 10 ^ (-l).toNat := above
      _ = _ := by ring
  have next := eq_of_middle_eq ends.symm less
  -- Of two neighbours one is odd, and its interval has no ends.
  rcases Nat.mod_two_eq_zero_or_one x.magnitude with even | odd
  · have strict := (oddLow (by omega)).1
    have below := Nat.mul_lt_mul_of_pos_right strict (show 0 < 10 ^ (-k).toNat from
      Nat.pow_pos (by decide))
    have above := Nat.mul_le_mul_right (10 ^ (-l).toNat) high
    rw [common] at above
    rw [ends] at below
    have absurdly := Nat.lt_of_lt_of_le below above
    rw [Nat.mul_right_comm] at absurdly
    exact Nat.lt_irrefl _ absurdly
  · have strict := (oddHigh (by omega)).2
    have above := Nat.mul_lt_mul_of_pos_right strict (show 0 < 10 ^ (-l).toNat from
      Nat.pow_pos (by decide))
    have below := Nat.mul_le_mul_right (10 ^ (-k).toNat) low
    rw [common] at above
    rw [ends] at below
    have absurdly := Nat.lt_of_le_of_lt below above
    rw [Nat.mul_right_comm] at absurdly
    exact Nat.lt_irrefl _ absurdly

theorem tens_le_twos : ∀ t < 1024, 10 ^ (t * 30103 / 100000) ≤ 2 ^ t := by decide +kernel

theorem twos_le_tens : ∀ t < 1075, 2 ^ t ≤ 10 ^ ((t * 30103 + 99999) / 100000) := by
  decide +kernel

/-- The logarithm that is taken for a first guess never exceeds the true one. -/
theorem guess_le {t : Int} (least : -1074 ≤ t) (most : t ≤ 1023) :
    10 ^ ((t * 30103).fdiv 100000).toNat * 2 ^ (-t).toNat ≤
      2 ^ t.toNat * 10 ^ (-((t * 30103).fdiv 100000)).toNat := by
  rw [Int.fdiv_eq_ediv_of_nonneg _ (by decide)]
  by_cases negative : t < 0
  · have power : (-(t * 30103 / 100000)).toNat = ((-t).toNat * 30103 + 99999) / 100000 := by omega
    rw [show (t * 30103 / 100000).toNat = 0 by omega, show t.toNat = 0 by omega, power, pow_zero,
      pow_zero, Nat.one_mul, Nat.one_mul]
    exact twos_le_tens _ (by omega)
  · have power : (t * 30103 / 100000).toNat = t.toNat * 30103 / 100000 := by omega
    rw [show (-(t * 30103 / 100000)).toNat = 0 by omega, show (-t).toNat = 0 by omega, power,
      pow_zero, pow_zero, Nat.mul_one, Nat.mul_one]
    exact tens_le_twos _ (by omega)

/-- The first digit of a number does not stand above the number. -/
theorem firstPlace_le {m : Nat} {e : Int} (positive : 1 ≤ m) (small : m < 2 ^ 53)
    (least : -1074 ≤ e) (most : e ≤ 971) :
    10 ^ (firstPlace m e - 1).toNat * 2 ^ (-e).toNat ≤
      m * 2 ^ e.toNat * 10 ^ (1 - firstPlace m e).toNat := by
  have log : m.log2 ≤ 52 := Nat.le_of_lt_succ ((Nat.log2_lt (by omega)).2 small)
  unfold firstPlace
  rw [scaled_eq]
  dsimp only
  generalize guessed : (((m.log2 : Int) + e) * 30103).fdiv 100000 = low
  by_cases reached : if 0 ≤ low + 1 then
      Nat.pow 10 (low + 1).toNat * 2 ^ (-e).toNat ≤ m * 2 ^ e.toNat
    else 2 ^ (-e).toNat ≤ m * 2 ^ e.toNat * Nat.pow 10 (-(low + 1)).toNat
  · rw [if_pos reached, show low + 2 - 1 = low + 1 by omega,
      show 1 - (low + 2) = -(low + 1) by omega]
    split at reached
    · rw [show (-(low + 1)).toNat = 0 by omega, pow_zero, Nat.mul_one]
      exact reached
    · rw [show (low + 1).toNat = 0 by omega, pow_zero, Nat.one_mul]
      exact reached
  · rw [if_neg reached, show low + 1 - 1 = low by omega, show 1 - (low + 1) = -low by omega]
    have guess := guess_le (t := m.log2 + e) (by omega) (by omega)
    rw [guessed] at guess
    have power : 2 ^ (m.log2 + e).toNat * 2 ^ (-e).toNat =
        2 ^ m.log2 * 2 ^ e.toNat * 2 ^ (-(m.log2 + e)).toNat := by
      rw [← pow_add, ← pow_add, ← pow_add]
      congr 1
      omega
    have less : 2 ^ m.log2 ≤ m := Nat.log2_self_le (by omega)
    have cancel : 0 < 2 ^ (-(m.log2 + e)).toNat := Nat.pow_pos (by decide)
    refine Nat.le_of_mul_le_mul_right ?_ cancel
    calc 10 ^ low.toNat * 2 ^ (-e).toNat * 2 ^ (-(m.log2 + e)).toNat
        = 10 ^ low.toNat * 2 ^ (-(m.log2 + e)).toNat * 2 ^ (-e).toNat := by ring
      _ ≤ 2 ^ (m.log2 + e).toNat * 10 ^ (-low).toNat * 2 ^ (-e).toNat :=
          Nat.mul_le_mul_right _ guess
      _ = 2 ^ (m.log2 + e).toNat * 2 ^ (-e).toNat * 10 ^ (-low).toNat := by ring
      _ = 2 ^ m.log2 * (2 ^ e.toNat * 2 ^ (-(m.log2 + e)).toNat * 10 ^ (-low).toNat) := by
          rw [power]; ring
      _ ≤ m * (2 ^ e.toNat * 2 ^ (-(m.log2 + e)).toNat * 10 ^ (-low).toNat) :=
          Nat.mul_le_mul_right _ less
      _ = m * 2 ^ e.toNat * 10 ^ (-low).toNat * 2 ^ (-(m.log2 + e)).toNat := by ring

/-- On the grid of seventeen digits a step is no wider than the number over `10^16`. -/
theorem step_le {m : Nat} {e : Int} (positive : 1 ≤ m) (small : m < 2 ^ 53) (least : -1074 ≤ e)
    (most : e ≤ 971) :
    10 ^ 16 * (Grid.place m e (firstPlace m e - 17)).step ≤
      (Grid.place m e (firstPlace m e - 17)).value := by
  have first := firstPlace_le positive small least most
  simp only [Grid.place]
  generalize firstPlace m e = p at first ⊢
  have tens : 10 ^ 16 * 10 ^ (p - 17).toNat * 10 ^ (1 - p).toNat =
      10 ^ (p - 1).toNat * 10 ^ (-(p - 17)).toNat := by
    rw [← pow_add, ← pow_add, ← pow_add]
    congr 1
    omega
  have twos : 2 ^ (2 - e).toNat * 2 ^ e.toNat = 4 * 2 ^ (e - 2).toNat * 2 ^ (-e).toNat := by
    rw [show (4 : Nat) = 2 ^ 2 from rfl, ← pow_add, ← pow_add, ← pow_add]
    congr 1
    omega
  have cancel : 0 < 10 ^ (1 - p).toNat * 2 ^ e.toNat :=
    Nat.mul_pos (Nat.pow_pos (by decide)) (Nat.pow_pos (by decide))
  refine Nat.le_of_mul_le_mul_right ?_ cancel
  calc 10 ^ 16 * (2 ^ (2 - e).toNat * 10 ^ (p - 17).toNat) * (10 ^ (1 - p).toNat * 2 ^ e.toNat)
      = 10 ^ 16 * 10 ^ (p - 17).toNat * 10 ^ (1 - p).toNat * (2 ^ (2 - e).toNat * 2 ^ e.toNat) := by
        ring
    _ = 4 * 2 ^ (e - 2).toNat * 10 ^ (-(p - 17)).toNat * (10 ^ (p - 1).toNat * 2 ^ (-e).toNat) := by
        rw [tens, twos]; ring
    _ ≤ 4 * 2 ^ (e - 2).toNat * 10 ^ (-(p - 17)).toNat * (m * 2 ^ e.toNat * 10 ^ (1 - p).toNat) :=
        Nat.mul_le_mul_left _ first
    _ = 4 * m * (2 ^ (e - 2).toNat * 10 ^ (-(p - 17)).toNat) * (10 ^ (1 - p).toNat * 2 ^ e.toNat) := by
        ring

namespace Grid

variable {g : Grid} {tie : Tie}

theorem holds_of_between {c : Nat} (above : g.low < c * g.step) (below : c * g.step < g.high) :
    g.holds c = true := by
  unfold holds
  split
  · simp [Nat.le_of_lt above, Nat.le_of_lt below]
  · simp [above, below]

theorem holds_of_nearest? {c : Nat} (found : g.nearest? tie = some c) : g.holds c = true := by
  unfold nearest? at found
  dsimp only at found
  split at found
  · rename_i lower upper
    rw [← Option.some.inj found]
    cases tie with
    | up =>
      dsimp only
      split
      · exact upper
      · exact lower
    | even =>
      dsimp only
      split
      · exact upper
      · exact lower
  · rename_i lower _
    exact Option.some.inj found ▸ lower
  · rename_i _ upper
    exact Option.some.inj found ▸ upper
  · nomatch found

theorem nearest?_isSome (tie : Tie) (either : g.holds (g.value / g.step) = true ∨
    g.holds (g.value / g.step + 1) = true) : (g.nearest? tie).isSome = true := by
  unfold nearest?
  dsimp only
  split
  · rfl
  · rfl
  · rfl
  · rename_i lower upper
    rcases either with this | this
    · exact absurd (lower.symm.trans this) (by decide)
    · exact absurd (upper.symm.trans this) (by decide)

end Grid

/-- Between the ends of its interval a number has a decimal of seventeen digits. -/
theorem holds_seventeen (finite : x.isFinite = true) (positive : 1 ≤ x.magnitude) :
    let g := Grid.place x.significand x.exponent (firstPlace x.significand x.exponent - 17)
    g.holds (g.value / g.step) = true ∨ g.holds (g.value / g.step + 1) = true := by
  intro g
  have small := significand_lt x
  have range := exponent_bounds finite
  have fine : 10 ^ 16 * g.step ≤ g.value :=
    step_le (significand_pos positive) small range.1 range.2
  have positive_grow : 0 < 2 ^ (x.exponent - 2).toNat *
      10 ^ (-(firstPlace x.significand x.exponent - 17)).toNat :=
    Nat.mul_pos (Nat.pow_pos (by decide)) (Nat.pow_pos (by decide))
  have value : g.value = 4 * x.significand * (2 ^ (x.exponent - 2).toNat *
      10 ^ (-(firstPlace x.significand x.exponent - 17)).toNat) := rfl
  have low : g.low = (4 * x.significand - reachBelow x) * (2 ^ (x.exponent - 2).toNat *
      10 ^ (-(firstPlace x.significand x.exponent - 17)).toNat) := rfl
  have high : g.high = (4 * x.significand + 2) * (2 ^ (x.exponent - 2).toNat *
      10 ^ (-(firstPlace x.significand x.exponent - 17)).toNat) := rfl
  have step : 0 < g.step := Nat.mul_pos (Nat.pow_pos (by decide)) (Nat.pow_pos (by decide))
  generalize 2 ^ (x.exponent - 2).toNat *
      10 ^ (-(firstPlace x.significand x.exponent - 17)).toNat = grow at *
  have division := Nat.div_add_mod g.value g.step
  have remainder := Nat.mod_lt g.value step
  rw [Nat.mul_comm] at division
  have wider : g.value < g.high := by
    rw [value, high]
    exact Nat.mul_lt_mul_of_pos_right (by omega) positive_grow
  by_cases above : g.low < g.value / g.step * g.step
  · exact .inl (Grid.holds_of_between above (by omega))
  · refine .inr (Grid.holds_of_between ?_ ?_)
    · rw [Nat.succ_mul]
      have lower : g.low ≤ g.value := by
        rw [value, low]
        exact Nat.mul_le_mul_right _ (Nat.sub_le _ _)
      omega
    · rw [Nat.succ_mul]
      by_contra beyond
      -- A step that leaps over the interval would be too wide for sixteen digits.
      have reach : reachBelow x ≤ 4 * x.significand := by
        have := significand_pos positive
        unfold reachBelow
        split <;> omega
      have span : g.low + (reachBelow x + 2) * grow = g.high := by
        rw [low, high, ← Nat.add_mul]
        congr 1
        omega
      have wide : (reachBelow x + 2) * grow ≤ g.step := by omega
      have most := Nat.le_trans (Nat.mul_le_mul_left (10 ^ 16) wide) fine
      rw [value, ← Nat.mul_assoc] at most
      have few := Nat.le_of_mul_le_mul_right most positive_grow
      unfold reachBelow hiddenBit at few
      split at few <;> omega

theorem findSome?_of_isSome {α β : Type} {f : α → Option β} {as : List α} {a : α}
    (member : a ∈ as) (some : (f a).isSome = true) :
    ∃ b ∈ as, ∃ c, f b = Option.some c ∧ as.findSome? f = Option.some c := by
  obtain ⟨c, found⟩ := Option.isSome_iff_exists.1 (List.findSome?_isSome_iff.2 ⟨a, member, some⟩)
  obtain ⟨b, there, made⟩ := List.exists_of_findSome?_eq_some found
  exact ⟨b, there, c, made, found⟩

/-- The shortest decimal is made of a positive number of steps that reads back. -/
theorem shortest_eq (finite : x.isFinite = true) (positive : 1 ≤ x.magnitude) (tie : Tie) :
    ∃ (c : Nat) (k : Int), 0 < c ∧ (Grid.place x.significand x.exponent k).holds c = true ∧
      shortest tie x.significand x.exponent =
        (dropTrailingZeros (Nat.repr c).toList, k + (Nat.repr c).toList.length) := by
  have seventeen := Grid.nearest?_isSome tie (holds_seventeen finite positive)
  have last : (((Grid.place x.significand x.exponent
      (firstPlace x.significand x.exponent - (16 + 1 : Nat))).nearest? tie).map
        (fun c => (c, firstPlace x.significand x.exponent - ((16 + 1 : Nat) : Int)))).isSome =
      true := by
    rw [Option.isSome_map]
    exact seventeen
  obtain ⟨n, _, ⟨c, k⟩, made, found⟩ := findSome?_of_isSome (f := fun n : Nat =>
    ((Grid.place x.significand x.exponent
      (firstPlace x.significand x.exponent - (n + 1 : Nat))).nearest? tie).map
        (fun c => (c, firstPlace x.significand x.exponent - ((n + 1 : Nat) : Int))))
    (List.mem_range.2 (show 16 < 17 by decide)) last
  obtain ⟨c, nearest, same⟩ := Option.map_eq_some_iff.1 made
  obtain ⟨rfl, rfl⟩ := Prod.mk.inj same
  have holds := Grid.holds_of_nearest? nearest
  refine ⟨c, _, ?_, holds, ?_⟩
  · have low := (holds_bounds finite positive holds).1
    refine Nat.pos_of_ne_zero (fun zero => ?_)
    rw [zero, Nat.zero_mul, Nat.zero_mul] at low
    have some := Nat.mul_pos (middle_pos x.magnitude) (Nat.pow_pos (n := (-(firstPlace x.significand
      x.exponent - ((n + 1 : Nat) : Int))).toNat) (show 0 < 10 by decide))
    omega
  · simp only [shortest, found, Option.getD_some]

end ThreatHunt.Decimal
