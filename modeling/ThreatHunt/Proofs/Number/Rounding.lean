import Mathlib.Algebra.Order.Field.Power
import Mathlib.Tactic.Positivity
import ThreatHunt.Proofs.Number.Neighbours

/-!
Rounding to the nearest number keeps the order. A quotient is scaled to a significand of full
length, or to the least power of two, and the scaled quotient is rounded once; a greater quotient
has a greater power, or the same power and no lesser significand.
-/

namespace ThreatHunt.Binary64

/-- A rounded quotient is at most `k` just where the quotient lies below the middle between `k` and
the next number; the middle itself goes to the even one. -/
theorem roundDiv_le_iff {num den k : Nat} (positive : 0 < den) :
    roundDiv num den ≤ k ↔
      if k % 2 = 0 then 2 * num ≤ (2 * k + 1) * den else 2 * num < (2 * k + 1) * den := by
  have split := Nat.div_add_mod num den
  have less := Nat.mod_lt num positive
  unfold roundDiv
  dsimp only
  generalize num / den = whole at split ⊢
  generalize num % den = rest at split less ⊢
  have double : 2 * num = 2 * whole * den + 2 * rest := by rw [← split]; ring
  have bound : (2 * k + 1) * den = 2 * k * den + den := by ring
  rw [double, bound]
  rcases Nat.lt_trichotomy whole k with below | rfl | above
  · have room : 2 * whole * den + 2 * den ≤ 2 * k * den := by
      calc 2 * whole * den + 2 * den = 2 * (whole + 1) * den := by ring
        _ ≤ 2 * k * den := Nat.mul_le_mul_right den (Nat.mul_le_mul_left 2 below)
    split <;> split <;> omega
  · split <;> split <;> omega
  · have room : 2 * k * den + 2 * den ≤ 2 * whole * den := by
      calc 2 * k * den + 2 * den = 2 * (k + 1) * den := by ring
        _ ≤ 2 * whole * den := Nat.mul_le_mul_right den (Nat.mul_le_mul_left 2 above)
    split <;> split <;> omega

variable {num den num' den' : Nat}

theorem roundDiv_mono (positive : 0 < den) (positive' : 0 < den')
    (less : num * den' ≤ num' * den) : roundDiv num den ≤ roundDiv num' den' := by
  rw [roundDiv_le_iff positive]
  have upper := (roundDiv_le_iff positive').1 (Nat.le_refl (roundDiv num' den'))
  generalize roundDiv num' den' = k at upper ⊢
  have left : 2 * num * den' ≤ 2 * num' * den := by
    calc 2 * num * den' = 2 * (num * den') := by ring
      _ ≤ 2 * (num' * den) := Nat.mul_le_mul_left 2 less
      _ = 2 * num' * den := by ring
  split at upper
  · rename_i even
    rw [if_pos even]
    refine Nat.le_of_mul_le_mul_right (left.trans ?_) positive'
    calc 2 * num' * den ≤ (2 * k + 1) * den' * den := Nat.mul_le_mul_right den upper
      _ = (2 * k + 1) * den * den' := by ring
  · rename_i odd
    rw [if_neg odd]
    refine Nat.lt_of_mul_lt_mul_right (a := den') (Nat.lt_of_le_of_lt left ?_)
    calc 2 * num' * den < (2 * k + 1) * den' * den := Nat.mul_lt_mul_of_pos_right upper positive
      _ = (2 * k + 1) * den * den' := by ring

@[simp] theorem roundDiv_one (n : Nat) : roundDiv n 1 = n := by
  simp [roundDiv, Nat.mod_one]

/-- The scaled number as a fraction. -/
theorem scaled_ratio (n : Nat) (power : Int) :
    ((scaled n power).1 : ℚ) / (scaled n power).2 = n * 2 ^ power := by
  rw [scaled_eq]
  push_cast
  rw [← zpow_natCast, ← zpow_natCast, mul_div_assoc, ← zpow_sub₀ (by norm_num)]
  congr 2
  omega

theorem scaled_pos (n : Nat) (power : Int) : 0 < (scaled n power).2 := by
  rw [scaled_eq]
  exact Nat.pow_pos (by decide)

/-- The power of two with which `num / den` has a significand of full length. -/
def fullPower (num den : Nat) : Int :=
  let guess : Int := (num.log2 : Int) - den.log2 - 53
  if 2 * hiddenBit ≤ (scaled num (-guess)).1 / (den * (scaled num (-guess)).2) then guess + 1
  else guess

/-- The power of two that scales the significand of the number nearest to `num / den`. -/
def roundingPower (num den : Nat) : Int := max (fullPower num den) (-1074)

/-- The significand of the number nearest to `num / den`. -/
def roundedSignificand (num den : Nat) : Nat :=
  let scale := scaled num (-roundingPower num den)
  roundDiv scale.1 (den * scale.2)

/-- A scaled quotient as a fraction. -/
theorem scaled_quotient (num den : Nat) (power : Int) :
    ((scaled num (-power)).1 : ℚ) / (den * (scaled num (-power)).2 : Nat) =
      num / den / 2 ^ power := by
  push_cast
  rw [mul_comm (den : ℚ), ← div_div, scaled_ratio, zpow_neg]
  ring

theorem log2_bounds {n : Nat} (positive : 0 < n) :
    (2 : ℚ) ^ (n.log2 : Int) ≤ n ∧ (n : ℚ) < 2 ^ ((n.log2 : Int) + 1) := by
  have lower : 2 ^ n.log2 ≤ n := Nat.log2_self_le (by omega)
  have upper : n < 2 ^ (n.log2 + 1) := Nat.lt_log2_self
  constructor
  · rw [zpow_natCast]
    exact_mod_cast lower
  · exact_mod_cast upper

theorem hiddenBit_eq_zpow : (hiddenBit : ℚ) = 2 ^ (52 : Int) := by norm_num [hiddenBit]

/-- The difference of the logarithms is at most one below that of the quotient. -/
theorem quotient_bounds (positive : 0 < num) (positive' : 0 < den) :
    (2 : ℚ) ^ ((num.log2 : Int) - den.log2 - 1) ≤ num / den ∧
      (num / den : ℚ) < 2 ^ ((num.log2 : Int) - den.log2 + 1) := by
  obtain ⟨lower, upper⟩ := log2_bounds positive
  obtain ⟨lower', upper'⟩ := log2_bounds positive'
  have den_pos : (0 : ℚ) < den := by exact_mod_cast positive'
  constructor
  · rw [le_div_iff₀ den_pos]
    calc (2 : ℚ) ^ ((num.log2 : Int) - den.log2 - 1) * den
        ≤ 2 ^ ((num.log2 : Int) - den.log2 - 1) * 2 ^ ((den.log2 : Int) + 1) :=
          mul_le_mul_of_nonneg_left upper'.le (by positivity)
      _ = 2 ^ (num.log2 : Int) := by
          rw [← zpow_add₀ (by norm_num)]
          congr 1
          ring
      _ ≤ num := lower
  · rw [div_lt_iff₀ den_pos]
    calc (num : ℚ) < 2 ^ ((num.log2 : Int) + 1) := upper
      _ = 2 ^ ((num.log2 : Int) - den.log2 + 1) * 2 ^ (den.log2 : Int) := by
          rw [← zpow_add₀ (by norm_num)]
          congr 1
          ring
      _ ≤ 2 ^ ((num.log2 : Int) - den.log2 + 1) * den :=
          mul_le_mul_of_nonneg_left lower' (by positivity)

/-- With its full power a quotient has a significand of 53 bits. -/
theorem fullPower_bounds (positive : 0 < num) (positive' : 0 < den) :
    (hiddenBit : ℚ) * 2 ^ fullPower num den ≤ num / den ∧
      (num / den : ℚ) < 2 * hiddenBit * 2 ^ fullPower num den := by
  obtain ⟨lower, upper⟩ := quotient_bounds positive positive'
  unfold fullPower
  dsimp only
  generalize guessed : (num.log2 : Int) - den.log2 - 53 = guess
  have two : (2 : ℚ) ≠ 0 := by norm_num
  have guess_pos : (0 : ℚ) < 2 ^ guess := by positivity
  have long : 2 * hiddenBit ≤ (scaled num (-guess)).1 / (den * (scaled num (-guess)).2) ↔
      2 * (hiddenBit : ℚ) * 2 ^ guess ≤ num / den := by
    have scale_pos := Nat.mul_pos positive' (scaled_pos num (-guess))
    rw [Nat.le_div_iff_mul_le scale_pos, ← le_div_iff₀ guess_pos, ← scaled_quotient,
      le_div_iff₀ (by exact_mod_cast scale_pos)]
    exact_mod_cast Iff.rfl
  rw [hiddenBit_eq_zpow] at long ⊢
  split
  · rename_i reached
    refine ⟨?_, ?_⟩
    · calc (2 : ℚ) ^ (52 : Int) * 2 ^ (guess + 1) = 2 * 2 ^ (52 : Int) * 2 ^ guess := by
            rw [zpow_add_one₀ two]; ring
        _ ≤ num / den := long.1 reached
    · calc (num / den : ℚ) < 2 ^ ((num.log2 : Int) - den.log2 + 1) := upper
        _ = 2 * 2 ^ (52 : Int) * 2 ^ (guess + 1) := by
            rw [← zpow_one_add₀ two, ← zpow_add₀ two]
            congr 1
            omega
  · rename_i short
    refine ⟨?_, not_le.1 (fun reached => short (long.2 reached))⟩
    calc (2 : ℚ) ^ (52 : Int) * 2 ^ guess = 2 ^ ((num.log2 : Int) - den.log2 - 1) := by
          rw [← zpow_add₀ two]
          congr 1
          omega
      _ ≤ num / den := lower

/-- A greater quotient has a greater power. -/
theorem fullPower_mono (positive : 0 < num) (positive' : 0 < den) (positive'' : 0 < den')
    (less : (num / den : ℚ) ≤ num' / den') : fullPower num den ≤ fullPower num' den' := by
  have some : 0 < num' := by
    refine Nat.pos_of_ne_zero (fun none => ?_)
    have above : (0 : ℚ) < num / den := by positivity
    rw [none, Nat.cast_zero, zero_div] at less
    exact absurd less (not_le.2 above)
  refine Int.not_lt.1 (fun other => ?_)
  have lower := (fullPower_bounds positive positive').1
  have upper := (fullPower_bounds some positive'').2
  have powers : (2 : ℚ) ^ (fullPower num' den' + 1) ≤ 2 ^ fullPower num den :=
    zpow_le_zpow_right₀ (by norm_num) other
  have absurdly : (num / den : ℚ) < num / den := by
    calc (num / den : ℚ) ≤ num' / den' := less
      _ < 2 * hiddenBit * 2 ^ fullPower num' den' := upper
      _ = hiddenBit * 2 ^ (fullPower num' den' + 1) := by
          rw [zpow_add_one₀ (by norm_num)]; ring
      _ ≤ hiddenBit * 2 ^ fullPower num den := mul_le_mul_of_nonneg_left powers (by positivity)
      _ ≤ num / den := lower
  exact lt_irrefl _ absurdly

/-- Rounding a scaled quotient stays on its side of a whole number. -/
theorem roundedSignificand_le (positive' : 0 < den) {k : Nat}
    (below : (num / den / 2 ^ roundingPower num den : ℚ) ≤ k) : roundedSignificand num den ≤ k := by
  have scale_pos := Nat.mul_pos positive' (scaled_pos num (-roundingPower num den))
  rw [← scaled_quotient, div_le_iff₀ (by exact_mod_cast scale_pos)] at below
  have bound := @roundDiv_mono (scaled num (-roundingPower num den)).1 _ k _ scale_pos
    Nat.one_pos (by rw [Nat.mul_one]; exact_mod_cast below)
  rwa [roundDiv_one] at bound

theorem le_roundedSignificand (positive' : 0 < den) {k : Nat}
    (above : (k : ℚ) ≤ num / den / 2 ^ roundingPower num den) :
    k ≤ roundedSignificand num den := by
  have scale_pos := Nat.mul_pos positive' (scaled_pos num (-roundingPower num den))
  rw [← scaled_quotient, le_div_iff₀ (by exact_mod_cast scale_pos)] at above
  have bound := @roundDiv_mono k _ (scaled num (-roundingPower num den)).1 _
    Nat.one_pos scale_pos (by rw [Nat.mul_one]; exact_mod_cast above)
  rwa [roundDiv_one] at bound

/-- A rounded significand has 53 bits, or is the next number; below the full length only with the
least power. -/
theorem roundedSignificand_bounds (positive : 0 < num) (positive' : 0 < den) :
    roundedSignificand num den ≤ 2 * hiddenBit ∧
      (-1074 < roundingPower num den → hiddenBit ≤ roundedSignificand num den) := by
  obtain ⟨lower, upper⟩ := fullPower_bounds positive positive'
  constructor
  · refine roundedSignificand_le positive' ?_
    have powers : (2 : ℚ) ^ fullPower num den ≤ 2 ^ roundingPower num den :=
      zpow_le_zpow_right₀ (by norm_num) (le_max_left _ _)
    rw [div_le_iff₀ (by positivity)]
    push_cast
    exact upper.le.trans (mul_le_mul_of_nonneg_left powers (by positivity))
  · intro full
    have same : roundingPower num den = fullPower num den := by
      unfold roundingPower at full ⊢
      omega
    refine le_roundedSignificand positive' ?_
    rw [same, le_div_iff₀ (by positivity)]
    exact lower

/-- Magnitudes go up by a full length of significands from one power to the next. -/
theorem nearestMagnitude_eq (positive : 0 < num) (positive' : 0 < den) :
    nearestMagnitude num den =
      min ((roundingPower num den + 1074).toNat * hiddenBit + roundedSignificand num den)
        infinityMagnitude := by
  have long := (roundedSignificand_bounds positive positive').2
  have least : -1074 ≤ roundingPower num den := le_max_right _ _
  have unfolded : nearestMagnitude num den =
      min (if roundedSignificand num den < hiddenBit then roundedSignificand num den
        else (roundingPower num den + 1075).toNat * hiddenBit +
          (roundedSignificand num den - hiddenBit)) infinityMagnitude := by
    rw [nearestMagnitude, if_neg (Nat.ne_of_gt positive)]
    rfl
  rw [unfolded]
  congr 1
  unfold hiddenBit at long ⊢
  split <;> omega

/-- Rounding to the nearest number keeps the order. -/
theorem nearestMagnitude_mono (positive : 0 < den) (positive' : 0 < den')
    (less : num * den' ≤ num' * den) : nearestMagnitude num den ≤ nearestMagnitude num' den' := by
  rcases Nat.eq_zero_or_pos num with rfl | some
  · exact Nat.zero_le _
  have some' : 0 < num' := Nat.pos_of_mul_pos_right
    (Nat.lt_of_lt_of_le (Nat.mul_pos some positive') less)
  have ratio : (num / den : ℚ) ≤ num' / den' := by
    rw [div_le_div_iff₀ (by exact_mod_cast positive) (by exact_mod_cast positive')]
    exact_mod_cast less
  have powers : roundingPower num den ≤ roundingPower num' den' :=
    max_le_max_right _ (fullPower_mono some positive positive' ratio)
  have least : -1074 ≤ roundingPower num den := le_max_right _ _
  rw [nearestMagnitude_eq some positive, nearestMagnitude_eq some' positive']
  refine min_le_min_right _ ?_
  rcases powers.lt_or_eq with greater | same
  · have short := (roundedSignificand_bounds some positive).1
    have long := (roundedSignificand_bounds some' positive').2 (by omega)
    unfold hiddenBit at short long ⊢
    omega
  · -- With one power the significands decide.
    have significands : roundedSignificand num den ≤ roundedSignificand num' den' := by
      have scale_pos := scaled_pos num (-roundingPower num den)
      have scale_pos' := scaled_pos num' (-roundingPower num' den')
      refine roundDiv_mono (Nat.mul_pos positive scale_pos) (Nat.mul_pos positive' scale_pos') ?_
      have quotients : (num / den / 2 ^ roundingPower num den : ℚ) ≤
          num' / den' / 2 ^ roundingPower num' den' := by
        rw [same]
        exact div_le_div_of_nonneg_right ratio (by positivity)
      rw [← scaled_quotient, ← scaled_quotient,
        div_le_div_iff₀ (by exact_mod_cast Nat.mul_pos positive scale_pos)
          (by exact_mod_cast Nat.mul_pos positive' scale_pos')] at quotients
      exact_mod_cast quotients
    rw [same]
    exact Nat.add_le_add_left significands _

theorem nearestMagnitude_le (num den : Nat) : nearestMagnitude num den ≤ infinityMagnitude := by
  unfold nearestMagnitude
  split
  · exact Nat.zero_le _
  · exact Nat.min_le_right _ _

/-! Numbers by sign and magnitude, and their place in the order of all patterns. -/

theorem toNat_ofMagnitude {negative : Bool} {magnitude : Nat} (small : magnitude < signWeight) :
    (ofMagnitude negative magnitude).bits.toNat =
      magnitude + if negative then signWeight else 0 := by
  refine UInt64.toNat_ofNat_of_lt' ?_
  unfold signWeight at small ⊢
  cases negative <;> simp [UInt64.size] <;> omega

theorem magnitude_ofMagnitude {negative : Bool} {magnitude : Nat} (small : magnitude < signWeight) :
    (ofMagnitude negative magnitude).magnitude = magnitude := by
  rw [Binary64.magnitude, toNat_ofMagnitude small]
  cases negative <;> simp [Nat.mod_eq_of_lt small]

theorem isNegative_ofMagnitude {negative : Bool} {magnitude : Nat}
    (small : magnitude < signWeight) : (ofMagnitude negative magnitude).isNegative = negative := by
  rw [isNegative, toNat_ofMagnitude small]
  cases negative <;> simp [Nat.not_le.2 small]

theorem totalKey_ofMagnitude {negative : Bool} {magnitude : Nat} (small : magnitude < signWeight) :
    (ofMagnitude negative magnitude).totalKey =
      if negative then -(magnitude : Int) - 1 else magnitude := by
  rw [totalKey, magnitude_ofMagnitude small, isNegative_ofMagnitude small]

theorem small_nearestMagnitude (num den : Nat) : nearestMagnitude num den < signWeight :=
  Nat.lt_of_le_of_lt (nearestMagnitude_le num den) (by decide)

theorem totalKey_ofInt (i : Int) :
    (ofInt i).totalKey =
      if i < 0 then -(nearestMagnitude i.natAbs 1 : Int) - 1 else nearestMagnitude i.natAbs 1 := by
  unfold ofInt ofRatio
  rw [totalKey_ofMagnitude (small_nearestMagnitude _ _)]
  simp only [decide_eq_true_eq]

theorem magnitude_ofInt (i : Int) : (ofInt i).magnitude = nearestMagnitude i.natAbs 1 :=
  magnitude_ofMagnitude (small_nearestMagnitude _ _)

/-- The number nearest to an integer is a number. -/
theorem isNaN_ofInt (i : Int) : (ofInt i).isNaN = false := by
  rw [isNaN, magnitude_ofInt]
  exact decide_eq_false (Nat.not_lt.2 (nearestMagnitude_le _ _))

/-- No integer but zero is rounded to zero. -/
theorem eq_zero_of_magnitude_ofInt {i : Int} (none : (ofInt i).magnitude = 0) : i = 0 := by
  by_contra some
  have one : nearestMagnitude 1 1 ≤ nearestMagnitude i.natAbs 1 :=
    nearestMagnitude_mono Nat.one_pos Nat.one_pos (by omega)
  have positive : 0 < nearestMagnitude 1 1 := by decide
  rw [magnitude_ofInt] at none
  omega

/-- Numbers of one place in the order are the same, or zeros. -/
theorem orderKey_eq_iff {x y : Binary64} :
    x.orderKey = y.orderKey ↔ (x.isNegative = y.isNegative ∧ x.magnitude = y.magnitude) ∨
      (x.magnitude = 0 ∧ y.magnitude = 0) := by
  unfold orderKey
  cases x.isNegative <;> cases y.isNegative <;> simp <;> omega

/-- The number nearest to a greater integer does not come before. -/
theorem totalKey_ofInt_mono {i j : Int} (less : i ≤ j) :
    (ofInt i).totalKey ≤ (ofInt j).totalKey := by
  have grows : ∀ {m n : Nat}, m ≤ n → nearestMagnitude m 1 ≤ nearestMagnitude n 1 := fun le =>
    nearestMagnitude_mono Nat.one_pos Nat.one_pos (Nat.mul_le_mul_right 1 le)
  rw [totalKey_ofInt, totalKey_ofInt]
  by_cases negative : j < 0
  · have farther := grows (show j.natAbs ≤ i.natAbs by omega)
    rw [if_pos negative, if_pos (by omega)]
    omega
  · rw [if_neg negative]
    split
    · omega
    · have nearer := grows (show i.natAbs ≤ j.natAbs by omega)
      omega

end ThreatHunt.Binary64
