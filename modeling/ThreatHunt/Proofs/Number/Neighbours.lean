import Mathlib.Order.Monotone.Basic
import Mathlib.Tactic.Ring
import ThreatHunt.Number.Binary64

/-!
Neighbours among the floating point numbers. Magnitudes stand for multiples of the least one, and
halfway to its neighbours ends the interval of all reals that round to a number.
-/

namespace ThreatHunt.Binary64

/-- What a finite magnitude stands for, in units of the least one that is not zero. -/
def sizeOf (a : Nat) : Nat :=
  if a < hiddenBit then a else (hiddenBit + a % hiddenBit) * 2 ^ (a / hiddenBit - 1)

/-- The distance to the next magnitude. -/
def gapAfter (a : Nat) : Nat := 2 ^ (a / hiddenBit - 1)

theorem hiddenBit_eq : hiddenBit = 2 ^ 52 := rfl

theorem sizeOf_succ (a : Nat) : sizeOf (a + 1) = sizeOf a + gapAfter a := by
  have positive : 0 < hiddenBit := by decide
  have split := Nat.div_add_mod a hiddenBit
  have less := Nat.mod_lt a positive
  unfold sizeOf gapAfter
  by_cases below : a < hiddenBit
  · have none : a / hiddenBit = 0 := Nat.div_eq_of_lt below
    by_cases last : a + 1 < hiddenBit
    · simp [below, last, none]
    · have same : a + 1 = hiddenBit := by omega
      simp [below, none, same, Nat.div_self positive]
  · have later : ¬a + 1 < hiddenBit := by omega
    have binade : 1 ≤ a / hiddenBit := (Nat.one_le_div_iff positive).2 (Nat.le_of_not_lt below)
    rw [if_neg below, if_neg later]
    generalize a / hiddenBit = q at split binade ⊢
    generalize a % hiddenBit = r at split less ⊢
    obtain ⟨p, rfl⟩ : ∃ p, q = p + 1 := ⟨q - 1, by omega⟩
    by_cases carry : r + 1 = hiddenBit
    · have next : a + 1 = hiddenBit * (p + 2) := by rw [← split, Nat.add_assoc, carry]; ring
      rw [next, Nat.mul_mod_right, Nat.mul_div_cancel_left _ positive]
      have whole : hiddenBit + r + 1 = 2 * hiddenBit := by omega
      calc (hiddenBit + 0) * 2 ^ (p + 2 - 1)
          = (2 * hiddenBit) * 2 ^ p := by
            rw [show p + 2 - 1 = p + 1 from rfl, pow_succ]; ring
        _ = (hiddenBit + r) * 2 ^ (p + 1 - 1) + 2 ^ (p + 1 - 1) := by
            rw [← whole, show p + 1 - 1 = p from rfl]; ring
    · have inside : r + 1 < hiddenBit := by omega
      have quotient : (a + 1) / hiddenBit = p + 1 := by
        rw [← split, Nat.add_assoc, Nat.mul_add_div positive, Nat.div_eq_of_lt inside]
      have remainder : (a + 1) % hiddenBit = r + 1 := by
        rw [← split, Nat.add_assoc, Nat.mul_add_mod, Nat.mod_eq_of_lt inside]
      rw [quotient, remainder]
      ring

theorem gapAfter_pos (a : Nat) : 0 < gapAfter a := Nat.pow_pos (by decide)

theorem sizeOf_strictMono : StrictMono sizeOf := by
  refine strictMono_nat_of_lt_succ (fun a => ?_)
  rw [sizeOf_succ]
  exact Nat.lt_add_of_pos_right (gapAfter_pos a)

/-- Twice the middle between a magnitude and the next, in quarters of the unit. -/
def middle (a : Nat) : Nat := 2 * (sizeOf a + sizeOf (a + 1))

/-- The intervals of two magnitudes meet in no more than one end. -/
theorem middle_le {a b : Nat} (less : a < b) : middle a ≤ middle (b - 1) := by
  have first : sizeOf a ≤ sizeOf (b - 1) := sizeOf_strictMono.monotone (by omega)
  have second : sizeOf (a + 1) ≤ sizeOf (b - 1 + 1) := sizeOf_strictMono.monotone (by omega)
  unfold middle
  omega

theorem eq_of_middle_eq {a b : Nat} (same : middle a = middle (b - 1)) (less : a < b) :
    b = a + 1 := by
  by_contra other
  have first : sizeOf a < sizeOf (b - 1) := sizeOf_strictMono (by omega)
  have second : sizeOf (a + 1) ≤ sizeOf (b - 1 + 1) := sizeOf_strictMono.monotone (by omega)
  unfold middle at same
  omega

theorem scaled_eq (n : Nat) (power : Int) :
    scaled n power = (n * 2 ^ power.toNat, 2 ^ (-power).toNat) := by
  unfold scaled
  split
  · rw [show (-power).toNat = 0 by omega]
    rfl
  · rw [show power.toNat = 0 by omega, pow_zero, Nat.mul_one]
    rfl

variable {x : Binary64}

theorem significand_eq (x : Binary64) : x.significand * 2 ^ (x.exponent + 1074).toNat =
    sizeOf x.magnitude := by
  unfold significand exponent sizeOf
  by_cases below : x.magnitude < hiddenBit
  · simp [below]
  · have binade : 1 ≤ x.magnitude / hiddenBit :=
      (Nat.one_le_div_iff (by decide)).2 (Nat.le_of_not_lt below)
    have power : (((x.magnitude / hiddenBit : Nat) : Int) - 1075 + 1074).toNat =
        x.magnitude / hiddenBit - 1 := by omega
    rw [if_neg below, if_neg below, if_neg below, power]

theorem significand_lt (x : Binary64) : x.significand < 2 ^ 53 := by
  have less := Nat.mod_lt x.magnitude (show 0 < hiddenBit by decide)
  unfold significand
  rw [hiddenBit_eq] at less ⊢
  split <;> omega

theorem significand_parity (x : Binary64) : x.significand % 2 = x.magnitude % 2 := by
  unfold significand hiddenBit
  split
  · rfl
  · omega

theorem exponent_bounds (finite : x.isFinite = true) : -1074 ≤ x.exponent ∧ x.exponent ≤ 971 := by
  have less : x.magnitude < infinityMagnitude := of_decide_eq_true finite
  unfold infinityMagnitude at less
  unfold exponent hiddenBit
  split <;> omega

end ThreatHunt.Binary64
