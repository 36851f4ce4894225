import Mathlib.Algebra.Order.Group.Int
import Mathlib.Order.Bounds.Basic
import ThreatHunt.Hunt.Plan

/-!
Windows up to now. The end of one is the first second from now on that is a whole number of granules,
so all moments of a granule have one window. No number on the way there leaves 64 bits, and a window
is refused just if it would begin outside the calendar.
-/

namespace ThreatHunt

namespace Instant

variable {now : Instant} {second : Int}

theorem le_second_iff :
    now.le ⟨second, 0⟩ = true ↔ now.second < second ∨ now.second = second ∧ now.nano = 0 := by
  simp only [le, compare, bne_iff_ne, ne_eq, Ordering.then_eq_gt, Std.compare_eq_gt,
    Std.compare_eq_iff_eq]
  omega

theorem second_le (before : now.le ⟨second, 0⟩ = true) : now.second ≤ second := by
  have := le_second_iff.1 before
  omega

/-- Whether the granule of an instant ends with a second: the first one, from the instant on, whose
number is a multiple of the granularity. A granularity of zero stands for one second. -/
def EndsGranule (now : Instant) (granularity : Nat) (second : Int) : Prop :=
  IsLeast {t : Int | ((max granularity 1 : Nat) : Int) ∣ t ∧ now.le ⟨t, 0⟩ = true} second

/-- Where no leap second is left, a move comes out if it stays inside the calendar. -/
theorem shift?_second (length : Int) :
    shift? ⟨second, 0⟩ length =
      if isRepresentable (second + length) then some ⟨second + length, 0⟩ else none := by
  have usual : (0 : Nat) < billion := by decide
  simp only [shift?, usual, true_or, if_true]

theorem isRepresentable_iff :
    isRepresentable second = true ↔ -8334601228800 ≤ second ∧ second ≤ 8210266876799 := by
  have first : firstSecond = -8334601228800 := by decide +kernel
  have last : lastSecond = 8210266876799 := by decide +kernel
  simp only [isRepresentable, first, last, Bool.and_eq_true, decide_eq_true_eq]

end Instant

namespace TimeSpan

open Instant

variable {now : Instant} {granularity : Nat} {stop : Int}

/-- The length of a granule in seconds, as far as 64 bits can hold it. -/
def granule (granularity : Nat) : Int := min ((max granularity 1 : Nat) : Int) Text.maxInt64

/-- The numbers that are met on the way to the end of a granule. -/
def roundingSteps (now : Instant) (granularity : Nat) : List Int :=
  let g := granule granularity
  [g, now.second.tmod g, now.second.tdiv g, now.second.tdiv g + 1, (now.second.tdiv g + 1) * g]

theorem granule_bounds (granularity : Nat) :
    0 < granule granularity ∧ granule granularity ≤ Text.maxInt64 := by
  simp only [granule, Text.maxInt64]
  omega

theorem isLeast_roundUp {g : Int} (epoch : 0 ≤ now.second) (positive : 0 < g) :
    IsLeast {t : Int | g ∣ t ∧ now.le ⟨t, 0⟩ = true} (roundUp now g) := by
  rw [roundUp, Int.tmod_eq_emod_of_nonneg epoch, Int.tdiv_eq_ediv_of_nonneg epoch]
  split
  · rename_i whole
    exact ⟨⟨Int.dvd_of_emod_eq_zero whole.1, le_second_iff.2 (.inr ⟨rfl, whole.2⟩)⟩,
      fun t later => second_le later.2⟩
  · rename_i partly
    have above : now.second < (now.second / g + 1) * g := Int.lt_ediv_add_one_mul_self _ positive
    refine ⟨⟨Int.dvd_mul_left _ _, le_second_iff.2 (.inl above)⟩, ?_⟩
    rintro t ⟨⟨k, rfl⟩, later⟩
    rw [Int.mul_comm]
    refine Int.mul_le_mul_of_nonneg_left ?_ (Int.le_of_lt positive)
    rcases le_second_iff.1 later with less | ⟨same, whole⟩
    · exact Int.add_one_le_of_lt (Int.ediv_lt_of_lt_mul positive (Int.mul_comm g k ▸ less))
    · exact absurd ⟨same ▸ Int.mul_emod_right g k, whole⟩ partly

/-- A granule longer than 64 bits can hold ends inside the calendar only where it begins. -/
theorem roundUp_granule (epoch : 0 ≤ now.second) (ends : now.EndsGranule granularity stop)
    (told : isRepresentable stop = true) : roundUp now (granule granularity) = stop := by
  by_cases fits : ((max granularity 1 : Nat) : Int) ≤ Text.maxInt64
  · have positive := (granule_bounds granularity).1
    rw [granule, min_eq_left fits] at positive ⊢
    exact (isLeast_roundUp epoch positive).unique ends
  · obtain ⟨⟨whole, later⟩, -⟩ := ends
    have last := (isRepresentable_iff.1 told).2
    have from0 := second_le later
    have start : stop = 0 := by
      by_contra other
      have long := Int.le_of_dvd (by omega) whole
      simp only [Text.maxInt64] at fits
      omega
    subst start
    have begins : now.second = 0 ∧ now.nano = 0 := by
      have := le_second_iff.1 later
      omega
    rw [roundUp, begins.1, begins.2, Int.zero_tmod, if_pos ⟨rfl, rfl⟩]

theorem stopAt_eq (epoch : 0 ≤ now.second) (ends : now.EndsGranule granularity stop)
    (told : isRepresentable stop = true) : stopAt now granularity = ⟨stop, 0⟩ := by
  have rounded := roundUp_granule epoch ends told
  rw [granule] at rounded
  simp only [stopAt, rounded, told, if_true]

/-- A span that is too long for its milliseconds to fit into 64 bits begins outside the calendar. -/
theorem resolve?_last (epoch : 0 ≤ now.second) (ends : now.EndsGranule granularity stop)
    (told : isRepresentable stop = true) (amount : Int) (unit : TimeUnit) :
    (TimeSpan.last amount unit).resolve? now granularity =
      if isRepresentable (stop - amount * unit.length) then
        some ⟨⟨stop - amount * unit.length, 0⟩, ⟨stop, 0⟩⟩
      else none := by
  rw [resolve?, stopAt_eq epoch ends told, shift?_second, Int.sub_eq_add_neg]
  generalize amount * unit.length = length
  by_cases begins : isRepresentable (stop + -length) = true
  · have long : -longest ≤ length ∧ length ≤ longest := by
      have first := isRepresentable_iff.1 begins
      have last := isRepresentable_iff.1 told
      simp only [longest]
      omega
    simp only [if_pos begins, if_pos long, Option.map_some]
  · simp only [if_neg begins, Option.map_none, ite_self]

theorem roundingSteps_bounds (epoch : 0 ≤ now.second) (told : isRepresentable now.second = true) :
    ∀ n ∈ roundingSteps now granularity, Text.minInt64 ≤ n ∧ n ≤ Text.maxInt64 := by
  obtain ⟨positive, most⟩ := granule_bounds granularity
  have last := (isRepresentable_iff.1 told).2
  simp only [roundingSteps, Int.tmod_eq_emod_of_nonneg epoch, Int.tdiv_eq_ediv_of_nonneg epoch]
  generalize granule granularity = g at positive most
  have rest := Int.emod_nonneg now.second (Int.ne_of_gt positive)
  have less := Int.emod_lt_of_pos now.second positive
  have quotient := Int.ediv_nonneg epoch (Int.le_of_lt positive)
  have below := Int.ediv_le_self g epoch
  have next : (now.second / g + 1) * g ≤ now.second + g := by
    rw [Int.add_mul, Int.one_mul]
    exact Int.add_le_add_right (Int.ediv_mul_le now.second (Int.ne_of_gt positive)) g
  have least : 0 ≤ (now.second / g + 1) * g :=
    Int.mul_nonneg (by omega) (Int.le_of_lt positive)
  -- A granule that is longer than the time since the epoch is rounded up to itself.
  have product : (now.second / g + 1) * g ≤ Text.maxInt64 := by
    by_cases short : g ≤ now.second
    · simp only [Text.maxInt64]
      omega
    · rw [Int.ediv_eq_zero_of_lt epoch (Int.not_le.1 short)]
      omega
  simp only [Text.minInt64, Text.maxInt64] at most product ⊢
  intro n step
  simp only [List.mem_cons, List.not_mem_nil, or_false] at step
  rcases step with rfl | rfl | rfl | rfl | rfl <;> omega

end TimeSpan

/-- A window up to now ends with the granule of now, if the calendar goes so far, and is given just
if its beginning is in the calendar. All moments of a granule are given one window, and the numbers
on the way to its end stay inside 64 bits. -/
theorem Scene.window_last (s : Scene) (epoch : 0 ≤ s.now.second) {stop : Int}
    (ends : s.now.EndsGranule s.config.windowGranularity stop)
    (told : Instant.isRepresentable stop = true) (amount : Int) (unit : TimeUnit) :
    s.window (some (.last amount unit)) =
        (if Instant.isRepresentable (stop - amount * unit.length) then
          .ok (some ⟨⟨stop - amount * unit.length, 0⟩, ⟨stop, 0⟩⟩)
        else .error (.senseless (.windowRange amount unit))) ∧
      (∀ n ∈ TimeSpan.roundingSteps s.now s.config.windowGranularity,
        Text.minInt64 ≤ n ∧ n ≤ Text.maxInt64) ∧
      ∀ other : Scene, other.config.windowGranularity = s.config.windowGranularity →
        0 ≤ other.now.second → other.now.EndsGranule s.config.windowGranularity stop →
        other.window (some (.last amount unit)) = s.window (some (.last amount unit)) := by
  have window : ∀ z : Scene, 0 ≤ z.now.second → z.now.EndsGranule z.config.windowGranularity stop →
      z.window (some (.last amount unit)) =
        if Instant.isRepresentable (stop - amount * unit.length) then
          .ok (some ⟨⟨stop - amount * unit.length, 0⟩, ⟨stop, 0⟩⟩)
        else .error (.senseless (.windowRange amount unit)) := by
    intro z late last
    simp only [Scene.window, TimeSpan.resolve?_last late last told]
    cases Instant.isRepresentable (stop - amount * unit.length) <;> rfl
  refine ⟨window s epoch ends, TimeSpan.roundingSteps_bounds epoch ?_, ?_⟩
  · have last := (Instant.isRepresentable_iff.1 told).2
    have before := Instant.second_le ends.1.2
    exact Instant.isRepresentable_iff.2 (by omega)
  · intro other same late last
    rw [window s epoch ends, window other late (same ▸ last)]

/-- A scene at a time, with granules of a minute. -/
def sceneAt (now : Instant) : Scene := { (default : Scene) with config := .standard, now := now }

/-- Half a second after a minute the next minute is the end, as it is a moment before that. -/
theorem Scene.window_last_minute :
    (sceneAt ⟨60, 500000000⟩).window (some (.last 2 .minutes)) = .ok (some ⟨⟨0, 0⟩, ⟨120, 0⟩⟩) ∧
      (sceneAt ⟨119, 999999999⟩).window (some (.last 2 .minutes)) =
        .ok (some ⟨⟨0, 0⟩, ⟨120, 0⟩⟩) := by
  have first : (sceneAt ⟨60, 500000000⟩).now.EndsGranule 60 120 :=
    TimeSpan.isLeast_roundUp (g := 60) (by decide) (by decide)
  have last : (sceneAt ⟨119, 999999999⟩).now.EndsGranule 60 120 :=
    TimeSpan.isLeast_roundUp (g := 60) (by decide) (by decide)
  obtain ⟨window, _, same⟩ :=
    (sceneAt ⟨60, 500000000⟩).window_last (by decide) first (by decide +kernel) 2 .minutes
  exact ⟨window.trans (if_pos (by decide +kernel)),
    (same (sceneAt ⟨119, 999999999⟩) rfl (by decide) last).trans
      (window.trans (if_pos (by decide +kernel)))⟩

end ThreatHunt
