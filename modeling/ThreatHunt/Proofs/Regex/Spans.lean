import Mathlib.Data.List.Pairwise
import ThreatHunt.Regex.Basic

/-!
What regular expressions match. `Spans` says which parts of a text an expression matches, by the
form of the expression alone; the search for all places that are reached from a set of places finds
just the ends of these parts.
-/

namespace ThreatHunt.Regex

/-- A step from place to place, taken so many times. -/
def Times (step : Nat → Nat → Prop) : Nat → Nat → Nat → Prop
  | 0, i, k => i = k
  | n + 1, i, k => ∃ j, step i j ∧ Times step n j k

/-- A step taken a number of times that is allowed; there may be no greatest number. -/
def Repeats (step : Nat → Nat → Prop) (least : Nat) (most : Option Nat) (i k : Nat) : Prop :=
  ∃ n, least ≤ n ∧ (∀ m ∈ most, n ≤ max least m) ∧ Times step n i k

/-- Whether an expression matches the part of a text from one place to another. -/
def Spans (text : Array Char) : Regex → Nat → Nat → Prop
  | .empty, i, k => i = k
  | .one chars, i, k => hasAt text chars i = true ∧ i + 1 = k
  | .look l, i, k => l.holdsAt text i = true ∧ i = k
  | .seq first second, i, k => ∃ j, Spans text first i j ∧ Spans text second j k
  | .alt first second, i, k => Spans text first i k ∨ Spans text second i k
  | .times body least most, i, k => Repeats (Spans text body) least most i k
  | .group body, i, k => Spans text body i k

/-- Ascending places of a text of some size. -/
structure Places (size : Nat) (places : List Nat) : Prop where
  ascending : places.Pairwise (· < ·)
  within : ∀ place ∈ places, place ≤ size

/-- A function on places that leads from each place to those that a relation gives, none of them
before it. -/
structure Leads (size : Nat) (step : List Nat → List Nat) (relation : Nat → Nat → Prop) : Prop where
  places : ∀ {places}, Places size places → Places size (step places)
  mem : ∀ {places}, Places size places → ∀ k, k ∈ step places ↔ ∃ i ∈ places, relation i k
  forward : ∀ {i k}, relation i k → i ≤ k

variable {size : Nat} {a b places : List Nat} {step : List Nat → List Nat}
  {relation : Nat → Nat → Prop}

/-! Ascending lists. -/

theorem ascending_merge (first : a.Pairwise (· < ·)) (second : b.Pairwise (· < ·)) :
    (merge a b).Pairwise (· < ·) := by
  fun_induction merge a b with
  | case1 b => exact second
  | case2 a => exact first
  | case3 x a y b less ih =>
    obtain ⟨above, tail⟩ := List.pairwise_cons.1 first
    refine List.pairwise_cons.2 ⟨fun p member => ?_, ih tail second⟩
    rcases mem_merge.1 member with old | new
    · exact above p old
    · rcases List.mem_cons.1 new with rfl | later
      · exact less
      · exact Nat.lt_trans less ((List.pairwise_cons.1 second).1 p later)
  | case4 x a y b _ less ih =>
    obtain ⟨above, tail⟩ := List.pairwise_cons.1 second
    refine List.pairwise_cons.2 ⟨fun p member => ?_, ih first tail⟩
    rcases mem_merge.1 member with old | new
    · rcases List.mem_cons.1 old with rfl | later
      · exact less
      · exact Nat.lt_trans less ((List.pairwise_cons.1 first).1 p later)
    · exact above p new
  | case5 x a y b low high ih =>
    obtain ⟨above, tail⟩ := List.pairwise_cons.1 first
    obtain ⟨above', tail'⟩ := List.pairwise_cons.1 second
    have same : x = y := by omega
    refine List.pairwise_cons.2 ⟨fun p member => ?_, ih tail tail'⟩
    rcases mem_merge.1 member with old | new
    · exact above p old
    · exact same ▸ above' p new

theorem minus_sublist : (minus a b).Sublist a := by
  fun_induction minus a b with
  | case1 => exact List.Sublist.refl _
  | case2 => exact List.Sublist.refl _
  | case3 _ _ _ _ _ ih => exact ih.cons_cons _
  | case4 _ _ _ _ _ _ ih => exact ih
  | case5 _ _ _ _ _ _ ih => exact ih.cons _

theorem mem_minus (first : a.Pairwise (· < ·)) (second : b.Pairwise (· < ·)) {p : Nat} :
    p ∈ minus a b ↔ p ∈ a ∧ p ∉ b := by
  fun_induction minus a b with
  | case1 => simp
  | case2 => simp
  | case3 x a y b less ih =>
    obtain ⟨_, tail⟩ := List.pairwise_cons.1 first
    have above := (List.pairwise_cons.1 second).1
    rw [List.mem_cons, ih tail second]
    grind
  | case4 x a y b _ less ih =>
    obtain ⟨_, tail⟩ := List.pairwise_cons.1 second
    have above := (List.pairwise_cons.1 first).1
    rw [ih first tail]
    grind
  | case5 x a y b low high ih =>
    obtain ⟨above, tail⟩ := List.pairwise_cons.1 first
    obtain ⟨above', tail'⟩ := List.pairwise_cons.1 second
    have same : x = y := by omega
    rw [ih tail tail']
    grind

/-- Of an ascending list the places before one come first. -/
theorem cut_eq_filter (ascending : a.Pairwise (· < ·)) (first : Nat) :
    a.takeWhile (· < first) = a.filter (· < first) ∧
      a.dropWhile (· < first) = a.filter (first ≤ ·) := by
  induction a with
  | nil => exact ⟨rfl, rfl⟩
  | cons x a ih =>
    obtain ⟨above, tail⟩ := List.pairwise_cons.1 ascending
    by_cases less : x < first
    · simp [less, Nat.not_le.2 less, ih tail]
    · have others : ∀ p ∈ a, first ≤ p := fun p member =>
        Nat.le_trans (Nat.not_lt.1 less) (Nat.le_of_lt (above p member))
      have kept : a.filter (first ≤ ·) = a :=
        List.filter_eq_self.2 (fun p member => decide_eq_true (others p member))
      simpa [less, Nat.not_lt.1 less, kept] using others

theorem mem_takeWhile (ascending : a.Pairwise (· < ·)) (first p : Nat) :
    p ∈ a.takeWhile (· < first) ↔ p ∈ a ∧ p < first := by
  rw [(cut_eq_filter ascending first).1, List.mem_filter, decide_eq_true_iff]

theorem mem_dropWhile (ascending : a.Pairwise (· < ·)) (first p : Nat) :
    p ∈ a.dropWhile (· < first) ↔ p ∈ a ∧ first ≤ p := by
  rw [(cut_eq_filter ascending first).2, List.mem_filter, decide_eq_true_iff]

theorem Places.merge (first : Places size a) (second : Places size b) :
    Places size (merge a b) where
  ascending := ascending_merge first.ascending second.ascending
  within place member := (mem_merge.1 member).elim (first.within place) (second.within place)

theorem Places.minus (first : Places size a) : Places size (minus a b) where
  ascending := first.ascending.sublist minus_sublist
  within place member := first.within place (minus_sublist.subset member)

/-! Steps that are taken some times. -/

theorem Times.forward (forward : ∀ {i k}, relation i k → i ≤ k) {n i k : Nat}
    (steps : Times relation n i k) : i ≤ k := by
  induction n generalizing i with
  | zero => exact Nat.le_of_eq steps
  | succ n ih =>
    obtain ⟨j, first, rest⟩ := steps
    exact Nat.le_trans (forward first) (ih rest)

/-- Steps that stay in place can be left out, so no more are needed than there are places between. -/
theorem Times.shorten (forward : ∀ {i k}, relation i k → i ≤ k) {n i k : Nat}
    (steps : Times relation n i k) : ∃ m ≤ k - i, Times relation m i k := by
  induction n generalizing i with
  | zero => exact ⟨0, Nat.zero_le _, steps⟩
  | succ n ih =>
    obtain ⟨j, first, rest⟩ := steps
    obtain ⟨m, few, others⟩ := ih rest
    have beyond := others.forward forward
    rcases Nat.lt_or_eq_of_le (forward first) with ahead | rfl
    · exact ⟨m + 1, by omega, j, first, others⟩
    · exact ⟨m, few, others⟩

theorem Leads.comp {other : List Nat → List Nat} {relation' : Nat → Nat → Prop}
    (first : Leads size step relation) (second : Leads size other relation') :
    Leads size (fun places => other (step places))
      (fun i k => ∃ j, relation i j ∧ relation' j k) where
  places valid := second.places (first.places valid)
  mem valid k := by
    simp only [second.mem (first.places valid), first.mem valid]
    constructor
    · rintro ⟨j, ⟨i, start, here⟩, there⟩
      exact ⟨i, start, j, here, there⟩
    · rintro ⟨i, start, j, here, there⟩
      exact ⟨j, ⟨i, start, here⟩, there⟩
  forward := by
    rintro i k ⟨j, here, there⟩
    exact Nat.le_trans (first.forward here) (second.forward there)

theorem settle_of_fixed (fixed : step places = places) (n : Nat) :
    Regex.settle step n places = places := by
  cases n with
  | zero => rfl
  | succ n => rw [Regex.settle, if_pos fixed]

/-- Once a step changes nothing, it may be taken any number of times. -/
theorem settle_succ (n : Nat) :
    Regex.settle step (n + 1) places = Regex.settle step n (step places) := by
  rw [Regex.settle]
  split
  · rename_i fixed
    rw [fixed, settle_of_fixed fixed]
  · rfl

theorem Leads.settle (leads : Leads size step relation) (n : Nat) :
    Leads size (settle step n) (Times relation n) := by
  induction n with
  | zero => exact ⟨fun valid => valid, fun _ k => by simp [Regex.settle, Times], Nat.le_of_eq⟩
  | succ n ih =>
    have steps : Regex.settle step (n + 1) = fun places => Regex.settle step n (step places) :=
      funext (fun _ => settle_succ n)
    rw [steps]
    exact leads.comp ih

/-- What a closure has seen: the next step leads from there to what is fresh or seen before. -/
def Settled (relation : Nat → Nat → Prop) (seen fresh : List Nat) : Prop :=
  ∀ i ∈ seen, ∀ k, relation i k → k ∈ seen ∨ k ∈ fresh

/-- From settled places, steps lead to settled places or pass a fresh one. -/
theorem Settled.passes {seen fresh : List Nat} (settled : Settled relation seen fresh)
    {n i k : Nat} (start : i ∈ seen) (steps : Times relation n i k) :
    k ∈ seen ∨ ∃ m < n, ∃ j ∈ fresh, Times relation m j k := by
  induction n generalizing i with
  | zero => exact .inl (steps ▸ start)
  | succ n ih =>
    obtain ⟨j, first, rest⟩ := steps
    rcases settled i start j first with old | new
    · rcases ih old rest with there | ⟨m, few, j', fresh, others⟩
      · exact .inl there
      · exact .inr ⟨m, Nat.lt_succ_of_lt few, j', fresh, others⟩
    · exact .inr ⟨n, Nat.lt_succ_self n, j, new, rest⟩

/-- After one more step all that was at hand is settled, and what the step adds is fresh. -/
theorem Settled.next (leads : Leads size step relation) {seen fresh : List Nat}
    (old : Places size seen) (new : Places size fresh) (settled : Settled relation seen fresh) :
    Settled relation (merge seen fresh) (minus (step fresh) (merge seen fresh)) := by
  intro i start k first
  by_cases known : k ∈ merge seen fresh
  · exact .inl known
  refine .inr ((mem_minus (leads.places new).ascending (old.merge new).ascending).2 ⟨?_, known⟩)
  rcases mem_merge.1 start with before | now
  · exact absurd (mem_merge.2 (settled i before k first)) known
  · exact (leads.mem new k).2 ⟨i, now, first⟩

/-- What more steps reach from fresh places, fewer reach once the next step is taken. -/
theorem Settled.reaches (leads : Leads size step relation) {n : Nat} {seen fresh : List Nat}
    (old : Places size seen) (new : Places size fresh) (settled : Settled relation seen fresh)
    (k : Nat) :
    (k ∈ merge seen fresh ∨
        ∃ m ≤ n, ∃ i ∈ minus (step fresh) (merge seen fresh), Times relation m i k) ↔
      k ∈ seen ∨ ∃ m ≤ n + 1, ∃ i ∈ fresh, Times relation m i k := by
  constructor
  · rintro (there | ⟨m, few, j, added, rest⟩)
    · rcases mem_merge.1 there with before | now
      · exact .inl before
      · exact .inr ⟨0, Nat.zero_le _, k, now, rfl⟩
    · have reached := (minus_sublist.subset added : j ∈ step fresh)
      obtain ⟨i, start, first⟩ := (leads.mem new j).1 reached
      exact .inr ⟨m + 1, Nat.succ_le_succ few, i, start, j, first, rest⟩
  · rintro (before | ⟨m, few, i, start, steps⟩)
    · exact .inl (mem_merge.2 (.inl before))
    · rcases (settled.next leads old new).passes (mem_merge.2 (.inr start)) steps with there | later
      · exact .inl there
      · obtain ⟨m', fewer, rest⟩ := later
        exact .inr ⟨m', by omega, rest⟩

/-- A closure finds what was seen, and all that is reached from the fresh places. -/
theorem closure_spec (leads : Leads size step relation) {n : Nat} {seen fresh : List Nat}
    (old : Places size seen) (new : Places size fresh) (settled : Settled relation seen fresh) :
    Places size (closure step n seen fresh) ∧ ∀ k, k ∈ closure step n seen fresh ↔
      k ∈ seen ∨ ∃ m ≤ n, ∃ i ∈ fresh, Times relation m i k := by
  induction n generalizing seen fresh with
  | zero =>
    refine ⟨old.merge new, fun k => ?_⟩
    rw [closure, mem_merge]
    simp [Times]
  | succ n ih =>
    have all := old.merge new
    have added := (leads.places new).minus (b := merge seen fresh)
    have later := settled.next leads old new
    have reaches := settled.reaches leads (n := n) old new
    rw [closure]
    split
    · rename_i nothing
      rw [nothing] at reaches
      exact ⟨all, fun k => by simpa using reaches k⟩
    · rename_i first more found
      rw [found] at added later reaches
      have front := mem_takeWhile all.ascending first
      have back := mem_dropWhile all.ascending first
      have least : ∀ p ∈ first :: more, first ≤ p := fun p member =>
        (List.mem_cons.1 member).elim (fun same => Nat.le_of_eq same.symm) (fun there =>
          Nat.le_of_lt ((List.pairwise_cons.1 added.ascending).1 p there))
      have kept : Places size ((merge seen fresh).dropWhile (· < first)) :=
        ⟨all.ascending.sublist (List.dropWhile_sublist _), fun p member =>
          all.within p ((back p).1 member).1⟩
      -- What lies before the first addition is not reached again, since no step goes back.
      have closed : Settled relation ((merge seen fresh).dropWhile (· < first)) (first :: more) := by
        intro i start k step
        obtain ⟨there, above⟩ := (back i).1 start
        exact (later i there k step).imp
          (fun old => (back k).2 ⟨old, Nat.le_trans above (leads.forward step)⟩) id
      obtain ⟨places, mem⟩ := ih kept added closed
      have beyond : ∀ p ∈ closure step n ((merge seen fresh).dropWhile (· < first)) (first :: more),
          first ≤ p := by
        intro p member
        rcases (mem p).1 member with there | ⟨m, _, i, start, steps⟩
        · exact ((back p).1 there).2
        · exact Nat.le_trans (least i start) (steps.forward leads.forward)
      refine ⟨⟨List.pairwise_append.2 ⟨all.ascending.sublist (List.takeWhile_sublist _),
        places.ascending, fun p low q high => ?_⟩, fun p member => ?_⟩, fun k => ?_⟩
      · exact Nat.lt_of_lt_of_le ((front p).1 low).2 (beyond q high)
      · exact (List.mem_append.1 member).elim (fun low => all.within p ((front p).1 low).1)
          (places.within p)
      · rw [List.mem_append, mem, front, back, ← reaches, ← or_assoc, ← and_or_left]
        simp [Nat.lt_or_ge]

/-- The places that at most so many steps reach. -/
theorem Leads.closure (leads : Leads size step relation) (n : Nat) :
    Leads size (closure step n []) (fun i k => ∃ m ≤ n, Times relation m i k) := by
  have none : Places size [] := ⟨List.Pairwise.nil, fun _ member => absurd member List.not_mem_nil⟩
  have settled : ∀ places, Settled relation [] places :=
    fun _ _ member => absurd member List.not_mem_nil
  refine ⟨fun valid => (closure_spec leads none valid (settled _)).1, fun valid k => ?_, ?_⟩
  · rw [(closure_spec leads none valid (settled _)).2]
    simp only [List.not_mem_nil, false_or]
    exact ⟨fun ⟨m, few, i, start, steps⟩ => ⟨i, start, m, few, steps⟩,
      fun ⟨i, start, m, few, steps⟩ => ⟨m, few, i, start, steps⟩⟩
  · rintro i k ⟨m, _, steps⟩
    exact steps.forward leads.forward

/-! Runs of characters of a set. -/

variable {text : Array Char} {chars : CharSet}

/-- Whether some characters of a set lead from one place to another. -/
def Chain (text : Array Char) (chars : CharSet) (i k : Nat) : Prop :=
  ∃ n, Times (Spans text (.one chars)) n i k

theorem chain_iff {i k : Nat} :
    Chain text chars i k ↔ i = k ∨ hasAt text chars i = true ∧ Chain text chars (i + 1) k := by
  constructor
  · rintro ⟨n, steps⟩
    cases n with
    | zero => exact .inl steps
    | succ n =>
      obtain ⟨j, ⟨here, rfl⟩, rest⟩ := steps
      exact .inr ⟨here, n, rest⟩
  · rintro (rfl | ⟨here, n, rest⟩)
    · exact ⟨0, rfl⟩
    · exact ⟨n + 1, i + 1, ⟨here, rfl⟩, rest⟩

theorem lt_of_hasAt {place : Nat} (here : hasAt text chars place = true) : place < text.size := by
  by_contra beyond
  rw [hasAt, Array.getElem?_eq_none (by omega)] at here
  simp at here

theorem leads_one : Leads text.size (reach text (.one chars)) (Spans text (.one chars)) where
  places {places} valid := by
    rw [reach]
    refine ⟨List.pairwise_map.2 ((valid.ascending.filter _).imp (by omega)), fun p member => ?_⟩
    obtain ⟨i, start, rfl⟩ := List.mem_map.1 member
    exact lt_of_hasAt (List.mem_filter.1 start).2
  mem _ k := by simp [reach, Spans, and_assoc]
  forward := by
    rintro i k ⟨_, rfl⟩
    exact Nat.le_succ i

theorem Chain.forward {i k : Nat} (chain : Chain text chars i k) : i ≤ k :=
  chain.elim fun _ steps => steps.forward leads_one.forward

theorem run_succ (left place : Nat) (carried : Bool) (starts : List Nat) :
    run text chars (left + 1) place carried starts =
      (let starting := starts.head? = some place
        let here := carried || starting
        let more := run text chars left (place + 1) (here && hasAt text chars place)
          (if starting then starts.tail else starts)
        if here then place :: more else more) := by
  cases carried <;> cases starts <;> cases left <;> simp [run]

/-- A run finds what is reached from the places that it starts at, and from where it is if the
characters before lead there. -/
theorem mem_run {left place : Nat} {carried : Bool} {starts : List Nat}
    (valid : Places text.size starts) (ahead : ∀ s ∈ starts, place ≤ s)
    (enough : text.size + 1 ≤ left + place) (inside : carried = true → place ≤ text.size) (k : Nat) :
    k ∈ run text chars left place carried starts ↔
      carried = true ∧ Chain text chars place k ∨ ∃ s ∈ starts, Chain text chars s k := by
  induction left generalizing place carried starts with
  | zero =>
    have away : ∀ s, s ∉ starts := fun s start => by
      have := valid.within s start
      have := ahead s start
      omega
    have still : carried ≠ true := fun here => by
      have := inside here
      omega
    simp [run, away, still]
  | succ left ih =>
    have onward : ∀ here, (here && hasAt text chars place) = true → place + 1 ≤ text.size :=
      fun here both => lt_of_hasAt (Bool.and_eq_true_iff.1 both).2
    have first : Chain text chars place k ↔
        k = place ∨ hasAt text chars place = true ∧ Chain text chars (place + 1) k :=
      chain_iff.trans (by rw [eq_comm])
    rw [run_succ]
    by_cases starting : starts.head? = some place
    · obtain ⟨others, rfl⟩ := List.head?_eq_some_iff.1 starting
      obtain ⟨above, ascending⟩ := List.pairwise_cons.1 valid.ascending
      have rest := @ih (place + 1) (hasAt text chars place) others
        ⟨ascending, fun s start => valid.within s (List.mem_cons_of_mem _ start)⟩
        (fun s start => above s start) (by omega) lt_of_hasAt
      simp only [List.head?_cons, decide_true, Bool.or_true, Bool.true_and, if_true,
        List.tail_cons, List.mem_cons, rest, or_and_right, exists_or, exists_eq_left, first]
      grind
    · have later : ∀ s ∈ starts, place + 1 ≤ s := by
        cases starts with
        | nil => simp
        | cons first others =>
          have above := (List.pairwise_cons.1 valid.ascending).1
          have apart : first ≠ place := fun same => starting (by rw [same, List.head?_cons])
          have := ahead first List.mem_cons_self
          intro s start
          rcases List.mem_cons.1 start with rfl | other
          · omega
          · have := above s other
            omega
      have rest := @ih (place + 1) (carried && hasAt text chars place) starts valid later (by omega)
        (onward carried)
      simp only [starting, decide_false, Bool.or_false, if_false]
      cases carried with
      | false => simpa using rest
      | true =>
        simp only [Bool.true_and] at rest
        simp only [if_true, List.mem_cons, Bool.true_and, rest, true_and, first, or_assoc]

/-- A run goes on from where it is. -/
theorem ascending_run (left place : Nat) (carried : Bool) (starts : List Nat) :
    (∀ p ∈ run text chars left place carried starts, place ≤ p) ∧
      (run text chars left place carried starts).Pairwise (· < ·) := by
  induction left generalizing place carried starts with
  | zero => simp [run]
  | succ left ih =>
    rw [run_succ]
    dsimp only
    obtain ⟨beyond, ascending⟩ := ih (place + 1)
      ((carried || decide (starts.head? = some place)) && hasAt text chars place)
      (if starts.head? = some place then starts.tail else starts)
    split
    · refine ⟨fun p member => ?_, List.pairwise_cons.2 ⟨beyond, ascending⟩⟩
      rcases List.mem_cons.1 member with rfl | later
      · exact Nat.le_refl _
      · exact Nat.le_of_succ_le (beyond p later)
    · exact ⟨fun p member => Nat.le_of_succ_le (beyond p member), ascending⟩

theorem Leads.within (leads : Leads size step relation) {i k : Nat} (inside : i ≤ size)
    (steps : relation i k) : k ≤ size := by
  have single : Places size [i] := ⟨List.pairwise_singleton _ _, fun p member =>
    List.mem_singleton.1 member ▸ inside⟩
  exact (leads.places single).within k ((leads.mem single k).2 ⟨i, List.mem_singleton_self i, steps⟩)

theorem head_le (valid : Places size places) : ∀ s ∈ places, places.headD 0 ≤ s := by
  cases places with
  | nil => exact fun s start => absurd start List.not_mem_nil
  | cons first others =>
    intro s start
    rcases List.mem_cons.1 start with rfl | other
    · exact Nat.le_refl _
    · exact Nat.le_of_lt ((List.pairwise_cons.1 valid.ascending).1 s other)

theorem leads_run : Leads text.size
    (fun places => run text chars (text.size + 1) (places.headD 0) false places)
    (Chain text chars) := by
  have mem : ∀ {places}, Places text.size places → ∀ k,
      k ∈ run text chars (text.size + 1) (places.headD 0) false places ↔
        ∃ i ∈ places, Chain text chars i k := fun valid k => by
    simpa using mem_run valid (head_le valid) (Nat.le_add_right _ _)
      (fun here : false = true => absurd here Bool.false_ne_true) k
  refine ⟨fun valid => ⟨(ascending_run _ _ _ _).2, fun k member => ?_⟩, mem, Chain.forward⟩
  obtain ⟨i, start, n, steps⟩ := (mem valid k).1 member
  exact (leads_one.settle n).within (valid.within i start) steps

/-! Repetitions. -/

theorem times_add {m n i k : Nat} :
    Times relation (m + n) i k ↔ ∃ j, Times relation m i j ∧ Times relation n j k := by
  induction m generalizing i with
  | zero => simp [Times]
  | succ m ih =>
    rw [Nat.add_right_comm]
    simp only [Times, ih]
    grind

theorem Leads.congr {relation' : Nat → Nat → Prop} (leads : Leads size step relation)
    (same : ∀ i k, i ≤ size → (relation i k ↔ relation' i k))
    (forward : ∀ {i k}, relation' i k → i ≤ k) : Leads size step relation' where
  places := leads.places
  mem valid k := by
    rw [leads.mem valid]
    exact ⟨fun ⟨i, start, steps⟩ => ⟨i, start, (same i k (valid.within i start)).1 steps⟩,
      fun ⟨i, start, steps⟩ => ⟨i, start, (same i k (valid.within i start)).2 steps⟩⟩
  forward := forward

/-- After the steps that must be taken, all that may follow are found, since more steps than the text
has places lead nowhere else. -/
theorem Leads.repeats (leads : Leads size step relation) (least : Nat) (most : Option Nat) :
    Leads size (fun places => Regex.closure step ((most.map (· - least)).getD (size + 1)) []
      (Regex.settle step least places)) (Repeats relation least most) := by
  refine ((leads.settle least).comp (leads.closure _)).congr (fun i k inside => ?_) ?_
  · constructor
    · rintro ⟨j, first, n, few, others⟩
      refine ⟨least + n, Nat.le_add_right _ _, fun m given => ?_, times_add.2 ⟨j, first, others⟩⟩
      subst given
      simp only [Option.map_some, Option.getD_some] at few
      omega
    · rintro ⟨n, enough, bound, steps⟩
      obtain ⟨more, rfl⟩ := Nat.exists_eq_add_of_le enough
      obtain ⟨j, first, others⟩ := times_add.1 steps
      cases most with
      | some m =>
        have := bound m rfl
        exact ⟨j, first, more, by simp only [Option.map_some, Option.getD_some]; omega, others⟩
      | none =>
        have ended := (leads.settle (least + more)).within inside steps
        obtain ⟨fewer, few, shorter⟩ := others.shorten leads.forward
        exact ⟨j, first, fewer, by simp only [Option.map_none, Option.getD_none]; omega, shorter⟩
  · rintro i k ⟨n, _, _, steps⟩
    exact steps.forward leads.forward

/-- An expression leads from the places where a part that it matches starts to those where one
ends. -/
theorem leads_reach (text : Array Char) (r : Regex) :
    Leads text.size (reach text r) (Spans text r) := by
  induction r with
  | empty => exact ⟨fun valid => valid, fun _ k => by simp [reach, Spans], Nat.le_of_eq⟩
  | one chars => exact leads_one
  | look l =>
    refine ⟨fun valid => ?_, fun valid k => ?_, fun steps => Nat.le_of_eq steps.2⟩
    · exact ⟨valid.ascending.filter _, fun p member => valid.within p (List.mem_filter.1 member).1⟩
    · simp only [reach, Spans, List.mem_filter]
      grind
  | seq first second ih ih' => exact ih.comp ih'
  | alt first second ih ih' =>
    refine ⟨fun valid => (ih.places valid).merge (ih'.places valid), fun valid k => ?_, ?_⟩
    · rw [reach, mem_merge, ih.mem valid, ih'.mem valid]
      simp only [Spans]
      grind
    · rintro i k (here | there)
      · exact ih.forward here
      · exact ih'.forward there
  | times body least most ih =>
    by_cases plain : ∃ chars, body = .one chars ∧ least = 0 ∧ most = none
    · obtain ⟨chars, rfl, rfl, rfl⟩ := plain
      have any : ∀ i k, Chain text chars i k ↔ Spans text (.times (.one chars) 0 none) i k := by
        simp [Chain, Spans, Repeats]
      exact leads_run.congr (fun i k _ => any i k) (fun steps => ((any _ _).2 steps).forward)
    · have general : reach text (.times body least most) = fun places =>
          closure (reach text body) ((most.map (· - least)).getD (text.size + 1)) []
            (settle (reach text body) least places) := by
        funext places
        rw [reach]
        exact fun chars same none most => plain ⟨chars, same, none, most⟩
      rw [general]
      exact ih.repeats least most
  | group body ih => exact ih

/-- An expression occurs in a text just if it matches a part of it. -/
theorem occursIn_iff {r : Regex} {s : String} :
    r.occursIn s = true ↔
      ∃ i k, i ≤ s.toList.length ∧ Spans s.toList.toArray r i k := by
  have all : Places s.toList.toArray.size (List.range (s.toList.toArray.size + 1)) :=
    ⟨List.pairwise_lt_range, fun p member => Nat.le_of_lt_succ (List.mem_range.1 member)⟩
  have found := (leads_reach s.toList.toArray r).mem all
  rw [occursIn, Bool.not_eq_true', List.isEmpty_eq_false_iff_exists_mem, exists_comm]
  refine exists_congr (fun k => (found k).trans (exists_congr (fun i => ?_)))
  rw [List.mem_range, Nat.lt_succ_iff, List.size_toArray]

end ThreatHunt.Regex
