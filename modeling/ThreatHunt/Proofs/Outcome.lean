import Mathlib.Data.List.Forall2
import ThreatHunt.Hunt.Plan

/-!
Computations that may fail: what it takes that a whole one succeeds.
-/

namespace ThreatHunt.Outcome

variable {ε α β γ δ : Type}

theorem bind_eq_ok {x : Except ε α} {f : α → Except ε β} {b : β} :
    (x >>= f) = .ok b ↔ ∃ a, x = .ok a ∧ f a = .ok b := by
  cases x with
  | error e => simp [bind, Except.bind]
  | ok a => simp [bind, Except.bind]

theorem map_eq_ok {x : Except ε α} {f : α → β} {b : β} :
    (f <$> x) = .ok b ↔ ∃ a, x = .ok a ∧ f a = b := by
  cases x with
  | error e => simp [Functor.map, Except.map]
  | ok a => simp [Functor.map, Except.map]

theorem mapError_eq_ok {ε' : Type} {x : Except ε α} {f : ε → ε'} {a : α} :
    x.mapError f = .ok a ↔ x = .ok a := by
  cases x <;> simp [Except.mapError]

theorem pure_eq_ok {a b : α} : (pure a : Except ε α) = .ok b ↔ a = b := by
  simp [pure, Except.pure]

/-- A test that throws is passed only where its condition does not hold. -/
theorem guard_eq_ok {c : Prop} [Decidable c] {e : ε} {f : α → Except ε β} {x : Except ε β} {b : β} :
    (if c then (throw e : Except ε α) >>= f else x) = .ok b ↔ ¬c ∧ x = .ok b := by
  by_cases holds : c
  · simp [holds, throw, throwThe, MonadExceptOf.throw, bind, Except.bind]
  · simp [holds]

/-- Computations are alike if their first parts are and the rest is once these have succeeded. -/
theorem bind_congr_ok {x y : Except ε α} {f g : α → Except ε β} (first : x = y)
    (rest : ∀ a, y = .ok a → f a = g a) : (x >>= f) = (y >>= g) := by
  rw [first]
  cases y with
  | error e => rfl
  | ok a => exact rest a rfl

theorem mapM_congr {f g : α → Except ε β} {as : List α} (each : ∀ a ∈ as, f a = g a) :
    as.mapM f = as.mapM g := by
  induction as with
  | nil => rfl
  | cons a rest ih =>
    rw [List.mapM_cons, List.mapM_cons, each a (List.mem_cons_self ..)]
    rw [ih (fun b member => each b (List.mem_cons_of_mem _ member))]

/-- A computation fails as its first part does, or as the rest does once that has succeeded. -/
theorem fails_bind_of {Kept : ε → Prop} {x : Except ε α} {f : α → Except ε β}
    (first : ∀ e, x = .error e → Kept e) (rest : ∀ a, x = .ok a → ∀ e, f a = .error e → Kept e) :
    ∀ e, (x >>= f) = .error e → Kept e := by
  intro e failed
  cases x with
  | error other => exact first e (congrArg Except.error (Except.error.inj failed))
  | ok a => exact rest a rfl e failed

/-- A computation fails as its parts do. -/
theorem fails_bind {Kept : ε → Prop} {x : Except ε α} {f : α → Except ε β}
    (first : ∀ e, x = .error e → Kept e) (rest : ∀ a e, f a = .error e → Kept e) :
    ∀ e, (x >>= f) = .error e → Kept e :=
  fails_bind_of first (fun a _ => rest a)

theorem fails_guard {Kept : ε → Prop} {c : Prop} [Decidable c] {thrown : ε} {f : α → Except ε β}
    {x : Except ε β} (first : Kept thrown) (rest : ∀ e, x = .error e → Kept e) :
    ∀ e, (if c then (throw thrown : Except ε α) >>= f else x) = .error e → Kept e := by
  intro e failed
  by_cases holds : c
  · rw [if_pos holds] at failed
    exact Except.error.inj failed ▸ first
  · rw [if_neg holds] at failed
    exact rest e failed

theorem fails_map {Kept : ε → Prop} {x : Except ε α} {f : α → β}
    (first : ∀ e, x = .error e → Kept e) :
    ∀ e, (f <$> x) = .error e → Kept e := by
  intro e failed
  cases x with
  | error other => exact first e (congrArg Except.error (Except.error.inj failed))
  | ok a => nomatch failed

theorem fails_mapM {Kept : ε → Prop} {f : α → Except ε β} {as : List α}
    (each : ∀ a ∈ as, ∀ e, f a = .error e → Kept e) : ∀ e, as.mapM f = .error e → Kept e := by
  induction as with
  | nil => exact fun e failed => by cases failed
  | cons a rest ih =>
    rw [List.mapM_cons]
    have later := ih (fun b member => each b (List.mem_cons_of_mem _ member))
    exact fails_bind (each a (List.mem_cons_self ..))
      (fun _ => fails_bind later (fun _ _ failed => by cases failed))

theorem fails_forM {Kept : ε → Prop} {f : α → Except ε Unit} {as : List α}
    (each : ∀ a ∈ as, ∀ e, f a = .error e → Kept e) : ∀ e, as.forM f = .error e → Kept e := by
  induction as with
  | nil => exact fun e failed => by cases failed
  | cons a rest ih =>
    change ∀ e, (f a >>= fun _ => rest.forM f) = .error e → Kept e
    exact fails_bind (each a (List.mem_cons_self ..))
      (fun _ => ih (fun b member => each b (List.mem_cons_of_mem _ member)))

theorem fails_foldlM {Kept : ε → Prop} {f : β → α → Except ε β} {as : List α}
    (each : ∀ b, ∀ a ∈ as, ∀ e, f b a = .error e → Kept e) (start : β) :
    ∀ e, as.foldlM f start = .error e → Kept e := by
  induction as generalizing start with
  | nil => exact fun e failed => by cases failed
  | cons a rest ih =>
    rw [List.foldlM_cons]
    exact fails_bind (each start a (List.mem_cons_self ..))
      (fun b => ih (fun c d member => each c d (List.mem_cons_of_mem _ member)) b)

/-- A list is gone through with success if each of its items succeeds. -/
theorem mapM_eq_ok {f : α → Except ε β} {as : List α} {bs : List β} :
    as.mapM f = .ok bs ↔ List.Forall₂ (fun a b => f a = .ok b) as bs := by
  induction as generalizing bs with
  | nil =>
    rw [List.mapM_nil, pure_eq_ok]
    exact ⟨fun same => same ▸ .nil, fun all => by cases all; rfl⟩
  | cons a rest ih =>
    rw [List.mapM_cons, bind_eq_ok]
    constructor
    · rintro ⟨b, first, others⟩
      obtain ⟨bs, rest, same⟩ := bind_eq_ok.1 others
      rw [← pure_eq_ok.1 same]
      exact .cons first (ih.1 rest)
    · intro all
      cases all with
      | cons first others =>
        exact ⟨_, first, bind_eq_ok.2 ⟨_, ih.2 others, rfl⟩⟩

theorem exists_of_forall₂ {Related : α → β → Prop} {as : List α} {bs : List β}
    (paired : List.Forall₂ Related as bs) {b : β} (member : b ∈ bs) : ∃ a ∈ as, Related a b := by
  induction paired with
  | nil => exact absurd member List.not_mem_nil
  | cons first _ ih =>
    rcases List.mem_cons.1 member with rfl | later
    · exact ⟨_, List.mem_cons_self .., first⟩
    · obtain ⟨a, there, related⟩ := ih later
      exact ⟨a, List.mem_cons_of_mem _ there, related⟩

theorem map_eq_of_forall₂ {Related : α → β → Prop} {f : α → γ} {g : β → γ} {as : List α}
    {bs : List β} (paired : List.Forall₂ Related as bs) (agree : ∀ a b, Related a b → g b = f a) :
    bs.map g = as.map f := by
  induction paired with
  | nil => rfl
  | cons first _ ih => rw [List.map_cons, List.map_cons, agree _ _ first, ih]

theorem getElem?_of_forall₂ {Related : α → β → Prop} {as : List α} {bs : List β}
    (paired : List.Forall₂ Related as bs) {i : Nat} {a : α} (there : as[i]? = some a) :
    ∃ b, bs[i]? = some b ∧ Related a b := by
  induction paired generalizing i with
  | nil => nomatch there
  | cons first _ ih =>
    cases i with
    | zero => exact ⟨_, rfl, Option.some.inj there ▸ first⟩
    | succ i => exact ih there

theorem of_mem_mapM {f : α → Except ε β} {as : List α} {bs : List β} (mapped : as.mapM f = .ok bs)
    {b : β} (member : b ∈ bs) : ∃ a ∈ as, f a = .ok b :=
  exists_of_forall₂ (mapM_eq_ok.1 mapped) member

/-- What each step of a fold keeps, a fold that succeeds keeps. -/
theorem keeps_of_foldlM {f : β → α → Except ε β} (Kept : β → Prop)
    (step : ∀ b a c, Kept b → f b a = .ok c → Kept c) {as : List α} {b c : β} (start : Kept b)
    (folded : as.foldlM f b = .ok c) : Kept c := by
  induction as generalizing b with
  | nil => exact pure_eq_ok.1 folded ▸ start
  | cons a rest ih =>
    rw [List.foldlM_cons, bind_eq_ok] at folded
    obtain ⟨middle, first, others⟩ := folded
    exact ih (step b a middle start first) others

/-- Two computations that fail alike or succeed with related results. -/
inductive Agree (Related : α → β → Prop) : Except ε α → Except ε β → Prop where
  | error (e : ε) : Agree Related (.error e) (.error e)
  | ok {a : α} {b : β} (related : Related a b) : Agree Related (.ok a) (.ok b)

variable {Related : α → β → Prop} {After : γ → δ → Prop}

theorem Agree.refl (x : Except ε α) : Agree Eq x x := by
  cases x with
  | error e => exact .error e
  | ok a => exact .ok rfl

theorem Agree.imp {Wider : α → β → Prop} {x : Except ε α} {y : Except ε β}
    (wider : ∀ a b, Related a b → Wider a b) (agree : Agree Related x y) : Agree Wider x y := by
  cases agree with
  | error e => exact .error e
  | ok related => exact .ok (wider _ _ related)

theorem Agree.bind {x : Except ε α} {y : Except ε β} {f : α → Except ε γ} {g : β → Except ε δ}
    (agree : Agree Related x y) (next : ∀ a b, Related a b → Agree After (f a) (g b)) :
    Agree After (x >>= f) (y >>= g) := by
  cases agree with
  | error e => exact .error e
  | ok related => exact next _ _ related

/-- After the same first step. -/
theorem Agree.after {x : Except ε α} {f : α → Except ε γ} {g : α → Except ε δ}
    (next : ∀ a, Agree After (f a) (g a)) : Agree After (x >>= f) (x >>= g) :=
  (Agree.refl x).bind (fun a _ same => same ▸ next a)

theorem Agree.foldlM {f : α → γ → Except ε α} {g : β → γ → Except ε β} {items : List γ}
    (step : ∀ a b item, Related a b → Agree Related (f a item) (g b item)) {a : α} {b : β}
    (start : Related a b) : Agree Related (items.foldlM f a) (items.foldlM g b) := by
  induction items generalizing a b with
  | nil => exact .ok start
  | cons item rest ih =>
    rw [List.foldlM_cons, List.foldlM_cons]
    exact (step a b item start).bind (fun _ _ => ih)

end ThreatHunt.Outcome
