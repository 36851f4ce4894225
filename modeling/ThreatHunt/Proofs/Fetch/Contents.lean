import ThreatHunt.Proofs.Fetch.SingleFlight

/-!
What the cache holds. Each entry is the last answer that came back for its key, there are never more
than there is room for, and what makes room is the entry whose key was answered longest ago.
-/

namespace ThreatHunt

namespace FetchCache

variable {c : FetchCache} {now : Nat} {key : FetchKey}

theorem entries_complete (c : FetchCache) (now : Nat) (key : FetchKey) (response : Response) :
    (c.complete now key (.ok response)).entries =
      if c.capacity = 0 then c.entries
      else List.drop ((c.entriesWithout key).length + 1 - c.capacity)
        (c.entriesWithout key ++ [⟨key, response, now⟩]) := by
  simp only [complete, store]
  split
  · rfl
  · rw [List.length_append, List.length_singleton]
    rfl

/-- Which entries there are after an answer has come back, if before it there are no more than there
is room for. -/
inductive Stored (c : FetchCache) (now : Nat) (key : FetchKey) (response : Response) :
    List CacheEntry → Prop where
  | unwanted (noRoom : c.capacity = 0) : Stored c now key response c.entries
  | room (free : (c.entriesWithout key).length < c.capacity) :
      Stored c now key response (c.entriesWithout key ++ [⟨key, response, now⟩])
  | full {oldest : CacheEntry} {rest : List CacheEntry} (all : c.entries = oldest :: rest)
      (fresh : c.entriesWithout key = c.entries) (taken : c.entries.length = c.capacity) :
      Stored c now key response (rest ++ [⟨key, response, now⟩])

theorem stored_complete (bounded : c.entries.length ≤ c.capacity) (response : Response) :
    Stored c now key response (c.complete now key (.ok response)).entries := by
  rw [entries_complete]
  split
  · rename_i noRoom
    exact .unwanted noRoom
  · rename_i some
    rcases Nat.lt_or_ge (c.entriesWithout key).length c.capacity with free | taken
    · rw [Nat.sub_eq_zero_of_le free]
      exact .room free
    · have fresh : c.entriesWithout key = c.entries :=
        List.filter_sublist.eq_of_length_le (bounded.trans taken)
      have full : c.entries.length = c.capacity := Nat.le_antisymm bounded (fresh ▸ taken)
      rw [fresh, full, Nat.add_sub_cancel_left]
      cases all : c.entries with
      | nil =>
        rw [all, List.length_nil] at full
        exact absurd full.symm some
      | cons oldest rest => exact .full all fresh full

/-- A request that comes back is no call. -/
theorem complete_counts (c : FetchCache) (now : Nat) (key : FetchKey) (result : FetchResult) :
    (c.complete now key result).capacity = c.capacity ∧
    (c.complete now key result).stats.hits = c.stats.hits ∧
    (c.complete now key result).stats.misses = c.stats.misses ∧
    (c.complete now key result).stats.shared = c.stats.shared := by
  cases result with
  | error issue => exact ⟨rfl, rfl, rfl, rfl⟩
  | ok response =>
    simp only [complete, store]
    split <;> exact ⟨rfl, rfl, rfl, rfl⟩

/-- A call leaves the entries of other keys. -/
theorem mem_ask_of_ne {e : CacheEntry} (member : e ∈ c.entries) (other : e.key ≠ key) :
    e ∈ (c.ask now key).1.entries := by
  have asked := asked_ask c now key
  have stays : e ∈ c.entriesWithout key := List.mem_filter.2 ⟨member, decide_eq_true other⟩
  generalize c.ask now key = result at asked ⊢
  cases asked with
  | ready => exact member
  | joined => exact stays
  | started => exact stays

theorem live?_of_mem (distinct : (c.entries.map CacheEntry.key).Nodup) {e : CacheEntry}
    (member : e ∈ c.entries) (live : c.isLive now e = true) :
    c.live? now e.key = some e.response := by
  have found : c.entry? e.key = some e :=
    Keyed.find?_eq_some distinct member (fun _ _ => decide_eq_true_iff)
  simp only [live?, found, live, if_true]

/-- A call that finds an entry young enough drops none. -/
theorem entries_ask_of_live (distinct : (c.entries.map CacheEntry.key).Nodup) {e : CacheEntry}
    (member : e ∈ c.entries) (live : c.isLive now e = true) :
    (c.ask now e.key).1.entries = c.entries := by
  simp only [ask, live?_of_mem distinct member live]

end FetchCache

/-- Whether a request brought an answer for a key. -/
def Landing.answers (key : FetchKey) (l : Landing) : Bool := l.result.isOk && l.flight.key = key

namespace Traffic

/-- The last answer that came back for a key. -/
def lastAnswer? (s : Traffic) (key : FetchKey) : Option Landing :=
  s.landings.reverse.find? (Landing.answers key)

/-- How many requests have come back since the last answer for a key. -/
def age (s : Traffic) (key : FetchKey) : Nat := s.landings.reverse.findIdx (Landing.answers key)

/-- Why an entry is no longer there after a step. -/
inductive Lost (capacity : Nat) (s : Traffic) (e : CacheEntry) : Traffic → Prop where
  /-- It was asked for when it was too old. -/
  | stale (old : s.cache.isLive s.now e = false) : Lost capacity s e (s.call e.key)
  | cleared : Lost capacity s e { s with cache := s.cache.clear }
  /-- A new answer for its key came back. -/
  | replaced {f : Flight} (same : f.key = e.key) (response : Response) :
      Lost capacity s e (s.land f (.ok response))
  /-- An answer for a new key came back, all room was taken, and its own key was answered before
  those of all other entries. -/
  | evicted {f : Flight} (new : ∀ d ∈ s.cache.entries, d.key ≠ f.key)
      (full : s.cache.entries.length = capacity)
      (oldest : ∀ d ∈ s.cache.entries, d ≠ e → s.age d.key < s.age e.key) (response : Response) :
      Lost capacity s e (s.land f (.ok response))

/-- What holds of the kept answers at any time. -/
structure Kept (capacity : Nat) (s : Traffic) : Prop where
  constant : s.cache.capacity = capacity
  bounded : s.cache.entries.length ≤ capacity
  latest : ∀ e ∈ s.cache.entries, ∃ number,
    s.lastAnswer? e.key = some ⟨⟨e.key, number⟩, .ok e.response, e.storedAt⟩
  /-- Entries stand in the order of the last answers for their keys. -/
  ordered : s.cache.entries.Pairwise (fun d e => s.age e.key < s.age d.key)
  counted : s.cache.stats.hits + s.cache.stats.misses + s.cache.stats.shared = s.calls.length

variable {lifetime capacity : Nat} {s t : Traffic}

theorem kept_empty : (empty lifetime capacity).Kept capacity where
  constant := rfl
  bounded := Nat.zero_le _
  latest := fun _ member => absurd member List.not_mem_nil
  ordered := List.Pairwise.nil
  counted := rfl

/-- Fewer entries and the same history. -/
theorem Kept.fewer (kept : s.Kept capacity) (constant : t.cache.capacity = s.cache.capacity)
    (fewer : t.cache.entries.Sublist s.cache.entries) (landings : t.landings = s.landings)
    (counted : t.cache.stats.hits + t.cache.stats.misses + t.cache.stats.shared =
      t.calls.length) : t.Kept capacity where
  constant := constant.trans kept.constant
  bounded := fewer.length_le.trans kept.bounded
  latest := fun e member => by
    unfold lastAnswer?
    rw [landings]
    exact kept.latest e (fewer.subset member)
  ordered := by
    unfold age
    rw [landings]
    exact kept.ordered.sublist fewer
  counted := counted

theorem kept_call (kept : s.Kept capacity) (key : FetchKey) : (s.call key).Kept capacity := by
  have asked := FetchCache.asked_ask s.cache s.now key
  have counted := kept.counted
  unfold call
  generalize s.cache.ask s.now key = result at asked ⊢
  cases asked with
  | ready there live =>
    refine kept.fewer rfl (List.Sublist.refl _) rfl ?_
    simp only [List.length_append, List.length_singleton]
    omega
  | joined running =>
    refine kept.fewer rfl List.filter_sublist rfl ?_
    simp only [List.length_append, List.length_singleton]
    omega
  | started free =>
    refine kept.fewer rfl List.filter_sublist rfl ?_
    simp only [List.length_append, List.length_singleton]
    omega

theorem lastAnswer?_land (s : Traffic) (f : Flight) (result : FetchResult) (key : FetchKey) :
    (s.land f result).lastAnswer? key =
      if Landing.answers key ⟨f, result, s.now⟩ then some ⟨f, result, s.now⟩
      else s.lastAnswer? key := by
  simp only [lastAnswer?, land, List.reverse_append, List.reverse_singleton, List.singleton_append,
    List.find?_cons]
  split <;> simp_all

theorem age_land (s : Traffic) (f : Flight) (result : FetchResult) (key : FetchKey) :
    (s.land f result).age key =
      if Landing.answers key ⟨f, result, s.now⟩ then 0 else s.age key + 1 := by
  simp only [age, land, List.reverse_append, List.reverse_singleton, List.singleton_append,
    List.findIdx_cons]
  split <;> simp_all

theorem answers_ok {f : Flight} {response : Response} {now : Nat} {key : FetchKey} :
    Landing.answers key ⟨f, .ok response, now⟩ = true ↔ f.key = key := by
  simp [Landing.answers, Except.isOk, Except.toBool]

theorem answers_error {f : Flight} {issue : Issue} {now : Nat} {key : FetchKey} :
    Landing.answers key ⟨f, .error issue, now⟩ = false := by
  simp [Landing.answers, Except.isOk, Except.toBool]

/-- After a landing the cache holds some entries that it does not answer, and perhaps its own. -/
theorem Kept.landed (kept : s.Kept capacity) {f : Flight} {result : FetchResult}
    {old new : List CacheEntry} (entries : (s.land f result).cache.entries = old ++ new)
    (fewer : old.Sublist s.cache.entries)
    (others : ∀ e ∈ old, Landing.answers e.key ⟨f, result, s.now⟩ = false)
    (single : new.length ≤ 1)
    (own : ∀ e ∈ new, e = ⟨f.key, e.response, s.now⟩ ∧ result = .ok e.response)
    (bounded : (old ++ new).length ≤ capacity) : (s.land f result).Kept capacity where
  constant := (FetchCache.complete_counts s.cache s.now f.key result).1.trans kept.constant
  bounded := entries ▸ bounded
  latest := fun e member => by
    rw [entries] at member
    rw [lastAnswer?_land]
    rcases List.mem_append.1 member with there | mine
    · rw [others e there]
      exact kept.latest e (fewer.subset there)
    · obtain ⟨made, succeeded⟩ := own e mine
      have answered : Landing.answers e.key ⟨f, result, s.now⟩ = true := by
        rw [succeeded, answers_ok, made]
      rw [answered, succeeded, made]
      exact ⟨f.number, rfl⟩
  ordered := by
    rw [entries, List.pairwise_append]
    refine ⟨?_, ?_, fun d there e mine => ?_⟩
    · refine (kept.ordered.sublist fewer).imp_of_mem (fun first second younger => ?_)
      rw [age_land, age_land, others _ first, others _ second]
      exact Nat.succ_lt_succ younger
    · match new, single with
      | [], _ => exact List.Pairwise.nil
      | [e], _ => exact List.pairwise_singleton _ e
    · obtain ⟨made, succeeded⟩ := own e mine
      have answered : Landing.answers e.key ⟨f, result, s.now⟩ = true := by
        rw [succeeded, answers_ok, made]
      rw [age_land, age_land, others d there, answered]
      exact Nat.succ_pos _
  counted := by
    obtain ⟨_, hits, misses, shared⟩ :=
      FetchCache.complete_counts s.cache s.now f.key result
    simp only [land, hits, misses, shared]
    exact kept.counted

theorem not_answers_of_ne {f : Flight} {response : Response} {now : Nat} {key : FetchKey}
    (other : key ≠ f.key) : Landing.answers key ⟨f, .ok response, now⟩ = false :=
  Bool.eq_false_iff.2 (fun answered => other (answers_ok.1 answered).symm)

theorem Kept.stored_land (kept : s.Kept capacity) (f : Flight) (response : Response) :
    s.cache.Stored s.now f.key response (s.land f (.ok response)).cache.entries :=
  FetchCache.stored_complete (kept.bounded.trans_eq kept.constant.symm) response

theorem kept_land (kept : s.Kept capacity) (f : Flight) (result : FetchResult) :
    (s.land f result).Kept capacity := by
  cases result with
  | error issue =>
    refine kept.landed (List.append_nil _).symm (List.Sublist.refl _) (fun _ _ => answers_error)
      (Nat.zero_le _) (fun _ none => absurd none List.not_mem_nil) ?_
    exact (List.append_nil _).symm ▸ kept.bounded
  | ok response =>
    have stored := kept.stored_land f response
    have own : ∀ e ∈ [(⟨f.key, response, s.now⟩ : CacheEntry)],
        e = ⟨f.key, e.response, s.now⟩ ∧ (.ok response : FetchResult) = .ok e.response := by
      intro e mine
      rw [List.mem_singleton.1 mine]
      exact ⟨rfl, rfl⟩
    generalize after : (s.land f (.ok response)).cache.entries = entries at stored
    cases stored with
    | unwanted noRoom =>
      have empty : s.cache.entries = [] ++ [] :=
        List.length_eq_zero_iff.1 (Nat.le_zero.1 (kept.constant.symm.trans noRoom ▸ kept.bounded))
      exact kept.landed (after.trans empty) (List.nil_sublist _)
        (fun _ none => absurd none List.not_mem_nil) (Nat.zero_le _)
        (fun _ none => absurd none List.not_mem_nil) (Nat.zero_le _)
    | room free =>
      refine kept.landed after List.filter_sublist (fun e member => ?_) (Nat.le_refl _) own ?_
      · exact not_answers_of_ne (of_decide_eq_true (List.mem_filter.1 member).2)
      · rw [List.length_append, List.length_singleton]
        exact kept.constant ▸ free
    | @full oldest rest all fresh taken =>
      refine kept.landed after ?_ (fun e member => ?_) (Nat.le_refl _) own ?_
      · exact all ▸ List.sublist_cons_self _ _
      · have there : e ∈ s.cache.entriesWithout f.key := by
          rw [fresh, all]
          exact List.mem_cons_of_mem _ member
        exact not_answers_of_ne (of_decide_eq_true (List.mem_filter.1 there).2)
      · rw [List.length_append, List.length_singleton, ← List.length_cons, ← all, taken]
        exact kept.constant.le

theorem Reachable.kept (reachable : Reachable lifetime capacity s) : s.Kept capacity := by
  induction reachable with
  | empty => exact kept_empty
  | step _ next ih =>
    cases next with
    | wait time => exact ih.fewer rfl (List.Sublist.refl _) rfl ih.counted
    | call key => exact kept_call ih key
    | land runs result => exact kept_land ih _ result
    | clear => exact ih.fewer rfl (List.nil_sublist _) rfl ih.counted

/-- No two entries are for one key. -/
theorem Kept.distinct (kept : s.Kept capacity) : (s.cache.entries.map CacheEntry.key).Nodup := by
  refine List.pairwise_map.2 (kept.ordered.imp (fun younger same => ?_))
  rw [same] at younger
  exact Nat.lt_irrefl _ younger

theorem Kept.lost_call (kept : s.Kept capacity) {key : FetchKey} {e : CacheEntry}
    (member : e ∈ s.cache.entries) (gone : e ∉ (s.call key).cache.entries) :
    Lost capacity s e (s.call key) := by
  by_cases same : e.key = key
  · subst same
    refine .stale (Bool.eq_false_iff.2 (fun live => gone ?_))
    exact (FetchCache.entries_ask_of_live kept.distinct member live) ▸ member
  · exact absurd (FetchCache.mem_ask_of_ne member same) gone

theorem Kept.lost_land (kept : s.Kept capacity) {f : Flight} {result : FetchResult}
    {e : CacheEntry} (member : e ∈ s.cache.entries)
    (gone : e ∉ (s.land f result).cache.entries) : Lost capacity s e (s.land f result) := by
  cases result with
  | error issue => exact absurd member gone
  | ok response =>
    have stored := kept.stored_land f response
    generalize (s.land f (.ok response)).cache.entries = entries at stored gone
    cases stored with
    | unwanted => exact absurd member gone
    | room =>
      by_cases same : f.key = e.key
      · exact .replaced same response
      · refine absurd (List.mem_append_left _ (List.mem_filter.2 ⟨member, ?_⟩)) gone
        exact decide_eq_true (fun this => same this.symm)
    | @full oldest rest all fresh taken =>
      have ordered := kept.ordered
      rw [all] at member ordered
      rcases List.mem_cons.1 member with rfl | later
      · refine .evicted (fun d there => ?_) (taken.trans kept.constant) (fun d there other => ?_)
          response
        · rw [← fresh] at there
          exact of_decide_eq_true (List.mem_filter.1 there).2
        · rw [all] at there
          exact List.rel_of_pairwise_cons ordered ((List.mem_cons.1 there).resolve_left other)
      · exact absurd (List.mem_append_left _ later) gone

theorem Kept.mem_land (kept : s.Kept capacity) (room : 0 < capacity) (f : Flight)
    (response : Response) : ⟨f.key, response, s.now⟩ ∈ (s.land f (.ok response)).cache.entries := by
  have stored := kept.stored_land f response
  generalize (s.land f (.ok response)).cache.entries = entries at stored
  cases stored with
  | unwanted noRoom => exact absurd (kept.constant.symm.trans noRoom) (Nat.ne_of_gt room)
  | room => exact List.mem_append_right _ (List.mem_singleton_self _)
  | full => exact List.mem_append_right _ (List.mem_singleton_self _)

/-- There are never more entries than room for them, each is the last answer for its key, and no
failure is stored. An entry goes only if it was too old when asked for, with all others, for a newer
answer, or to make room for a new key as the one whose key was answered longest ago. Each call is
counted once. -/
theorem contents_of_reachable (reachable : Reachable lifetime capacity s) :
    s.cache.size ≤ capacity ∧
    (s.cache.entries.map CacheEntry.key).Nodup ∧
    (∀ e ∈ s.cache.entries, ∃ number,
      s.lastAnswer? e.key = some ⟨⟨e.key, number⟩, .ok e.response, e.storedAt⟩) ∧
    (∀ f issue, (s.land f (.error issue)).cache.entries = s.cache.entries) ∧
    (∀ f response, 0 < capacity →
      ⟨f.key, response, s.now⟩ ∈ (s.land f (.ok response)).cache.entries) ∧
    (∀ t, Step s t → ∀ e ∈ s.cache.entries, e ∉ t.cache.entries → Lost capacity s e t) ∧
    s.cache.stats.hits + s.cache.stats.misses + s.cache.stats.shared = s.calls.length := by
  have kept := reachable.kept
  refine ⟨kept.bounded, kept.distinct, kept.latest, fun _ _ => rfl,
    fun f response room => kept.mem_land room f response, fun t next e member gone => ?_,
    kept.counted⟩
  cases next with
  | wait time => exact absurd member gone
  | call key => exact kept.lost_call member gone
  | land runs result => exact kept.lost_land member gone
  | clear => exact .cleared

/-- One answer is kept, which takes all room, and a request for another key runs. -/
def crowded (kept asked : FetchKey) : Traffic :=
  (((empty 10 1).call kept).land ⟨kept, 0⟩ (.ok ⟨[], []⟩)).call asked

theorem reachable_crowded (kept asked : FetchKey) : Reachable 10 1 (crowded kept asked) := by
  have runs : ⟨kept, 0⟩ ∈ ((empty 10 1).call kept).running := by
    simp [call, empty, FetchCache.ask, FetchCache.empty, FetchCache.live?, FetchCache.entry?,
      FetchCache.flight?, launch, Ticket.launched]
  exact .step (.step (.step .empty (.call _ kept)) (.land _ runs _)) (.call _ asked)

theorem contents_of_reachable_crowded :
    let s := crowded ⟨"sensor", "file", "*", none, none⟩ ⟨"sensor", "process", "*", none, none⟩
    let t := s.land ⟨⟨"sensor", "process", "*", none, none⟩, 1⟩ (.ok ⟨[], []⟩)
    s.cache.entries = [⟨⟨"sensor", "file", "*", none, none⟩, ⟨[], []⟩, 0⟩] ∧
      t.cache.entries = [⟨⟨"sensor", "process", "*", none, none⟩, ⟨[], []⟩, 0⟩] ∧
      Lost 1 s ⟨⟨"sensor", "file", "*", none, none⟩, ⟨[], []⟩, 0⟩ t := by
  refine ⟨rfl, rfl, (contents_of_reachable (reachable_crowded _ _)).2.2.2.2.2.1 _
    (.land _ (List.mem_singleton_self _) _) _ (List.mem_singleton_self _) (fun member => ?_)⟩
  have same := congrArg (fun e => e.key.entityType) (List.mem_singleton.1 member)
  exact absurd same (by decide)

end Traffic
end ThreatHunt
