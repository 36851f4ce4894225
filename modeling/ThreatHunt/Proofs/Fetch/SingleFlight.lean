import ThreatHunt.Proofs.Fetch.Replies
import ThreatHunt.Proofs.Keyed
import Mathlib.Data.List.Range

/-!
One request at a time for each key. Whatever the order of calls and of answers, a caller gets an
answer that was kept for its key or just what the one request brings that it waits for.
-/

namespace ThreatHunt.Traffic

/-- The requests that had come back before a call. -/
def before (s : Traffic) (c : Call) : List Landing := s.landings.take c.landed

/-- What a call is promised when it is made. -/
def Promised (lifetime : Nat) (s : Traffic) (c : Call) : Prop :=
  match c.ticket with
  | .ready response => ∃ e ∈ c.kept, e.key = c.key ∧ e.response = response ∧
      c.time - e.storedAt < lifetime ∧ ∃ l ∈ s.before c,
        l.flight.key = e.key ∧ l.result = .ok response ∧ l.time = e.storedAt
  | .joined number | .started number =>
    ⟨c.key, number⟩ ∈ s.started ∧ ∀ l ∈ s.before c, l.flight.number ≠ number

/-- What holds of traffic at any time. -/
structure Orderly (lifetime : Nat) (s : Traffic) : Prop where
  constant : s.cache.lifetime = lifetime
  /-- The cache knows the running requests. -/
  slots : s.cache.flights = s.running
  apart : (s.running.map Flight.key).Nodup
  numbered : s.started.map Flight.number = List.range s.cache.stats.misses
  accounted : ∀ f, f ∈ s.started ↔ f ∈ s.running ∨ ∃ l ∈ s.landings, l.flight = f
  once : (s.landings.map (fun l => l.flight.number)).Nodup
  ended : ∀ l ∈ s.landings, ∀ f ∈ s.running, l.flight.number ≠ f.number
  /-- Kept answers are those of requests that came back. -/
  kept : ∀ e ∈ s.cache.entries, ∃ l ∈ s.landings,
    l.flight.key = e.key ∧ l.result = .ok e.response ∧ l.time = e.storedAt
  own : s.calls.filterMap (fun c => c.ticket.launched) = s.started.map Flight.number
  seen : ∀ c ∈ s.calls, c.landed ≤ s.landings.length
  promised : ∀ c ∈ s.calls, s.Promised lifetime c

variable {lifetime capacity : Nat} {s t : Traffic}

theorem orderly_empty : (empty lifetime capacity).Orderly lifetime where
  constant := rfl
  slots := rfl
  apart := List.nodup_nil
  numbered := rfl
  accounted := fun f => by simp [empty]
  once := List.nodup_nil
  ended := fun _ member => absurd member List.not_mem_nil
  kept := fun _ member => absurd member List.not_mem_nil
  own := rfl
  seen := fun _ member => absurd member List.not_mem_nil
  promised := fun _ member => absurd member List.not_mem_nil

theorem Orderly.number_lt (orderly : s.Orderly lifetime) {f : Flight} (member : f ∈ s.started) :
    f.number < s.cache.stats.misses := by
  have there : f.number ∈ s.started.map Flight.number := List.mem_map_of_mem member
  rw [orderly.numbered] at there
  exact List.mem_range.1 there

theorem Orderly.started_of_running (orderly : s.Orderly lifetime) {f : Flight}
    (runs : f ∈ s.running) : f ∈ s.started :=
  (orderly.accounted f).2 (.inl runs)

theorem Orderly.started_of_landed (orderly : s.Orderly lifetime) {l : Landing}
    (landed : l ∈ s.landings) : l.flight ∈ s.started :=
  (orderly.accounted _).2 (.inr ⟨l, landed, rfl⟩)

/-- Requests have numbers of their own. -/
theorem Orderly.eq_of_number (orderly : s.Orderly lifetime) {f g : Flight} (first : f ∈ s.started)
    (second : g ∈ s.started) (same : f.number = g.number) : f = g :=
  Keyed.eq_of_key (orderly.numbered ▸ List.nodup_range) first second same

/-- A promise does not depend on what comes after it. -/
theorem Promised.later {c : Call} (promised : s.Promised lifetime c)
    (seen : c.landed ≤ s.landings.length) (more : List Landing)
    (landings : t.landings = s.landings ++ more) (started : ∀ f ∈ s.started, f ∈ t.started) :
    t.Promised lifetime c := by
  have same : t.before c = s.before c := by
    rw [before, landings, List.take_append_of_le_length seen]
    rfl
  unfold Promised at promised ⊢
  rw [same]
  generalize c.ticket = ticket at promised ⊢
  cases ticket with
  | ready response => exact promised
  | joined number => exact ⟨started _ promised.1, promised.2⟩
  | started number => exact ⟨started _ promised.1, promised.2⟩

theorem orderly_wait (orderly : s.Orderly lifetime) (time : Nat) :
    Orderly lifetime { s with now := s.now + time } :=
  ⟨orderly.constant, orderly.slots, orderly.apart, orderly.numbered, orderly.accounted,
    orderly.once, orderly.ended, orderly.kept, orderly.own, orderly.seen, orderly.promised⟩

theorem orderly_clear (orderly : s.Orderly lifetime) :
    Orderly lifetime { s with cache := s.cache.clear } :=
  ⟨orderly.constant, orderly.slots, orderly.apart, orderly.numbered, orderly.accounted,
    orderly.once, orderly.ended, fun _ member => absurd member List.not_mem_nil, orderly.own,
    orderly.seen, orderly.promised⟩

/-- A call that starts no request only adds itself. -/
theorem orderly_call_quiet (orderly : s.Orderly lifetime) {cache : FetchCache} {c : Call}
    (same : cache.lifetime = s.cache.lifetime ∧ cache.flights = s.cache.flights ∧
      cache.stats.misses = s.cache.stats.misses)
    (kept : ∀ e ∈ cache.entries, e ∈ s.cache.entries) (quiet : c.ticket.launched = none)
    (seen : c.landed = s.landings.length) (promised : s.Promised lifetime c) :
    Orderly lifetime { s with cache := cache, calls := s.calls ++ [c] } where
  constant := same.1.trans orderly.constant
  slots := same.2.1.trans orderly.slots
  apart := orderly.apart
  numbered := by rw [same.2.2, orderly.numbered]
  accounted := orderly.accounted
  once := orderly.once
  ended := orderly.ended
  kept := fun e member => orderly.kept e (kept e member)
  own := by simp [List.filterMap_append, quiet, orderly.own]
  seen := fun d member => by
    rcases List.mem_append.1 member with old | new
    · exact orderly.seen d old
    · rw [List.mem_singleton.1 new, seen]
  promised := fun d member => by
    rcases List.mem_append.1 member with old | new
    · exact orderly.promised d old
    · exact List.mem_singleton.1 new ▸ promised

/-- A request that is started gets the next number; there is no other for its key. -/
theorem orderly_call_launch (orderly : s.Orderly lifetime) {key : FetchKey}
    (free : s.cache.flight? key = none) {cache : FetchCache} {c : Call}
    (unchanged : cache.lifetime = s.cache.lifetime)
    (slots : cache.flights = s.cache.flights ++ [⟨key, s.cache.stats.misses⟩])
    (misses : cache.stats.misses = s.cache.stats.misses + 1)
    (kept : ∀ e ∈ cache.entries, e ∈ s.cache.entries)
    (asks : c.key = key) (starts : c.ticket = .started s.cache.stats.misses)
    (seen : c.landed = s.landings.length) :
    Orderly lifetime
      { s with
        cache := cache
        running := s.running ++ [⟨key, s.cache.stats.misses⟩]
        started := s.started ++ [⟨key, s.cache.stats.misses⟩]
        calls := s.calls ++ [c] } where
  constant := unchanged.trans orderly.constant
  slots := by rw [slots, orderly.slots]
  apart := by
    have none := FetchCache.flight?_eq_none.1 free
    rw [orderly.slots] at none
    rw [List.map_append, List.nodup_append]
    refine ⟨orderly.apart, List.nodup_singleton _, fun k old other new => ?_⟩
    obtain ⟨f, runs, rfl⟩ := List.mem_map.1 old
    rw [List.mem_singleton.1 new]
    exact none f runs
  numbered := by rw [List.map_append, orderly.numbered, misses, List.range_succ]; rfl
  accounted := fun f => by
    rw [List.mem_append, List.mem_append, orderly.accounted f, or_right_comm]
  once := orderly.once
  ended := fun l landed f runs => by
    rcases List.mem_append.1 runs with old | new
    · exact orderly.ended l landed f old
    · rw [List.mem_singleton.1 new]
      exact Nat.ne_of_lt (orderly.number_lt (orderly.started_of_landed landed))
  kept := fun e member => orderly.kept e (kept e member)
  own := by
    rw [List.filterMap_append, List.map_append, orderly.own, List.filterMap_cons, starts]
    rfl
  seen := fun d member => by
    rcases List.mem_append.1 member with old | new
    · exact orderly.seen d old
    · rw [List.mem_singleton.1 new, seen]
  promised := fun d member => by
    rcases List.mem_append.1 member with old | new
    · exact (orderly.promised d old).later (orderly.seen d old) []
        (List.append_nil _).symm (fun f => List.mem_append_left _)
    · rw [List.mem_singleton.1 new]
      simp only [Promised, starts, asks]
      refine ⟨List.mem_append_right _ (List.mem_singleton_self _), fun l landed => ?_⟩
      exact Nat.ne_of_lt (orderly.number_lt (orderly.started_of_landed (List.mem_of_mem_take landed)))

theorem orderly_call (orderly : s.Orderly lifetime) (key : FetchKey) :
    (s.call key).Orderly lifetime := by
  have asked := FetchCache.asked_ask s.cache s.now key
  unfold call
  generalize s.cache.ask s.now key = answer at asked
  cases asked with
  | @ready e kept live =>
    obtain ⟨member, same⟩ := FetchCache.mem_of_entry? kept
    simp only [launch, Ticket.launched, Option.map_none, Option.toList_none, List.append_nil]
    refine orderly_call_quiet orderly ⟨rfl, rfl, rfl⟩ (fun _ => id) rfl rfl ?_
    obtain ⟨l, landed, from_⟩ := orderly.kept e member
    refine ⟨e, member, same, rfl, orderly.constant ▸ live, l, ?_, from_⟩
    simpa only [before, List.take_length] using landed
  | @joined f running =>
    obtain ⟨member, same⟩ := FetchCache.mem_of_flight? running
    rw [orderly.slots] at member
    simp only [launch, Ticket.launched, Option.map_none, Option.toList_none, List.append_nil]
    refine orderly_call_quiet orderly ⟨rfl, rfl, rfl⟩ (fun _ => List.mem_of_mem_filter) rfl rfl ?_
    refine ⟨?_, fun l landed => orderly.ended l (List.mem_of_mem_take landed) f member⟩
    exact same ▸ orderly.started_of_running member
  | started free =>
    exact orderly_call_launch orderly free rfl rfl rfl (fun _ => List.mem_of_mem_filter) rfl rfl rfl

/-- A request that comes back leaves the running ones, and with it its key does. -/
theorem orderly_land (orderly : s.Orderly lifetime) {f : Flight} (runs : f ∈ s.running)
    (result : FetchResult) : (s.land f result).Orderly lifetime where
  constant := (FetchCache.complete_frame result).1.trans orderly.constant
  slots := by
    simp only [land, (FetchCache.complete_frame result).2.1, orderly.slots]
    refine List.filter_congr (fun g other => ?_)
    have one : g.key = f.key ↔ g.number = f.number :=
      ⟨fun same => congrArg Flight.number (Keyed.eq_of_key orderly.apart other runs same),
        fun same => congrArg Flight.key (orderly.eq_of_number (orderly.started_of_running other)
          (orderly.started_of_running runs) same)⟩
    simp only [ne_eq, one]
  apart := Keyed.distinct_filter orderly.apart _
  numbered := by
    simp only [land, (FetchCache.complete_frame result).2.2]
    exact orderly.numbered
  accounted := fun g => by
    simp only [land, orderly.accounted g, List.mem_filter, List.mem_append, List.mem_singleton,
      decide_eq_true_eq]
    constructor
    · rintro (other | ⟨l, landed, same⟩)
      · by_cases this : g.number = f.number
        · have same := orderly.eq_of_number (orderly.started_of_running other)
            (orderly.started_of_running runs) this
          exact .inr ⟨_, .inr rfl, same.symm⟩
        · exact .inl ⟨other, this⟩
      · exact .inr ⟨l, .inl landed, same⟩
    · rintro (⟨other, _⟩ | ⟨l, landed | new, same⟩)
      · exact .inl other
      · exact .inr ⟨l, landed, same⟩
      · rw [new] at same
        exact .inl (same ▸ runs)
  once := by
    simp only [land, List.map_append, List.map_cons, List.map_nil, List.nodup_append]
    refine ⟨orderly.once, List.nodup_singleton _, fun n old m new => ?_⟩
    obtain ⟨l, landed, rfl⟩ := List.mem_map.1 old
    rw [List.mem_singleton.1 new]
    exact orderly.ended l landed f runs
  ended := fun l landed g other => by
    obtain ⟨other, apart⟩ := List.mem_filter.1 other
    rcases List.mem_append.1 landed with old | new
    · exact orderly.ended l old g other
    · rw [List.mem_singleton.1 new]
      exact fun same => of_decide_eq_true apart same.symm
  kept := fun e member => by
    rcases FetchCache.mem_complete_entries member with old | ⟨response, succeeded, rfl⟩
    · obtain ⟨l, landed, this⟩ := orderly.kept e old
      exact ⟨l, List.mem_append_left _ landed, this⟩
    · exact ⟨_, List.mem_append_right _ (List.mem_singleton_self _), rfl, succeeded, rfl⟩
  own := orderly.own
  seen := fun c member => by
    have bound := orderly.seen c member
    simp only [land, List.length_append]
    omega
  promised := fun c member =>
    (orderly.promised c member).later (orderly.seen c member) _ rfl (fun _ => id)

theorem Reachable.orderly (reachable : Reachable lifetime capacity s) : s.Orderly lifetime := by
  induction reachable with
  | empty => exact orderly_empty
  | step _ next ih =>
    cases next with
    | wait time => exact orderly_wait ih time
    | call key => exact orderly_call ih key
    | land runs result => exact orderly_land ih runs result
    | clear => exact orderly_clear ih

/-- What a caller gets: an answer that was kept for its key when it called, brought by a request
that had come back before, or the result of the request that it started or joined, which had not
come back before. -/
def Served (lifetime : Nat) (s : Traffic) (c : Call) : Prop :=
  match c.ticket with
  | .ready response => s.received? c = some (.ok response) ∧
      ∃ e ∈ c.kept, e.key = c.key ∧ e.response = response ∧ c.time - e.storedAt < lifetime ∧
        ∃ l ∈ s.before c, l.flight.key = e.key ∧ l.result = .ok response ∧ l.time = e.storedAt
  | .joined number | .started number =>
    ⟨c.key, number⟩ ∈ s.started ∧ (∀ l ∈ s.before c, l.flight ≠ ⟨c.key, number⟩) ∧
      (s.received? c = none ↔ ⟨c.key, number⟩ ∈ s.running) ∧
      ∀ result, s.received? c = some result ↔
        ∃ l ∈ s.landings, l.flight = ⟨c.key, number⟩ ∧ l.result = result

/-- What has come back under the number of a request is what that request came to. -/
theorem Orderly.result_iff (orderly : s.Orderly lifetime) {f : Flight} (member : f ∈ s.started)
    (result : FetchResult) :
    (s.landings.find? (fun l => l.flight.number = f.number)).map Landing.result = some result ↔
      ∃ l ∈ s.landings, l.flight = f ∧ l.result = result := by
  rw [Option.map_eq_some_iff]
  constructor
  · rintro ⟨l, found, same⟩
    have landed := List.mem_of_find?_eq_some found
    have number : l.flight.number = f.number := by simpa using List.find?_some found
    exact ⟨l, landed, orderly.eq_of_number (orderly.started_of_landed landed) member number, same⟩
  · rintro ⟨l, landed, rfl, same⟩
    refine ⟨l, Keyed.find?_eq_some orderly.once landed (fun _ _ => ?_), same⟩
    exact decide_eq_true_iff

theorem Orderly.unanswered_iff (orderly : s.Orderly lifetime) {f : Flight} (member : f ∈ s.started) :
    (s.landings.find? (fun l => l.flight.number = f.number)).map Landing.result = none ↔
      f ∈ s.running := by
  rw [Option.map_eq_none_iff, List.find?_eq_none]
  constructor
  · intro none
    rcases (orderly.accounted f).1 member with runs | ⟨l, landed, rfl⟩
    · exact runs
    · exact absurd (decide_eq_true rfl) (none l landed)
  · intro runs l landed same
    exact orderly.ended l landed f runs (of_decide_eq_true same)

theorem Orderly.served_of_waiting (orderly : s.Orderly lifetime) {c : Call} {number : Nat}
    (waits : c.ticket = .joined number ∨ c.ticket = .started number)
    (promised : ⟨c.key, number⟩ ∈ s.started ∧ ∀ l ∈ s.before c, l.flight.number ≠ number) :
    s.Served lifetime c := by
  have received : s.received? c =
      (s.landings.find? (fun l => l.flight.number = number)).map Landing.result := by
    rcases waits with joined | started
    · simp only [received?, joined]
    · simp only [received?, started]
  have all : ⟨c.key, number⟩ ∈ s.started ∧ (∀ l ∈ s.before c, l.flight ≠ ⟨c.key, number⟩) ∧
      (s.received? c = none ↔ ⟨c.key, number⟩ ∈ s.running) ∧
      ∀ result, s.received? c = some result ↔
        ∃ l ∈ s.landings, l.flight = ⟨c.key, number⟩ ∧ l.result = result := by
    rw [received]
    exact ⟨promised.1, fun l earlier same => promised.2 l earlier (congrArg Flight.number same),
      orderly.unanswered_iff promised.1, orderly.result_iff promised.1⟩
  rcases waits with joined | started
  · simpa only [Served, joined] using all
  · simpa only [Served, started] using all

theorem Orderly.served (orderly : s.Orderly lifetime) {c : Call} (member : c ∈ s.calls) :
    s.Served lifetime c := by
  have promised := orderly.promised c member
  cases ticket : c.ticket with
  | ready response =>
    simp only [Promised, ticket] at promised
    simp only [Served, ticket, received?]
    exact ⟨trivial, promised⟩
  | joined number =>
    simp only [Promised, ticket] at promised
    exact orderly.served_of_waiting (.inl ticket) promised
  | started number =>
    simp only [Promised, ticket] at promised
    exact orderly.served_of_waiting (.inr ticket) promised

/-- No key has two running requests, the cache holds a place for a key just while its request runs,
each request was started by one call that missed, and each caller is served. -/
theorem single_flight (reachable : Reachable lifetime capacity s) :
    (s.running.map Flight.key).Nodup ∧
    (∀ key, (s.cache.flight? key).isSome = true ↔ ∃ f ∈ s.running, f.key = key) ∧
    s.started.length = s.cache.stats.misses ∧
    (s.started.map Flight.number).Nodup ∧
    s.calls.filterMap (fun c => c.ticket.launched) = s.started.map Flight.number ∧
    ∀ c ∈ s.calls, s.Served lifetime c := by
  have orderly := reachable.orderly
  refine ⟨orderly.apart, fun key => ?_, ?_, orderly.numbered ▸ List.nodup_range, orderly.own,
    fun c member => orderly.served member⟩
  · simp [FetchCache.flight?, orderly.slots]
  · have counted := congrArg List.length orderly.numbered
    rwa [List.length_map, List.length_range] at counted

/-- Two calls that share a request, and a third that comes after it. -/
def shared (key : FetchKey) : Traffic :=
  ((((empty 10 4).call key).call key).land ⟨key, 0⟩ (.ok ⟨[], []⟩)).call key

theorem reachable_shared (key : FetchKey) : Reachable 10 4 (shared key) := by
  have joined : Reachable 10 4 (((empty 10 4).call key).call key) :=
    .step (.step .empty (.call _ key)) (.call _ key)
  have runs : ⟨key, 0⟩ ∈ (((empty 10 4).call key).call key).running := by
    simp [call, empty, FetchCache.ask, FetchCache.empty, FetchCache.live?, FetchCache.entry?,
      FetchCache.flight?, launch, Ticket.launched]
  exact .step (.step joined (.land _ runs _)) (.call _ key)

theorem single_flight_shared :
    (shared ⟨"sensor", "file", "*", none, none⟩).calls.map (fun c => c.ticket.origin) =
        [.fetched, .shared, .cached] ∧
      ∀ c ∈ (shared ⟨"sensor", "file", "*", none, none⟩).calls,
        (shared ⟨"sensor", "file", "*", none, none⟩).Served 10 c :=
  ⟨rfl, (single_flight (reachable_shared _)).2.2.2.2.2⟩

end ThreatHunt.Traffic
