import ThreatHunt.Proofs.Fetch.Contents

/-!
A fetch among other traffic. It makes its calls in order; requests come back and others call between
them and after them. As long as no answer is evicted and none that others ask for is too old, each
answer that the fetch receives is kept afterwards.
-/

namespace ThreatHunt

namespace FetchCache

variable {c : FetchCache} {now : Nat} {key : FetchKey}

theorem evictions_complete (c : FetchCache) (now : Nat) (key : FetchKey) (result : FetchResult) :
    c.stats.evictions ≤ (c.complete now key result).stats.evictions := by
  cases result with
  | error issue => exact Nat.le_refl _
  | ok response =>
    simp only [complete, store]
    split
    · exact Nat.le_refl _
    · exact Nat.le_add_right _ _

/-- An answer that makes nothing go is stored behind the entries of all other keys. -/
theorem entries_complete_of_unevicted (room : 0 < c.capacity) {response : Response}
    (unevicted : (c.complete now key (.ok response)).stats.evictions = c.stats.evictions) :
    (c.complete now key (.ok response)).entries =
      c.entriesWithout key ++ [⟨key, response, now⟩] := by
  have some : c.capacity ≠ 0 := Nat.ne_of_gt room
  have free : (c.entriesWithout key ++ [(⟨key, response, now⟩ : CacheEntry)]).length -
      c.capacity = 0 := by
    simp only [complete, store, if_neg some] at unevicted
    simpa [entriesWithout] using unevicted
  simp only [complete, store, if_neg some]
  rw [show ({ c with flights := c.flights.filter (fun f => f.key ≠ key) } : FetchCache
    ).entriesWithout key = c.entriesWithout key from rfl, free, List.drop_zero]

theorem evictions_ask (c : FetchCache) (now : Nat) (key : FetchKey) :
    (c.ask now key).1.stats.evictions = c.stats.evictions := by
  have asked := c.asked_ask now key
  generalize c.ask now key = after at asked ⊢
  cases asked <;> rfl

end FetchCache

namespace Traffic

variable {lifetime capacity : Nat} {s t u : Traffic} {calls : List Call} {c : Call}

/-- What `call` adds to the calls. -/
def made (s : Traffic) (key : FetchKey) : Call :=
  ⟨key, s.now, (s.cache.ask s.now key).2, s.cache.entries, s.landings.length⟩

/-- What may happen while a fetch makes its calls in order and waits for what they receive. -/
inductive Fetching : Traffic → List Call → Traffic → Prop where
  | done (s : Traffic) : Fetching s [] s
  | wait {s t : Traffic} {calls : List Call} (time : Nat)
      (rest : Fetching { s with now := s.now + time } calls t) : Fetching s calls t
  | land {s t : Traffic} {calls : List Call} {f : Flight} (runs : f ∈ s.running)
      (result : FetchResult) (rest : Fetching (s.land f result) calls t) : Fetching s calls t
  | call {s t : Traffic} {key : FetchKey} {calls : List Call}
      (rest : Fetching (s.call key) calls t) : Fetching s (s.made key :: calls) t
  /-- Another fetch calls; it finds no answer that is too old. -/
  | other {s t : Traffic} {key : FetchKey} {calls : List Call}
      (young : ∀ e ∈ s.cache.entries, e.key = key → s.cache.isLive s.now e = true)
      (rest : Fetching (s.call key) calls t) : Fetching s calls t

theorem Fetching.trans {more : List Call} (first : Fetching s calls u)
    (second : Fetching u more t) : Fetching s (calls ++ more) t := by
  induction first with
  | done => exact second
  | wait time _ ih => exact .wait time (ih second)
  | land runs result _ ih => exact .land runs result (ih second)
  | call _ ih => exact .call (ih second)
  | other young _ ih => exact .other young (ih second)

theorem Fetching.reachable (run : Fetching s calls t) (reached : Reachable lifetime capacity s) :
    Reachable lifetime capacity t := by
  induction run with
  | done => exact reached
  | wait time _ ih => exact ih (.step reached (.wait _ time))
  | land runs result _ ih => exact ih (.step reached (.land _ runs result))
  | call _ ih => exact ih (.step reached (.call _ _))
  | other _ _ ih => exact ih (.step reached (.call _ _))

theorem Fetching.landed (run : Fetching s calls t) {l : Landing} (landed : l ∈ s.landings) :
    l ∈ t.landings := by
  induction run with
  | done => exact landed
  | wait _ _ ih => exact ih landed
  | land _ _ _ ih => exact ih (List.mem_append_left _ landed)
  | call _ ih => exact ih landed
  | other _ _ ih => exact ih landed

theorem evictions_call (s : Traffic) (key : FetchKey) :
    (s.call key).cache.stats.evictions = s.cache.stats.evictions :=
  s.cache.evictions_ask s.now key

theorem Fetching.evictions_le (run : Fetching s calls t) :
    s.cache.stats.evictions ≤ t.cache.stats.evictions := by
  induction run with
  | done => exact Nat.le_refl _
  | wait time _ ih => exact ih
  | @land s _ _ f _ result _ ih => exact (s.cache.evictions_complete _ _ _).trans ih
  | @call s _ key _ _ ih => exact (evictions_call s key).symm.le.trans ih
  | @other s _ key _ _ _ ih => exact (evictions_call s key).symm.le.trans ih

/-- No answer is kept for a key whose request runs. -/
theorem Reachable.unanswered (reachable : Reachable lifetime capacity s) :
    ∀ f ∈ s.running, ∀ e ∈ s.cache.entries, e.key ≠ f.key := by
  induction reachable with
  | empty => exact fun _ runs => absurd runs List.not_mem_nil
  | @step s t before next ih =>
    have orderly := before.orderly
    cases next with
    | wait time => exact ih
    | clear => exact fun _ _ _ there => absurd there List.not_mem_nil
    | call key =>
      have asked := s.cache.asked_ask s.now key
      unfold call
      generalize s.cache.ask s.now key = answer at asked
      cases asked with
      | ready kept live =>
        simpa only [launch, Ticket.launched, Option.map_none, Option.toList_none, List.append_nil]
          using ih
      | joined running =>
        simp only [launch, Ticket.launched, Option.map_none, Option.toList_none, List.append_nil]
        intro f runs e there
        exact ih f runs e (List.mem_of_mem_filter there)
      | started free =>
        intro f runs e there
        rcases List.mem_append.1 runs with old | new
        · exact ih f old e (List.mem_of_mem_filter there)
        · rw [List.mem_singleton.1 new]
          exact of_decide_eq_true (List.mem_filter.1 there).2
    | @land f runs result =>
      intro g other e there
      obtain ⟨other, apart⟩ := List.mem_filter.1 other
      rcases FetchCache.mem_complete_entries there with old | ⟨response, _, rfl⟩
      · exact ih g other e old
      · intro same
        have one := Keyed.eq_of_key orderly.apart runs other same
        exact of_decide_eq_true apart (congrArg Flight.number one.symm)

/-- How it stands with what a call is to receive: its request still runs, it failed, or its answer
is kept. -/
inductive Secured (s : Traffic) (c : Call) : Prop where
  | waits {number : Nat} (given : c.ticket = .joined number ∨ c.ticket = .started number)
      (runs : ⟨c.key, number⟩ ∈ s.running)
  | failed {issue : Issue} (brought : s.received? c = some (.error issue))
  | kept {e : CacheEntry} (there : e ∈ s.cache.entries) (same : e.key = c.key)
      (brought : s.received? c = some (.ok e.response))

theorem received?_of_waiting {number : Nat}
    (given : c.ticket = .joined number ∨ c.ticket = .started number) :
    s.received? c =
      (s.landings.find? (fun l => l.flight.number = number)).map Landing.result := by
  rcases given with joined | started
  · simp only [received?, joined]
  · simp only [received?, started]

/-- What a call has received does not change. -/
theorem received?_land {result : FetchResult} (brought : s.received? c = some result) (f : Flight)
    (other : FetchResult) : (s.land f other).received? c = some result := by
  unfold received? at brought ⊢
  generalize c.ticket = ticket at brought ⊢
  cases ticket with
  | ready response => exact brought
  | joined number =>
    obtain ⟨l, found, same⟩ := Option.map_eq_some_iff.1 brought
    simp only [land, List.find?_append, found, Option.some_or, Option.map_some, same]
  | started number =>
    obtain ⟨l, found, same⟩ := Option.map_eq_some_iff.1 brought
    simp only [land, List.find?_append, found, Option.some_or, Option.map_some, same]

/-- A call receives what its request came to. -/
theorem received?_of_landed (orderly : s.Orderly lifetime) {l : Landing} (landed : l ∈ s.landings)
    (given : c.ticket = .joined l.flight.number ∨ c.ticket = .started l.flight.number) :
    s.received? c = some l.result := by
  rw [received?_of_waiting given,
    Keyed.find?_eq_some orderly.once landed (fun _ _ => decide_eq_true_iff), Option.map_some]

theorem secured_wait (secured : s.Secured c) (time : Nat) :
    Secured { s with now := s.now + time } c := by
  cases secured with
  | waits given runs => exact .waits given runs
  | failed brought => exact .failed brought
  | kept there same brought => exact .kept there same brought

theorem secured_call (reachable : Reachable lifetime capacity s) (secured : s.Secured c)
    {key : FetchKey} (young : c.key = key → ∀ e ∈ s.cache.entries, e.key = key →
      s.cache.isLive s.now e = true) : (s.call key).Secured c := by
  cases secured with
  | waits given runs => exact .waits given (List.mem_append_left _ runs)
  | failed brought => exact .failed brought
  | @kept e there same brought =>
    refine .kept ?_ same brought
    by_cases own : e.key = key
    · subst own
      have entries := FetchCache.entries_ask_of_live reachable.kept.distinct there
        (young same.symm e there rfl)
      exact entries.symm ▸ there
    · exact FetchCache.mem_ask_of_ne there own

/-- A call is secured once it is made. -/
theorem secured_made (orderly : s.Orderly lifetime) (key : FetchKey) :
    (s.call key).Secured (s.made key) := by
  have asked := s.cache.asked_ask s.now key
  unfold call made
  generalize s.cache.ask s.now key = answer at asked ⊢
  cases asked with
  | ready kept live =>
    obtain ⟨there, same⟩ := FetchCache.mem_of_entry? kept
    exact .kept there same rfl
  | @joined f running =>
    obtain ⟨there, same⟩ := FetchCache.mem_of_flight? running
    rw [orderly.slots] at there
    refine .waits (.inl rfl) ?_
    simpa only [launch, Ticket.launched, Option.map_none, Option.toList_none, List.append_nil,
      ← same] using there
  | started free => exact .waits (.inr rfl) (List.mem_append_right _ (List.mem_singleton_self _))

theorem secured_land (reachable : Reachable lifetime capacity s) (room : 0 < capacity) {f : Flight}
    (runs : f ∈ s.running) {result : FetchResult}
    (unevicted : (s.land f result).cache.stats.evictions = s.cache.stats.evictions)
    (secured : s.Secured c) : (s.land f result).Secured c := by
  have orderly := reachable.orderly
  have stored : ∀ response, result = .ok response → (s.land f result).cache.entries =
      s.cache.entriesWithout f.key ++ [⟨f.key, response, s.now⟩] := by
    rintro response rfl
    exact FetchCache.entries_complete_of_unevicted (reachable.kept.constant ▸ room) unevicted
  cases secured with
  | @waits number given waiting =>
    by_cases own : f = ⟨c.key, number⟩
    · have given' : c.ticket = .joined f.number ∨ c.ticket = .started f.number := by
        rw [own]
        exact given
      have brought : (s.land f result).received? c = some result :=
        received?_of_landed (orderly_land orderly runs result)
          (List.mem_append_right _ (List.mem_singleton_self _)) given'
      cases result with
      | error issue => exact .failed brought
      | ok response =>
        refine .kept (e := ⟨f.key, response, s.now⟩) ?_ (congrArg Flight.key own) brought
        rw [stored response rfl]
        exact List.mem_append_right _ (List.mem_singleton_self _)
    · refine .waits given (List.mem_filter.2 ⟨waiting, ?_⟩)
      apply decide_eq_true
      intro same
      exact own (orderly.eq_of_number (orderly.started_of_running runs)
        (orderly.started_of_running waiting) same.symm)
  | failed brought => exact .failed (received?_land brought f result)
  | @kept e there same brought =>
    refine .kept ?_ same (received?_land brought f result)
    cases result with
    | error issue => exact there
    | ok response =>
      rw [stored response rfl]
      refine List.mem_append_left _ (List.mem_filter.2 ⟨there, ?_⟩)
      exact decide_eq_true (reachable.unanswered f runs e there)

/-- The calls of a fetch are secured at its end. -/
theorem Fetching.secured (run : Fetching s calls t) (reachable : Reachable lifetime capacity s)
    (room : 0 < capacity) (unevicted : t.cache.stats.evictions = s.cache.stats.evictions)
    {earlier : List Call} (distinct : ((earlier ++ calls).map Call.key).Nodup)
    (before : ∀ c ∈ earlier, s.Secured c) : ∀ c ∈ earlier ++ calls, t.Secured c := by
  -- Along the run the calls made so far stay secured, whatever comes back or is called for.
  induction run generalizing earlier with
  | done s =>
    rw [List.append_nil]
    exact before
  | wait time rest ih =>
    exact ih (.step reachable (.wait _ time)) unevicted distinct
      (fun c member => secured_wait (before c member) time)
  | @land s t calls f runs result rest ih =>
    have here : (s.land f result).cache.stats.evictions = s.cache.stats.evictions :=
      Nat.le_antisymm (unevicted ▸ rest.evictions_le) (s.cache.evictions_complete _ _ _)
    exact ih (.step reachable (.land _ runs result)) (unevicted.trans here.symm) distinct
      (fun c member => secured_land reachable room runs here (before c member))
  | @other s t key calls young rest ih =>
    exact ih (.step reachable (.call _ key)) (unevicted.trans (evictions_call s key).symm) distinct
      (fun c member => secured_call reachable (before c member) (fun _ => young))
  | @call s t key calls rest ih =>
    have apart : ∀ c ∈ earlier, c.key ≠ key := by
      rw [List.map_append, List.nodup_append] at distinct
      exact fun c member =>
        distinct.2.2 _ (List.mem_map_of_mem member) key (List.mem_cons_self ..)
    rw [List.append_cons] at distinct ⊢
    refine ih (.step reachable (.call _ key)) (unevicted.trans (evictions_call s key).symm)
      distinct (fun c member => ?_)
    rcases List.mem_append.1 member with old | new
    · exact secured_call reachable (before c old) (fun same => absurd same (apart c old))
    · rw [List.mem_singleton.1 new]
      exact secured_made reachable.orderly key

/-- The answer that a secured call has received is kept. -/
theorem Secured.kept_of_received (orderly : s.Orderly lifetime) (secured : s.Secured c)
    {response : Response} (received : s.received? c = some (.ok response)) :
    ∃ e ∈ s.cache.entries, e.key = c.key ∧ e.response = response := by
  cases secured with
  | @waits number given runs =>
    rw [received?_of_waiting given] at received
    obtain ⟨l, found, _⟩ := Option.map_eq_some_iff.1 received
    have landed := List.mem_of_find?_eq_some found
    have same : l.flight.number = number := by simpa using List.find?_some found
    exact absurd same (orderly.ended l landed _ runs)
  | failed brought =>
    rw [brought] at received
    nomatch received
  | @kept e there same brought =>
    rw [brought] at received
    exact ⟨e, there, same, Except.ok.inj (Option.some.inj received)⟩

end Traffic
end ThreatHunt
