import Mathlib.Data.List.Nodup
import ThreatHunt.Fetch.Cache
import ThreatHunt.Fetch.Exchange

/-!
Traffic before the cache. Callers call, requests run on their own and come back in any order, time
passes, and the cache may be cleared; what has happened is kept beside the cache.
-/

namespace ThreatHunt

namespace FetchCache

variable {c : FetchCache} {now : Nat} {key : FetchKey}

/-- What a call comes to: a kept answer, a running request or one that it starts. -/
inductive Asked (c : FetchCache) (now : Nat) (key : FetchKey) : FetchCache × Ticket → Prop where
  | ready {e : CacheEntry} (kept : c.entry? key = some e) (live : now - e.storedAt < c.lifetime) :
      Asked c now key
        ({ c with stats := { c.stats with hits := c.stats.hits + 1 } }, .ready e.response)
  | joined {f : Flight} (running : c.flight? key = some f) :
      Asked c now key
        ({ c with
            entries := c.entriesWithout key
            stats := { c.stats with shared := c.stats.shared + 1 } }, .joined f.number)
  | started (free : c.flight? key = none) :
      Asked c now key
        ({ c with
            entries := c.entriesWithout key
            flights := c.flights ++ [⟨key, c.stats.misses⟩]
            stats := { c.stats with misses := c.stats.misses + 1 } }, .started c.stats.misses)

theorem live?_eq_some {response : Response} (live : c.live? now key = some response) :
    ∃ e, c.entry? key = some e ∧ now - e.storedAt < c.lifetime ∧ e.response = response := by
  unfold live? at live
  split at live
  · rename_i e kept
    split at live
    · rename_i young
      exact ⟨e, kept, of_decide_eq_true young, Option.some.inj live⟩
    · nomatch live
  · nomatch live

theorem asked_ask (c : FetchCache) (now : Nat) (key : FetchKey) :
    Asked c now key (c.ask now key) := by
  unfold ask
  split
  · rename_i response live
    obtain ⟨e, kept, young, rfl⟩ := live?_eq_some live
    exact .ready kept young
  · dsimp only
    split
    · rename_i f running
      exact .joined running
    · rename_i free
      exact .started free

theorem mem_of_entry? {e : CacheEntry} (kept : c.entry? key = some e) :
    e ∈ c.entries ∧ e.key = key := by
  unfold entry? at kept
  exact ⟨List.mem_of_find?_eq_some kept, by simpa using List.find?_some kept⟩

theorem mem_of_flight? {f : Flight} (running : c.flight? key = some f) :
    f ∈ c.flights ∧ f.key = key := by
  unfold flight? at running
  exact ⟨List.mem_of_find?_eq_some running, by simpa using List.find?_some running⟩

theorem flight?_eq_none : c.flight? key = none ↔ ∀ f ∈ c.flights, f.key ≠ key := by
  simp [flight?, List.find?_eq_none]

/-- A request that comes back frees its place and starts no other. -/
theorem complete_frame (result : FetchResult) :
    (c.complete now key result).lifetime = c.lifetime ∧
    (c.complete now key result).flights = c.flights.filter (fun f => f.key ≠ key) ∧
    (c.complete now key result).stats.misses = c.stats.misses := by
  cases result with
  | error issue => exact ⟨rfl, rfl, rfl⟩
  | ok response =>
    simp only [complete, store]
    split <;> exact ⟨rfl, rfl, rfl⟩

/-- A request that comes back leaves no answers but old ones and its own. -/
theorem mem_complete_entries {result : FetchResult} {e : CacheEntry}
    (kept : e ∈ (c.complete now key result).entries) :
    e ∈ c.entries ∨ ∃ response, result = .ok response ∧ e = ⟨key, response, now⟩ := by
  cases result with
  | error issue => exact .inl kept
  | ok response =>
    simp only [complete, store] at kept
    split at kept
    · exact .inl kept
    · rcases List.mem_append.1 (List.mem_of_mem_drop kept) with old | new
      · exact .inl (List.mem_of_mem_filter old)
      · exact .inr ⟨response, rfl, List.mem_singleton.1 new⟩

end FetchCache

/-- A request that came back: what it came to, and when. -/
structure Landing where
  flight : Flight
  result : FetchResult
  time : Nat

/-- A call: its key, when it was made, what it was given at once, and what it found: the kept answers
and how many requests had come back. -/
structure Call where
  key : FetchKey
  time : Nat
  ticket : Ticket
  kept : List CacheEntry
  landed : Nat

/-- The cache at a time, the requests that run, and what has happened: the requests that were
started, those that came back and the calls, each in order. -/
structure Traffic where
  cache : FetchCache
  now : Nat
  running : List Flight
  started : List Flight
  landings : List Landing
  calls : List Call

/-- The number of the request that a call with some ticket started. -/
def Ticket.launched : Ticket → Option Nat
  | .started number => some number
  | _ => none

namespace Traffic

def empty (lifetime capacity : Nat) : Traffic :=
  ⟨FetchCache.empty lifetime capacity, 0, [], [], [], []⟩

/-- Requests that are started by a ticket run from then on. -/
def launch (key : FetchKey) (ticket : Ticket) : List Flight :=
  (ticket.launched.map (fun number => ⟨key, number⟩)).toList

def call (s : Traffic) (key : FetchKey) : Traffic :=
  let (cache, ticket) := s.cache.ask s.now key
  { s with
    cache := cache
    running := s.running ++ launch key ticket
    started := s.started ++ launch key ticket
    calls := s.calls ++ [⟨key, s.now, ticket, s.cache.entries, s.landings.length⟩] }

def land (s : Traffic) (f : Flight) (result : FetchResult) : Traffic :=
  { s with
    cache := s.cache.complete s.now f.key result
    running := s.running.filter (fun g => g.number ≠ f.number)
    landings := s.landings ++ [⟨f, result, s.now⟩] }

/-- What may happen next. -/
inductive Step : Traffic → Traffic → Prop where
  | wait (s : Traffic) (time : Nat) : Step s { s with now := s.now + time }
  | call (s : Traffic) (key : FetchKey) : Step s (s.call key)
  | land (s : Traffic) {f : Flight} (runs : f ∈ s.running) (result : FetchResult) :
      Step s (s.land f result)
  | clear (s : Traffic) : Step s { s with cache := s.cache.clear }

/-- What can come about from an empty cache. -/
inductive Reachable (lifetime capacity : Nat) : Traffic → Prop where
  | empty : Reachable lifetime capacity (empty lifetime capacity)
  | step {s t : Traffic} (reached : Reachable lifetime capacity s) (next : Step s t) :
      Reachable lifetime capacity t

/-- What a caller has received: the answer that was kept, or the result of the request that it waits
for once this has come back. -/
def received? (s : Traffic) (c : Call) : Option FetchResult :=
  match c.ticket with
  | .ready response => some (.ok response)
  | .joined number | .started number =>
    (s.landings.find? (fun l => l.flight.number = number)).map Landing.result

end Traffic
end ThreatHunt

/-!
Replies of connectors that answer a query alike each time. As long as nothing else is kept for the
query and no request for it runs, it makes no difference whether an answer is kept, shared or
fetched.
-/

namespace ThreatHunt

/-- What a connector that is asked first answers. -/
def Connector.answerTo (c : Connector) (q : EntityQuery) : Response :=
  match c.client.answer 0 q with
  | .given response => response
  | _ => ⟨[], []⟩

/-- Whether a connector gives one answer to a query, whatever was asked before. -/
def Connector.Steady (c : Connector) (q : EntityQuery) : Prop :=
  ∀ count, c.client.answer count q = .given (c.answerTo q)

/-- Whether connectors that go by one name are one. -/
def Connector.Apart (connectors : List Connector) : Prop :=
  ∀ c ∈ connectors, ∀ d ∈ connectors, c.name = d.name → c = d

namespace Exchange

variable {now patience : Nat} {q : EntityQuery} {connectors : List Connector} {cache : FetchCache}
  {results : List (Nat × FetchResult)}

/-- Whether a cache holds nothing for a query but the own answers of connectors. -/
structure Current (cache : FetchCache) (q : EntityQuery) (connectors : List Connector) : Prop where
  idle : ∀ c ∈ connectors, ∀ f ∈ cache.flights, f.key ≠ FetchKey.ofQuery c.name q
  kept : ∀ c ∈ connectors, ∀ e ∈ cache.entries, e.key = FetchKey.ofQuery c.name q →
    e.response = c.answerTo q

theorem current_empty (lifetime capacity : Nat) (q : EntityQuery) (connectors : List Connector) :
    Current (FetchCache.empty lifetime capacity) q connectors where
  idle := fun _ _ _ runs => absurd runs List.not_mem_nil
  kept := fun _ _ _ there => absurd there List.not_mem_nil

/-- Whether the requests of a cache come to the own answers of connectors. -/
structure Leads (cache : FetchCache) (q : EntityQuery) (connectors : List Connector)
    (results : List (Nat × FetchResult)) : Prop where
  running : ∀ c ∈ connectors, ∀ f ∈ cache.flights, f.key = FetchKey.ofQuery c.name q →
    results.lookup f.number = some (.ok (c.answerTo q))
  kept : ∀ c ∈ connectors, ∀ e ∈ cache.entries, e.key = FetchKey.ofQuery c.name q →
    e.response = c.answerTo q

theorem Current.leads (current : Current cache q connectors) : Leads cache q connectors results where
  running := fun c member f runs same => absurd same (current.idle c member f runs)
  kept := current.kept

/-- A call leads to the own answer of its connector if the request does that it may start. -/
theorem Leads.ask (leads : Leads cache q connectors results) (apart : Connector.Apart connectors)
    {c : Connector} (member : c ∈ connectors)
    (starts : ∀ number, (cache.ask now (.ofQuery c.name q)).2 = .started number →
      results.lookup number = some (.ok (c.answerTo q))) :
    Leads (cache.ask now (.ofQuery c.name q)).1 q connectors results ∧
      resultOf patience results (cache.ask now (.ofQuery c.name q)).2 = .ok (c.answerTo q) := by
  have asked := cache.asked_ask now (.ofQuery c.name q)
  generalize cache.ask now (.ofQuery c.name q) = after at asked starts ⊢
  have fewer : ∀ d ∈ connectors, ∀ e ∈ cache.entriesWithout (.ofQuery c.name q),
      e.key = FetchKey.ofQuery d.name q → e.response = d.answerTo q :=
    fun d other e there => leads.kept d other e (List.mem_of_mem_filter there)
  cases asked with
  | ready found live =>
    obtain ⟨there, key⟩ := FetchCache.mem_of_entry? found
    exact ⟨⟨leads.running, leads.kept⟩, congrArg Except.ok (leads.kept c member _ there key)⟩
  | joined found =>
    obtain ⟨there, key⟩ := FetchCache.mem_of_flight? found
    refine ⟨⟨leads.running, fewer⟩, ?_⟩
    rw [resultOf, leads.running c member _ there key]
    rfl
  | started free =>
    refine ⟨⟨fun d other f runs key => ?_, fewer⟩, ?_⟩
    · rcases List.mem_append.1 runs with old | new
      · exact leads.running d other f old key
      · -- Only the connector itself has the key of its request.
        rw [List.mem_singleton.1 new] at key ⊢
        obtain rfl := apart c member d other (congrArg FetchKey.connector key)
        exact starts _ rfl
    · rw [resultOf, starts _ rfl]
      rfl

theorem calls_cons (cache : FetchCache) (c : Connector) (rest : List Connector) :
    calls now q cache (c :: rest) =
      ((calls now q (cache.ask now (.ofQuery c.name q)).1 rest).1,
        (c, (cache.ask now (.ofQuery c.name q)).2) ::
          (calls now q (cache.ask now (.ofQuery c.name q)).1 rest).2) :=
  rfl

theorem fst_calls (cache : FetchCache) (called : List Connector) :
    (calls now q cache called).2.map Prod.fst = called := by
  induction called generalizing cache with
  | nil => rfl
  | cons c rest ih => rw [calls_cons, List.map_cons, ih]

theorem launched_calls (now : Nat) (q : EntityQuery) (cache : FetchCache)
    (called : List Connector) :
    ∃ count, (calls now q cache called).2.filterMap (fun t => t.2.launched) =
      List.range' cache.stats.misses count := by
  induction called generalizing cache with
  | nil => exact ⟨0, rfl⟩
  | cons c rest ih =>
    rw [calls_cons]
    have asked := cache.asked_ask now (.ofQuery c.name q)
    generalize cache.ask now (.ofQuery c.name q) = after at asked ⊢
    obtain ⟨count, later⟩ := ih after.1
    cases asked with
    | ready found live => exact ⟨count, later⟩
    | joined found => exact ⟨count, later⟩
    | started free =>
      refine ⟨count + 1, ?_⟩
      rw [List.range'_succ, ← later]
      rfl

theorem Leads.calls (leads : Leads cache q connectors results)
    (apart : Connector.Apart connectors) {called : List Connector}
    (among : ∀ c ∈ called, c ∈ connectors)
    (starts : ∀ t ∈ (calls now q cache called).2, ∀ number, t.2 = .started number →
      results.lookup number = some (.ok (t.1.answerTo q))) :
    (Exchange.calls now q cache called).2.map
        (fun t => resultOf (t.1.patience patience) results t.2) =
      called.map (fun c => .ok (c.answerTo q)) := by
  induction called generalizing cache with
  | nil => rfl
  | cons c rest ih =>
    rw [calls_cons] at starts ⊢
    obtain ⟨here, others⟩ := List.forall_mem_cons.1 among
    obtain ⟨first, later⟩ := List.forall_mem_cons.1 starts
    obtain ⟨next, own⟩ := leads.ask apart here first
    rw [List.map_cons, List.map_cons, own, ih next others later]

theorem settle_of_steady (x : Exchange) {tickets : List (Connector × Ticket)}
    (steady : ∀ t ∈ tickets, t.1.Steady q) :
    (settle now patience q x tickets).2 = tickets.filterMap
      (fun t => t.2.launched.map (fun number => (number, .ok (t.1.answerTo q)))) := by
  induction tickets generalizing x with
  | nil => rfl
  | cons t rest ih =>
    obtain ⟨here, others⟩ := List.forall_mem_cons.1 steady
    obtain ⟨c, ticket⟩ := t
    cases ticket with
    | ready response => exact ih x others
    | joined number => exact ih x others
    | started number =>
      have answered : (c.client.answer x.count q).within (c.patience patience) =
          .ok (c.answerTo q) := by
        rw [here]
        rfl
      simp only [settle, answered, ih _ others]
      rfl

theorem lookup_of_mem {number : Nat} {result : FetchResult}
    (distinct : (results.map Prod.fst).Nodup) (member : (number, result) ∈ results) :
    results.lookup number = some result := by
  obtain ⟨before, after, rfl⟩ := List.append_of_mem member
  refine List.lookup_eq_some_iff.2 ⟨before, after, rfl, fun other earlier => ?_⟩
  rw [List.map_append, List.nodup_append] at distinct
  have differ := distinct.2.2 _ (List.mem_map_of_mem earlier) number (List.mem_cons_self ..)
  exact bne_iff_ne.2 differ.symm

/-- The results of connectors that are steady, and for which nothing else is kept, are their own
answers. -/
theorem ask_of_steady {x : Exchange} (apart : Connector.Apart connectors)
    (steady : ∀ c ∈ connectors, c.Steady q) (current : Current x.cache q connectors) :
    (x.ask now patience q connectors).2.map Reply.result =
      connectors.map (fun c => .ok (c.answerTo q)) := by
  have asked : ∀ t ∈ (calls now q x.cache connectors).2, t.1.Steady q := fun t member =>
    steady _ (fst_calls x.cache connectors ▸ List.mem_map_of_mem member)
  have shape : (x.ask now patience q connectors).2.map Reply.result =
      (calls now q x.cache connectors).2.map (fun t => resultOf (t.1.patience patience)
        (settle now patience q { x with cache := (calls now q x.cache connectors).1 }
          (calls now q x.cache connectors).2).2 t.2) := by
    simp only [ask, List.map_map]
    rfl
  rw [shape, settle_of_steady _ asked]
  have distinct : (((calls now q x.cache connectors).2.filterMap (fun t => t.2.launched.map
      (fun number => (number, (Except.ok (t.1.answerTo q) : FetchResult))))).map Prod.fst).Nodup := by
    obtain ⟨count, numbers⟩ := launched_calls now q x.cache connectors
    have same : ∀ t : Connector × Ticket, (t.2.launched.map (fun number =>
        (number, (Except.ok (t.1.answerTo q) : FetchResult)))).map Prod.fst = t.2.launched := by
      intro t
      cases t.2.launched <;> rfl
    rw [List.map_filterMap, List.filterMap_congr (fun t _ => same t), numbers]
    exact List.nodup_range' 1
  refine Leads.calls current.leads apart (fun _ member => member)
    (fun t member number started => lookup_of_mem distinct ?_)
  refine List.mem_filterMap.2 ⟨t, member, ?_⟩
  rw [started]
  rfl

end Exchange
end ThreatHunt
