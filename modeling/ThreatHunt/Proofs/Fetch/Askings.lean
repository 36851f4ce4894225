import ThreatHunt.Proofs.Fetch.Replies

/-!
The requests of an exchange. Each is made to a connector that was called for, and every result is
that of such a request, of an answer that was kept or of a request that was already running. What is
kept afterwards was kept before or is the answer to such a request.
-/

namespace ThreatHunt

/-- A request for entities: the connector that is asked, the number of requests before it, and what
it asks for. -/
structure Asking where
  connector : Connector
  number : Nat
  query : EntityQuery

namespace Asking

def key (a : Asking) : FetchKey := .ofQuery a.connector.name a.query

def answer (a : Asking) : Answer Response := a.connector.client.answer a.number a.query

def result (standard : Nat) (a : Asking) : FetchResult :=
  a.answer.within (a.connector.patience standard)

/-- A request that ends in a response was answered by its client. -/
theorem answer_of_result {standard : Nat} {a : Asking} {response : Response}
    (succeeds : a.result standard = .ok response) : a.answer = .given response := by
  unfold result at succeeds
  cases answered : a.answer with
  | given other =>
    rw [answered] at succeeds
    exact congrArg Answer.given (Except.ok.inj succeeds)
  | failed text =>
    rw [answered] at succeeds
    cases succeeds
  | silent =>
    rw [answered] at succeeds
    cases succeeds

end Asking

namespace Exchange

variable {now patience number : Nat} {q : EntityQuery} {connectors : List Connector} {x : Exchange}
  {tickets : List (Connector × Ticket)} {a : Asking}

/-- The requests that calls started, in order, if there was some number of requests before. -/
def askings (q : EntityQuery) (number : Nat) : List (Connector × Ticket) → List Asking
  | [] => []
  | (c, .started _) :: rest => ⟨c, number, q⟩ :: askings q (number + 1) rest
  | _ :: rest => askings q number rest

/-- The requests that a query of connectors makes. -/
def made (x : Exchange) (now : Nat) (q : EntityQuery) (connectors : List Connector) : List Asking :=
  askings q x.count (calls now q x.cache connectors).2

/-- What a request changes: it is recorded, and its result lands in the cache. -/
def land (now patience : Nat) (x : Exchange) (a : Asking) : Exchange :=
  ({ x with cache := x.cache.complete now a.key (a.result patience) } : Exchange).record
    (.entities a.connector.name)

theorem count_land : (x.land now patience a).count = x.count + 1 := by
  simp only [land, record, count, List.length_append, List.length_singleton]

theorem mem_askings (member : a ∈ askings q number tickets) :
    a.query = q ∧ a.connector ∈ tickets.map Prod.fst := by
  induction tickets generalizing number with
  | nil => exact absurd member List.not_mem_nil
  | cons t rest ih =>
    obtain ⟨c, ticket⟩ := t
    cases ticket with
    | ready response => exact (ih member).imp_right (List.mem_cons_of_mem _)
    | joined flight => exact (ih member).imp_right (List.mem_cons_of_mem _)
    | started flight =>
      rcases List.mem_cons.1 member with rfl | later
      · exact ⟨rfl, List.mem_cons_self ..⟩
      · exact (ih later).imp_right (List.mem_cons_of_mem _)

/-- Each request is for the query, of one of the connectors. -/
theorem mem_made (member : a ∈ x.made now q connectors) :
    a.query = q ∧ a.connector ∈ connectors :=
  fst_calls x.cache connectors ▸ mem_askings member

/-- The request that a call started ends in its result. -/
theorem mem_settle (now patience : Nat) (x : Exchange) {tickets : List (Connector × Ticket)}
    {c : Connector} {flight : Nat} (starts : (c, .started flight) ∈ tickets) :
    ∃ a ∈ askings q x.count tickets, a.key = .ofQuery c.name q ∧
      (flight, a.result patience) ∈ (settle now patience q x tickets).2 := by
  induction tickets generalizing x with
  | nil => exact absurd starts List.not_mem_nil
  | cons t rest ih =>
    rcases List.mem_cons.1 starts with rfl | later
    · exact ⟨_, List.mem_cons_self .., rfl, List.mem_cons_self ..⟩
    · obtain ⟨d, ticket⟩ := t
      cases ticket with
      | ready response => exact ih x later
      | joined other => exact ih x later
      | started other =>
        obtain ⟨a, member, same, ends⟩ := ih (x.land now patience ⟨d, x.count, q⟩) later
        rw [count_land] at member
        exact ⟨a, List.mem_cons_of_mem _ member, same, List.mem_cons_of_mem _ ends⟩

/-- Requests land one after another. -/
theorem fst_settle (x : Exchange) (tickets : List (Connector × Ticket)) :
    (settle now patience q x tickets).1 =
      (askings q x.count tickets).foldl (land now patience) x := by
  induction tickets generalizing x with
  | nil => rfl
  | cons t rest ih =>
    obtain ⟨c, ticket⟩ := t
    cases ticket with
    | ready response => exact ih x
    | joined flight => exact ih x
    | started flight =>
      have landed := ih (x.land now patience ⟨c, x.count, q⟩)
      rw [count_land] at landed
      exact landed

theorem fst_ask (x : Exchange) (now patience : Nat) (q : EntityQuery)
    (connectors : List Connector) :
    (x.ask now patience q connectors).1 = (x.made now q connectors).foldl (land now patience)
      { x with cache := (calls now q x.cache connectors).1 } :=
  fst_settle _ _

theorem requests_landed (x : Exchange) (landed : List Asking) :
    (landed.foldl (land now patience) x).requests =
      x.requests ++ landed.map (fun a => .entities a.connector.name) := by
  induction landed generalizing x with
  | nil => exact (List.append_nil _).symm
  | cons a rest ih =>
    rw [List.foldl_cons, ih, List.map_cons, List.append_cons]
    rfl

/-- The requests that are recorded are those that are made. -/
theorem requests_ask (x : Exchange) (now patience : Nat) (q : EntityQuery)
    (connectors : List Connector) :
    (x.ask now patience q connectors).1.requests =
      x.requests ++ (x.made now q connectors).map (fun a => .entities a.connector.name) := by
  rw [fst_ask, requests_landed]

/-- A request that is still running was running before, and none for its key has landed. -/
theorem mem_flights_landed {landed : List Asking} {f : Flight}
    (runs : f ∈ (landed.foldl (land now patience) x).cache.flights) :
    f ∈ x.cache.flights ∧ ∀ a ∈ landed, f.key ≠ a.key := by
  induction landed generalizing x with
  | nil => exact ⟨runs, fun _ none => absurd none List.not_mem_nil⟩
  | cons a rest ih =>
    obtain ⟨before, others⟩ := ih runs
    have left : f ∈ (x.cache.complete now a.key (a.result patience)).flights := before
    rw [(FetchCache.complete_frame _).2.1] at left
    obtain ⟨there, own⟩ := List.mem_filter.1 left
    exact ⟨there, List.forall_mem_cons.2 ⟨of_decide_eq_true own, others⟩⟩

theorem mem_flights_calls (cache : FetchCache) {called : List Connector} {f : Flight}
    (runs : f ∈ (calls now q cache called).1.flights) :
    f ∈ cache.flights ∨ ∃ d, (d, .started f.number) ∈ (calls now q cache called).2 ∧
      f.key = FetchKey.ofQuery d.name q := by
  induction called generalizing cache with
  | nil => exact .inl runs
  | cons c rest ih =>
    rw [calls_cons] at runs ⊢
    have asked := cache.asked_ask now (.ofQuery c.name q)
    generalize cache.ask now (.ofQuery c.name q) = after at asked runs ⊢
    rcases ih _ runs with before | ⟨d, starts, same⟩
    · cases asked with
      | ready found live => exact .inl before
      | joined found => exact .inl before
      | started free =>
        rcases List.mem_append.1 before with old | new
        · exact .inl old
        · obtain rfl := List.mem_singleton.1 new
          exact .inr ⟨c, List.mem_cons_self .., rfl⟩
    · exact .inr ⟨d, List.mem_cons_of_mem _ starts, same⟩

/-- A query leaves no request running but those that were running before. -/
theorem mem_flights_ask {f : Flight}
    (runs : f ∈ (x.ask now patience q connectors).1.cache.flights) : f ∈ x.cache.flights := by
  rw [fst_ask] at runs
  obtain ⟨before, unlanded⟩ := mem_flights_landed runs
  rcases mem_flights_calls x.cache before with old | ⟨d, starts, same⟩
  · exact old
  · obtain ⟨a, member, key, _⟩ := mem_settle now patience x starts
    exact absurd (same.trans key.symm) (unlanded a member)

theorem mem_entries_landed {landed : List Asking} {e : CacheEntry}
    (kept : e ∈ (landed.foldl (land now patience) x).cache.entries) :
    e ∈ x.cache.entries ∨ ∃ a ∈ landed, a.key = e.key ∧ a.answer = .given e.response := by
  induction landed generalizing x with
  | nil => exact .inl kept
  | cons a rest ih =>
    rcases ih kept with before | ⟨b, later, same⟩
    · rcases FetchCache.mem_complete_entries before with old | ⟨response, succeeds, rfl⟩
      · exact .inl old
      · exact .inr ⟨a, List.mem_cons_self .., rfl, Asking.answer_of_result succeeds⟩
    · exact .inr ⟨b, List.mem_cons_of_mem _ later, same⟩

theorem mem_entries_calls (cache : FetchCache) {called : List Connector} {e : CacheEntry}
    (kept : e ∈ (calls now q cache called).1.entries) : e ∈ cache.entries := by
  induction called generalizing cache with
  | nil => exact kept
  | cons c rest ih =>
    rw [calls_cons] at kept
    have asked := cache.asked_ask now (.ofQuery c.name q)
    generalize cache.ask now (.ofQuery c.name q) = after at asked kept
    have before := ih _ kept
    cases asked with
    | ready found live => exact before
    | joined found => exact List.mem_of_mem_filter before
    | started free => exact List.mem_of_mem_filter before

/-- What is kept after a query was kept before, or is the answer to a request of the query. -/
theorem mem_entries_ask {e : CacheEntry}
    (kept : e ∈ (x.ask now patience q connectors).1.cache.entries) :
    e ∈ x.cache.entries ∨
      ∃ a ∈ x.made now q connectors, a.key = e.key ∧ a.answer = .given e.response := by
  rw [fst_ask] at kept
  exact (mem_entries_landed kept).imp_left (mem_entries_calls x.cache)

/-- How a ticket comes about while connectors are called: a kept answer, a request that was already
running, the request of a connector of the same name, or an own one. -/
inductive Ticketed (cache : FetchCache) (now : Nat) (q : EntityQuery)
    (tickets : List (Connector × Ticket)) (c : Connector) : Ticket → Prop where
  | kept {e : CacheEntry} (there : e ∈ cache.entries) (same : e.key = FetchKey.ofQuery c.name q)
      (live : now - e.storedAt < cache.lifetime) :
      Ticketed cache now q tickets c (.ready e.response)
  | running {f : Flight} (runs : f ∈ cache.flights) (same : f.key = FetchKey.ofQuery c.name q) :
      Ticketed cache now q tickets c (.joined f.number)
  | shared {d : Connector} {number : Nat} (starts : (d, .started number) ∈ tickets)
      (same : d.name = c.name) : Ticketed cache now q tickets c (.joined number)
  | own (number : Nat) : Ticketed cache now q tickets c (.started number)

/-- What comes after a call is explained by what was there before it and by its own ticket. -/
theorem Ticketed.later {cache : FetchCache} {d c : Connector} {ticket : Ticket}
    {tickets : List (Connector × Ticket)}
    (ticketed : Ticketed (cache.ask now (.ofQuery d.name q)).1 now q tickets c ticket) :
    Ticketed cache now q ((d, (cache.ask now (.ofQuery d.name q)).2) :: tickets) c ticket := by
  have asked := cache.asked_ask now (.ofQuery d.name q)
  generalize cache.ask now (.ofQuery d.name q) = after at asked ticketed ⊢
  cases ticketed with
  | @kept e there same live =>
    cases asked with
    | ready => exact .kept there same live
    | joined => exact .kept (List.mem_of_mem_filter there) same live
    | started => exact .kept (List.mem_of_mem_filter there) same live
  | running runs same =>
    cases asked with
    | ready => exact .running runs same
    | joined => exact .running runs same
    | started =>
      rcases List.mem_append.1 runs with old | new
      · exact .running old same
      · rw [List.mem_singleton.1 new] at same ⊢
        exact .shared (List.mem_cons_self ..) (congrArg FetchKey.connector same)
  | shared starts same => exact .shared (List.mem_cons_of_mem _ starts) same
  | own number => exact .own number

theorem ticketed_calls (now : Nat) (q : EntityQuery) (cache : FetchCache)
    (called : List Connector) : ∀ t ∈ (calls now q cache called).2,
      Ticketed cache now q (calls now q cache called).2 t.1 t.2 := by
  induction called generalizing cache with
  | nil => exact fun _ member => absurd member List.not_mem_nil
  | cons c rest ih =>
    rw [calls_cons]
    intro t member
    rcases List.mem_cons.1 member with rfl | later
    · have asked := cache.asked_ask now (.ofQuery c.name q)
      generalize cache.ask now (.ofQuery c.name q) = after at asked
      cases asked with
      | ready found live =>
        obtain ⟨there, same⟩ := FetchCache.mem_of_entry? found
        exact .kept there same live
      | joined found =>
        obtain ⟨runs, same⟩ := FetchCache.mem_of_flight? found
        exact .running runs same
      | started free => exact .own _
    · exact (ih _ t later).later

theorem numbers_settle (x : Exchange) (tickets : List (Connector × Ticket)) :
    (settle now patience q x tickets).2.map Prod.fst =
      tickets.filterMap (fun t => t.2.launched) := by
  induction tickets generalizing x with
  | nil => rfl
  | cons t rest ih =>
    obtain ⟨c, ticket⟩ := t
    cases ticket with
    | ready response => exact ih x
    | joined number => exact ih x
    | started number => exact congrArg (number :: ·) (ih _)

/-- Which result a connector gets: an answer that was kept, the result of a request that is made
under its name, or that of one that was already running. -/
inductive Arrives (x : Exchange) (now patience : Nat) (q : EntityQuery)
    (connectors : List Connector) (c : Connector) : FetchResult → Prop where
  | kept {e : CacheEntry} (there : e ∈ x.cache.entries) (same : e.key = FetchKey.ofQuery c.name q)
      (live : now - e.storedAt < x.cache.lifetime) :
      Arrives x now patience q connectors c (.ok e.response)
  | asked {a : Asking} (made : a ∈ x.made now q connectors)
      (same : a.key = FetchKey.ofQuery c.name q) :
      Arrives x now patience q connectors c (a.result patience)
  | joined {f : Flight} (runs : f ∈ x.cache.flights) (same : f.key = FetchKey.ofQuery c.name q)
      (result : FetchResult) : Arrives x now patience q connectors c result

/-- What a request comes to is found under the number of the call that started it. -/
theorem lookup_of_started (patience : Nat) {d : Connector} {flight : Nat}
    (starts : (d, .started flight) ∈ (calls now q x.cache connectors).2) :
    ∃ a ∈ x.made now q connectors, a.key = .ofQuery d.name q ∧
      (settle now patience q { x with cache := (calls now q x.cache connectors).1 }
        (calls now q x.cache connectors).2).2.lookup flight = some (a.result patience) := by
  obtain ⟨count, numbers⟩ := launched_calls now q x.cache connectors
  obtain ⟨a, member, same, ends⟩ := mem_settle now patience
    { x with cache := (calls now q x.cache connectors).1 } starts
  refine ⟨a, member, same, lookup_of_mem ?_ ends⟩
  rw [numbers_settle, numbers]
  exact List.nodup_range' 1

/-- There is one reply for each connector, in order, with the result that it gets. -/
theorem arrives_ask (now patience : Nat) (q : EntityQuery) (connectors : List Connector)
    (x : Exchange) :
    List.Forall₂ (fun c r => r.connector = c.name ∧ x.Arrives now patience q connectors c r.result)
      connectors (x.ask now patience q connectors).2 := by
  have called : (calls now q x.cache connectors).2.map Prod.fst = connectors :=
    fst_calls x.cache connectors
  have paired : List.Forall₂ (fun c r => r.connector = c.name ∧
      x.Arrives now patience q connectors c r.result)
      ((calls now q x.cache connectors).2.map Prod.fst) (x.ask now patience q connectors).2 := by
    rw [ask, List.forall₂_map_left_iff, List.forall₂_map_right_iff, List.forall₂_same]
    rintro ⟨c, ticket⟩ member
    refine ⟨rfl, ?_⟩
    have ticketed := ticketed_calls now q x.cache connectors _ member
    cases ticketed with
    | kept there same live => exact .kept there same live
    | running runs same => exact .joined runs same _
    | shared starts same =>
      obtain ⟨a, made, key, ends⟩ := lookup_of_started patience starts
      rw [resultOf, ends]
      exact .asked made (key.trans (congrArg (FetchKey.ofQuery · q) same))
    | own flight =>
      obtain ⟨a, made, key, ends⟩ := lookup_of_started patience member
      rw [resultOf, ends]
      exact .asked made key
  rwa [called] at paired

/-- Searches for edges leave what is kept as it is. -/
theorem cache_relate {rq : RelationQuery} (x : Exchange) (connectors : List Connector) :
    (x.relate patience rq connectors).1.cache = x.cache := by
  induction connectors generalizing x with
  | nil => rfl
  | cons c rest ih =>
    have landed := ih (x.record (.relation c.name))
    simp only [relate]
    split <;> exact landed

end Exchange
end ThreatHunt
