import ThreatHunt.Fetch.Merge
import ThreatHunt.Proofs.Fetch.Askings
import ThreatHunt.Proofs.Fetch.Fetching
import ThreatHunt.Proofs.Outcome

/-!
Isolation of failures. A connector that fails or stays silent takes nothing from what the others
give: the merge is that of their responses alone, and the report says of each connector how it
fared.
-/

namespace ThreatHunt

namespace Reply

variable {timeAttributes : List String} {q : EntityQuery} {r : Reply}

def succeeds (r : Reply) : Bool := r.result.isOk

theorem exists_response (succeeds : r.succeeds = true) : ∃ response, r.result = .ok response := by
  unfold Reply.succeeds at succeeds
  cases result : r.result with
  | ok response => exact ⟨response, rfl⟩
  | error issue =>
    rw [result] at succeeds
    nomatch succeeds

theorem exists_issue (fails : ¬r.succeeds = true) : ∃ issue, r.result = .error issue := by
  unfold succeeds at fails
  cases result : r.result with
  | ok response =>
    rw [result] at fails
    exact absurd rfl fails
  | error issue => exact ⟨issue, rfl⟩

theorem kept_of_error {issue : Issue} (fails : r.result = .error issue) :
    r.kept timeAttributes q = [] := by
  simp only [kept, fails]

theorem edges_of_error {issue : Issue} (fails : r.result = .error issue) : r.edges = [] := by
  simp only [edges, fails]

theorem connector_outcome : (r.outcome timeAttributes q).connector = r.connector := by
  cases result : r.result <;> simp only [outcome, result]

theorem isDegraded_outcome : (r.outcome timeAttributes q).isDegraded = true ↔
    ∃ issue, r.result = .error issue := by
  cases result : r.result with
  | ok response => simp [outcome, result, Outcome.isDegraded]
  | error issue => simp [outcome, result, Outcome.isDegraded]

theorem entities_of_degraded (degraded : (r.outcome timeAttributes q).isDegraded = true) :
    (r.outcome timeAttributes q).entities = 0 := by
  obtain ⟨issue, fails⟩ := isDegraded_outcome.1 degraded
  simp only [outcome, fails]

end Reply

namespace Merge

variable {timeAttributes : List String} {q q' : EntityQuery} {rs rs' : List Reply}

/-- The parts of a merge that are not empty, in order. -/
def parts (timeAttributes : List String) (q : EntityQuery) (rs : List Reply) : List (List Entity) :=
  (rs.map (Reply.kept timeAttributes q)).filter (fun es => !es.isEmpty)

/-- A merged table depends on no more than its parts, the type and the limit. -/
theorem table_congr (same : parts timeAttributes q rs = parts timeAttributes q' rs')
    (type : q.entityType = q'.entityType) (limit : q.limit = q'.limit) :
    (replies timeAttributes q rs).table = (replies timeAttributes q' rs').table := by
  have all : (rs.map (Reply.kept timeAttributes q)).flatten =
      (rs'.map (Reply.kept timeAttributes q')).flatten := by
    rw [← List.flatten_filter_not_isEmpty, ← List.flatten_filter_not_isEmpty (L := rs'.map _)]
    exact congrArg List.flatten same
  unfold parts at same
  simp only [replies, all, same, type, limit]

theorem parts_succeeding (rs : List Reply) :
    parts timeAttributes q (rs.filter Reply.succeeds) = parts timeAttributes q rs := by
  unfold parts
  induction rs with
  | nil => rfl
  | cons r rest ih =>
    by_cases succeeds : r.succeeds = true
    · rw [List.filter_cons_of_pos succeeds, List.map_cons, List.map_cons, List.filter_cons,
        List.filter_cons, ih]
    · obtain ⟨issue, fails⟩ := Reply.exists_issue succeeds
      rw [List.filter_cons_of_neg succeeds, List.map_cons, Reply.kept_of_error fails, ih]
      rfl

theorem edges_succeeding (rs : List Reply) :
    (rs.filter Reply.succeeds).flatMap Reply.edges = rs.flatMap Reply.edges := by
  induction rs with
  | nil => rfl
  | cons r rest ih =>
    by_cases succeeds : r.succeeds = true
    · rw [List.filter_cons_of_pos succeeds, List.flatMap_cons, List.flatMap_cons, ih]
    · obtain ⟨issue, fails⟩ := Reply.exists_issue succeeds
      rw [List.filter_cons_of_neg succeeds, List.flatMap_cons, Reply.edges_of_error fails, ih]
      rfl

/-- What a fetch makes of replies: the merge of the responses alone, and one outcome for each reply,
degraded and without entities just where there is no response. -/
structure Isolates (timeAttributes : List String) (q : EntityQuery) (rs : List Reply)
    (fetched : Fetched) : Prop where
  table : fetched.table = (replies timeAttributes q (rs.filter Reply.succeeds)).table
  edges : fetched.edges = (replies timeAttributes q (rs.filter Reply.succeeds)).edges
  outcomes : List.Forall₂ (fun r o => o.connector = r.connector ∧
    (o.isDegraded = true ↔ ∃ issue, r.result = .error issue) ∧
    (o.isDegraded = true → o.entities = 0)) rs fetched.report.outcomes

theorem isolates_replies (timeAttributes : List String) (q : EntityQuery) (rs : List Reply) :
    Isolates timeAttributes q rs (replies timeAttributes q rs) where
  table := table_congr (parts_succeeding rs).symm rfl rfl
  edges := by simp only [replies, edges_succeeding]
  outcomes := by
    rw [show (replies timeAttributes q rs).report.outcomes = rs.map (Reply.outcome timeAttributes q)
      from rfl, List.forall₂_map_right_iff, List.forall₂_same]
    intro r _
    exact ⟨Reply.connector_outcome, Reply.isDegraded_outcome, Reply.entities_of_degraded⟩

end Merge

namespace Exchange

variable {now patience : Nat} {q : EntityQuery} {connectors : List Connector} {x : Exchange}

/-- Where the result of a connector comes from: a kept answer, a request to a connector of its name,
or one that was already running. -/
inductive Comes (x : Exchange) (now patience : Nat) (q : EntityQuery) (connectors : List Connector)
    (c : Connector) : FetchResult → Prop where
  | kept {e : CacheEntry} (there : e ∈ x.cache.entries) (same : e.key = FetchKey.ofQuery c.name q)
      (live : now - e.storedAt < x.cache.lifetime) :
      Comes x now patience q connectors c (.ok e.response)
  | asked {d : Connector} (among : d ∈ connectors) (same : d.name = c.name) (count : Nat) :
      Comes x now patience q connectors c
        ((d.client.answer count q).within (d.patience patience))
  | joined {f : Flight} (runs : f ∈ x.cache.flights) (same : f.key = FetchKey.ofQuery c.name q)
      (result : FetchResult) : Comes x now patience q connectors c result

/-- There is one reply for each connector, in order, with the result that came for it. -/
theorem comes_ask (now patience : Nat) (q : EntityQuery) (connectors : List Connector)
    (x : Exchange) :
    List.Forall₂ (fun c r => r.connector = c.name ∧ x.Comes now patience q connectors c r.result)
      connectors (x.ask now patience q connectors).2 := by
  refine (arrives_ask now patience q connectors x).imp (fun c r arrives => ?_)
  obtain ⟨named, arrives⟩ := arrives
  refine ⟨named, ?_⟩
  generalize r.result = result at arrives ⊢
  cases arrives with
  | kept there same live => exact .kept there same live
  | @asked a made same =>
    obtain ⟨rfl, among⟩ := mem_made made
    exact .asked among (congrArg FetchKey.connector same) a.number
  | joined runs same => exact .joined runs same result

end Exchange
end ThreatHunt

/-!
What a fetch among other traffic receives. The fetch of an exchange, which makes all its calls
before the first of its requests comes back, is one such fetch.
-/

namespace ThreatHunt.Traffic

variable {lifetime capacity : Nat} {s t : Traffic} {q : EntityQuery}
  {connectors : List Connector} {c : Call}

/-- The reply that a call has received. -/
def reply? (s : Traffic) (c : Call) : Option Reply :=
  (s.received? c).map (fun result => ⟨c.key.connector, result, c.ticket.origin⟩)

/-- A fetch among other traffic: it calls for each connector and has received the replies. -/
structure Brings (s : Traffic) (q : EntityQuery) (connectors : List Connector) (calls : List Call)
    (t : Traffic) (replies : List Reply) : Prop where
  run : Fetching s calls t
  asks : calls.map Call.key = connectors.map (fun c => FetchKey.ofQuery c.name q)
  received : calls.map t.reply? = replies.map some

theorem Brings.wait {calls : List Call} {replies : List Reply}
    (brings : s.Brings q connectors calls t replies) (time : Nat) :
    s.Brings q connectors calls { t with now := t.now + time } replies where
  run := List.append_nil calls ▸ brings.run.trans (.wait time (.done _))
  asks := brings.asks
  received := brings.received

/-- What has come about once connectors are called: the calls have the tickets, and the requests
that these started run. -/
structure Calling (s : Traffic) (q : EntityQuery) (tickets : List (Connector × Ticket))
    (calls : List Call) (u : Traffic) : Prop where
  run : Fetching s calls u
  now : u.now = s.now
  paired : List.Forall₂
    (fun t (c : Call) => c.key = FetchKey.ofQuery t.1.name q ∧ c.ticket = t.2) tickets calls
  still : ∀ f ∈ s.running, f ∈ u.running
  starts : ∀ d number, (d, Ticket.started number) ∈ tickets →
    ⟨FetchKey.ofQuery d.name q, number⟩ ∈ u.running

theorem exists_calling (q : EntityQuery) (connectors : List Connector) (s : Traffic) :
    ∃ calls u, u.cache = (Exchange.calls s.now q s.cache connectors).1 ∧
      Calling s q (Exchange.calls s.now q s.cache connectors).2 calls u := by
  induction connectors generalizing s with
  | nil =>
    exact ⟨[], s, rfl, .done s, rfl, .nil, fun _ => id,
      fun _ _ none => absurd none List.not_mem_nil⟩
  | cons c rest ih =>
    obtain ⟨calls, u, cache, later⟩ := ih (s.call (.ofQuery c.name q))
    refine ⟨s.made (.ofQuery c.name q) :: calls, u, cache, .call later.run, later.now,
      .cons ⟨rfl, rfl⟩ later.paired, fun f runs => later.still f (List.mem_append_left _ runs),
      fun d number member => ?_⟩
    rcases List.mem_cons.1 member with this | other
    · obtain ⟨rfl, ticket⟩ := Prod.mk.inj this
      refine later.still _ (List.mem_append_right _ ?_)
      rw [← ticket]
      exact List.mem_singleton_self _
    · exact later.starts d number other

/-- The requests that calls started come back, one after another. -/
theorem exists_settling (patience : Nat) {tickets : List (Connector × Ticket)} (s : Traffic)
    (x : Exchange) (same : x.cache = s.cache)
    (starts : ∀ d number, (d, Ticket.started number) ∈ tickets →
      ⟨FetchKey.ofQuery d.name q, number⟩ ∈ s.running)
    (distinct : (tickets.filterMap (fun t => t.2.launched)).Nodup) :
    ∃ t, Fetching s [] t ∧ t.now = s.now ∧
      t.cache = (Exchange.settle s.now patience q x tickets).1.cache ∧
      ∀ p ∈ (Exchange.settle s.now patience q x tickets).2,
        ∃ l ∈ t.landings, l.flight.number = p.1 ∧ l.result = p.2 := by
  induction tickets generalizing s x with
  | nil => exact ⟨s, .done s, rfl, same.symm, fun _ none => absurd none List.not_mem_nil⟩
  | cons ticket rest ih =>
    obtain ⟨c, ticket⟩ := ticket
    have others : ∀ d number, (d, Ticket.started number) ∈ rest →
        ⟨FetchKey.ofQuery d.name q, number⟩ ∈ s.running :=
      fun d number member => starts d number (List.mem_cons_of_mem _ member)
    cases ticket with
    | ready response => exact ih s x same others distinct
    | joined number => exact ih s x same others distinct
    | started number =>
      obtain ⟨fresh, distinct⟩ := List.nodup_cons.1 distinct
      have runs := starts c number (List.mem_cons_self ..)
      let result := (c.client.answer x.count q).within (c.patience patience)
      let y : Exchange :=
        ({ x with cache := x.cache.complete s.now (.ofQuery c.name q) result } : Exchange).record
          (.entities c.name)
      obtain ⟨t, run, now, cache, landed⟩ := ih
        (s.land ⟨.ofQuery c.name q, number⟩ result) y
        (congrArg (fun (c : FetchCache) => c.complete s.now _ result) same)
        (fun d other member => by
          -- Requests have numbers of their own, so the others still run.
          refine List.mem_filter.2 ⟨others d other member, decide_eq_true (fun this => fresh ?_)⟩
          exact List.mem_filterMap.2 ⟨_, member, congrArg some this⟩)
        distinct
      refine ⟨t, .land runs result run, now, cache, fun p member => ?_⟩
      rcases List.mem_cons.1 member with rfl | later
      · exact ⟨_, run.landed (List.mem_append_right _ (List.mem_singleton_self _)), rfl, rfl⟩
      · exact landed p later

theorem Calling.asks {tickets : List (Connector × Ticket)} {calls : List Call} {u : Traffic}
    (calling : s.Calling q tickets calls u) :
    calls.map Call.key = (tickets.map Prod.fst).map (fun c => FetchKey.ofQuery c.name q) := by
  rw [List.map_map]
  exact Outcome.map_eq_of_forall₂ calling.paired (fun _ _ both => both.1)

/-- A call receives what its ticket stands for once this is an answer. -/
theorem received?_of_resultOf (orderly : s.Orderly lifetime) {patience : Nat}
    {results : List (Nat × FetchResult)}
    (landed : ∀ p ∈ results, ∃ l ∈ s.landings, l.flight.number = p.1 ∧ l.result = p.2)
    {response : Response}
    (answered : Exchange.resultOf patience results c.ticket = .ok response) :
    s.received? c = some (.ok response) := by
  have waited : ∀ number, (c.ticket = .joined number ∨ c.ticket = .started number) →
      (results.lookup number).getD (.error (.timedOut patience)) = .ok response →
      s.received? c = some (.ok response) := by
    intro number given came
    cases found : results.lookup number with
    | none =>
      rw [found] at came
      nomatch came
    | some result =>
      rw [found, Option.getD_some] at came
      obtain ⟨before, after, all, _⟩ := List.lookup_eq_some_iff.1 found
      obtain ⟨l, there, rfl, same⟩ := landed (number, result)
        (all ▸ List.mem_append_right _ (List.mem_cons_self ..))
      rw [received?_of_landed orderly there given, same, came]
  cases ticket : c.ticket with
  | ready kept =>
    rw [ticket] at answered
    simpa only [received?, ticket, Exchange.resultOf] using congrArg some answered
  | joined number =>
    rw [ticket] at answered
    exact waited number (.inl ticket) answered
  | started number =>
    rw [ticket] at answered
    exact waited number (.inr ticket) answered

/-- An exchange that gets answers from all connectors brings them. -/
theorem brings_ask (reachable : Reachable lifetime capacity s) (q : EntityQuery)
    (connectors : List Connector) (patience : Nat) {x : Exchange} (same : x.cache = s.cache)
    (succeed : ∀ r ∈ (x.ask s.now patience q connectors).2, r.succeeds = true) :
    ∃ calls t, t.now = s.now ∧ t.cache = (x.ask s.now patience q connectors).1.cache ∧
      s.Brings q connectors calls t (x.ask s.now patience q connectors).2 := by
  obtain ⟨calls, u, cache, calling⟩ := exists_calling q connectors s
  have called : (Exchange.calls s.now q s.cache connectors).2.map Prod.fst = connectors :=
    Exchange.fst_calls s.cache connectors
  obtain ⟨count, numbers⟩ := Exchange.launched_calls s.now q s.cache connectors
  simp only [Exchange.ask, same] at succeed ⊢
  generalize (Exchange.calls s.now q s.cache connectors).2 = tickets
    at calling called numbers succeed ⊢
  obtain ⟨t, settled, now, after, landed⟩ := exists_settling patience u
    { x with cache := (Exchange.calls s.now q s.cache connectors).1 } cache.symm calling.starts
    (numbers ▸ List.nodup_range' 1)
  rw [calling.now] at after landed
  generalize Exchange.settle s.now patience q
    { x with cache := (Exchange.calls s.now q s.cache connectors).1 } tickets = ending
    at after landed succeed ⊢
  have run : Fetching s calls t := List.append_nil calls ▸ calling.run.trans settled
  refine ⟨calls, t, now.trans calling.now, after, run, called ▸ calling.asks, ?_⟩
  have orderly := (run.reachable reachable).orderly
  have paired := (List.forall₂_and_left _ _).2 ⟨fun _ => id, calling.paired⟩
  rw [List.map_map]
  refine Outcome.map_eq_of_forall₂ paired ?_
  rintro ⟨d, ticket⟩ c ⟨member, key, rfl⟩
  obtain ⟨response, answered⟩ := Reply.exists_response (succeed _ (List.mem_map_of_mem member))
  dsimp only at answered
  simp only [reply?, received?_of_resultOf orderly landed answered, Option.map_some, key,
    Function.comp_apply, answered]
  rfl

end ThreatHunt.Traffic
