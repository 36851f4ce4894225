import ThreatHunt.Proofs.Fetch.Deduplication
import ThreatHunt.Proofs.Fetch.Exchanging
import ThreatHunt.Proofs.Pattern.Rearranged

/-!
Fetching again. What all connectors of a fetch answered is kept, so the same query gives the same
table from the cache, also when its pattern is written in another way.
-/

namespace ThreatHunt

/-- The reply, given by the cache. -/
def Reply.again (r : Reply) : Reply := { r with origin := .cached }

/-- The outcome of a reply that the cache gives. -/
def Outcome.again (o : Outcome) : Outcome := { o with coverage := .complete .cached }

namespace Merge

variable {q q' : EntityQuery} {rs : List Reply}

/-- Replies that the cache gives again merge to the same result. -/
theorem replies_again (timeAttributes : List String) (rearranged : q.Rearranged q')
    (succeed : ∀ r ∈ rs, r.succeeds = true) :
    replies timeAttributes q' (rs.map Reply.again) =
      { replies timeAttributes q rs with
        report :=
          { (replies timeAttributes q rs).report with
            outcomes := (replies timeAttributes q rs).report.outcomes.map Outcome.again } } := by
  have kept : (rs.map Reply.again).map (Reply.kept timeAttributes q') =
      rs.map (Reply.kept timeAttributes q) := by
    rw [List.map_map]
    exact List.map_congr_left (fun r _ => (rearranged.kept_eq timeAttributes r).symm)
  have edges : (rs.map Reply.again).flatMap Reply.edges = rs.flatMap Reply.edges := by
    rw [List.flatMap_map]
    rfl
  have outcomes : (rs.map Reply.again).map (Reply.outcome timeAttributes q') =
      (rs.map (Reply.outcome timeAttributes q)).map Outcome.again := by
    rw [List.map_map, List.map_map]
    refine List.map_congr_left (fun r member => ?_)
    obtain ⟨response, answered⟩ := Reply.exists_response (succeed r member)
    have same := rearranged.kept_eq timeAttributes r.again
    have result : r.again.result = .ok response := answered
    simp only [Function.comp_apply, Reply.outcome, answered, result, ← same]
    rfl
  have warnings : (rs.map Reply.again).filterMap Reply.warning? =
      rs.filterMap Reply.warning? := by
    rw [List.filterMap_map]
    rfl
  simp only [replies, kept, edges, outcomes, warnings, ← rearranged.entityType, ← rearranged.limit]

end Merge

namespace FetchCache

/-- The reply that a cache gives for a key. -/
def reply? (c : FetchCache) (now : Nat) (key : FetchKey) : Option Reply :=
  (c.live? now key).map (fun response => ⟨key.connector, .ok response, .cached⟩)

/-- Whether no answer that is kept for a query is too old. -/
def Young (c : FetchCache) (now : Nat) (q : EntityQuery) (connectors : List Connector) : Prop :=
  ∀ e ∈ c.entries, (∃ d ∈ connectors, e.key = FetchKey.ofQuery d.name q) → c.isLive now e = true

end FetchCache

namespace Exchange

variable {now : Nat} {q : EntityQuery} {connectors : List Connector} {cache : FetchCache}
  {replies : List Reply}

/-- Calls that find all their answers start no request. -/
theorem calls_of_kept (patience : Nat) (results : List (Nat × FetchResult))
    (kept : connectors.map (fun c => cache.reply? now (.ofQuery c.name q)) = replies.map some) :
    (calls now q cache connectors).2.filterMap (fun t => t.2.launched) = [] ∧
      (calls now q cache connectors).2.map (fun t =>
        (⟨t.1.name, resultOf (t.1.patience patience) results t.2, t.2.origin⟩ : Reply)) =
          replies := by
  induction connectors generalizing cache replies with
  | nil =>
    rw [List.map_nil] at kept
    rw [List.map_eq_nil_iff.1 kept.symm]
    exact ⟨rfl, rfl⟩
  | cons c rest ih =>
    cases replies with
    | nil => nomatch kept
    | cons r others =>
      obtain ⟨first, later⟩ := List.cons.inj kept
      obtain ⟨response, live, rfl⟩ := Option.map_eq_some_iff.1 first
      have ask : cache.ask now (.ofQuery c.name q) =
          ({ cache with stats := { cache.stats with hits := cache.stats.hits + 1 } },
            .ready response) := by
        simp only [FetchCache.ask, live]
      rw [calls_cons, ask]
      obtain ⟨quiet, same⟩ := @ih
        { cache with stats := { cache.stats with hits := cache.stats.hits + 1 } } others later
      exact ⟨quiet, congrArg (_ :: ·) same⟩

theorem settle_of_quiet (patience : Nat) (x : Exchange) {tickets : List (Connector × Ticket)}
    (quiet : tickets.filterMap (fun t => t.2.launched) = []) :
    settle now patience q x tickets = (x, []) := by
  induction tickets with
  | nil => rfl
  | cons t rest ih =>
    obtain ⟨c, ticket⟩ := t
    cases ticket with
    | ready response => exact ih quiet
    | joined number => exact ih quiet
    | started number => nomatch quiet

theorem ask_of_kept (patience : Nat) {x : Exchange}
    (kept : connectors.map (fun c => x.cache.reply? now (.ofQuery c.name q)) = replies.map some) :
    (x.ask now patience q connectors).1.requests = x.requests ∧
      (x.ask now patience q connectors).2 = replies := by
  obtain ⟨quiet, same⟩ := calls_of_kept patience [] kept
  simp only [ask, settle_of_quiet patience _ quiet, true_and]
  exact same

end Exchange

namespace Traffic

variable {lifetime capacity : Nat} {s t : Traffic} {q q' : EntityQuery}
  {connectors : List Connector} {c : Call}

/-- What a secured call has received is what the cache gives from then on. -/
theorem reply?_of_secured (reachable : Reachable lifetime capacity s) (secured : s.Secured c)
    {r : Reply} (received : s.reply? c = some r) (succeeds : r.succeeds = true)
    (young : ∀ e ∈ s.cache.entries, e.key = c.key → s.cache.isLive s.now e = true) :
    s.cache.reply? s.now c.key = some r.again := by
  obtain ⟨result, brought, rfl⟩ := Option.map_eq_some_iff.1 received
  obtain ⟨response, rfl⟩ := Reply.exists_response succeeds
  obtain ⟨e, there, same, rfl⟩ := secured.kept_of_received reachable.orderly brought
  have live := FetchCache.live?_of_mem reachable.kept.distinct there (young e there same)
  rw [same] at live
  simp only [FetchCache.reply?, live, Option.map_some]
  rfl

theorem nodup_keys (distinct : (connectors.map Connector.name).Nodup) :
    (connectors.map (fun c => FetchKey.ofQuery c.name q)).Nodup := by
  have apart : Function.Injective (fun name => FetchKey.ofQuery name q) :=
    fun _ _ same => congrArg FetchKey.connector same
  have keys := distinct.map apart
  rwa [List.map_map] at keys

/-- All replies of a fetch are those that the cache gives afterwards. -/
theorem Brings.kept {calls : List Call} {replies : List Reply}
    (brings : s.Brings q connectors calls t replies) (reachable : Reachable lifetime capacity s)
    (room : 0 < capacity) (distinct : (connectors.map Connector.name).Nodup)
    (succeed : ∀ r ∈ replies, r.succeeds = true)
    (unevicted : t.cache.stats.evictions = s.cache.stats.evictions)
    (young : t.cache.Young t.now q connectors) (rearranged : q.Rearranged q') :
    connectors.map (fun c => t.cache.reply? t.now (.ofQuery c.name q')) =
      (replies.map Reply.again).map some := by
  have apart : (([] ++ calls).map Call.key).Nodup := by
    rw [List.nil_append, brings.asks]
    exact nodup_keys distinct
  have secured := brings.run.secured reachable room unevicted apart
    (fun _ none => absurd none List.not_mem_nil)
  have each : ∀ c ∈ calls, t.cache.reply? t.now c.key = (t.reply? c).map Reply.again := by
    intro c member
    have received : t.reply? c ∈ replies.map some := brings.received ▸ List.mem_map_of_mem member
    obtain ⟨r, among, same⟩ := List.mem_map.1 received
    have key : c.key ∈ connectors.map (fun c => FetchKey.ofQuery c.name q) :=
      brings.asks ▸ List.mem_map_of_mem member
    obtain ⟨d, called, asked⟩ := List.mem_map.1 key
    rw [← same, Option.map_some]
    refine reply?_of_secured (brings.run.reachable reachable) (secured c member) same.symm
      (succeed r among) (fun e there own => ?_)
    exact young e there ⟨d, called, own.trans asked.symm⟩
  calc connectors.map (fun c => t.cache.reply? t.now (.ofQuery c.name q'))
      = (connectors.map (fun c => FetchKey.ofQuery c.name q)).map (t.cache.reply? t.now) := by
        simp only [List.map_map, Function.comp_def, rearranged.ofQuery_eq]
    _ = calls.map (fun c => t.cache.reply? t.now c.key) := by
        rw [← brings.asks, List.map_map]
        rfl
    _ = calls.map (fun c => (t.reply? c).map Reply.again) := List.map_congr_left each
    _ = (replies.map some).map (Option.map Reply.again) := by
        rw [← brings.received, List.map_map]
        rfl
    _ = (replies.map Reply.again).map some := by
        rw [List.map_map, List.map_map]
        rfl

end Traffic

namespace Exchange

/-- What it comes to when a fetch is made whose first result is still kept: no request is made, the
table and the edges are the same, and each connector has its outcome again, from the cache. -/
structure Repeats (timeAttributes : List String) (now patience : Nat) (q : EntityQuery)
    (connectors : List Connector) (x : Exchange) (first : Fetched) : Prop where
  requests : (x.fetch timeAttributes now patience q connectors).1.requests = x.requests
  table : (x.fetch timeAttributes now patience q connectors).2.table = first.table
  edges : (x.fetch timeAttributes now patience q connectors).2.edges = first.edges
  outcomes : (x.fetch timeAttributes now patience q connectors).2.report.outcomes =
    first.report.outcomes.map Outcome.again
  issued : (x.fetch timeAttributes now patience q connectors).2.report.requestsIssued = 0

variable {lifetime capacity now patience : Nat} {s : Traffic} {q q' : EntityQuery}
  {connectors : List Connector} {x : Exchange} {replies : List Reply}

theorem repeats_of_kept (timeAttributes : List String) (rearranged : q.Rearranged q')
    (succeed : ∀ r ∈ replies, r.succeeds = true)
    (kept : connectors.map (fun c => x.cache.reply? now (.ofQuery c.name q')) =
      (replies.map Reply.again).map some) :
    Repeats timeAttributes now patience q' connectors x
      (Merge.replies timeAttributes q replies) := by
  obtain ⟨requests, asked⟩ := ask_of_kept patience kept
  have fetched : (x.fetch timeAttributes now patience q' connectors).2 = _ :=
    (congrArg (Merge.replies timeAttributes q') asked).trans
      (Merge.replies_again timeAttributes rearranged succeed)
  refine ⟨requests, by rw [fetched], by rw [fetched], by rw [fetched], ?_⟩
  rw [fetched]
  simp only [FetchReport.requestsIssued, List.length_eq_zero_iff, List.filter_eq_nil_iff,
    List.mem_map]
  rintro _ ⟨o, _, rfl⟩
  exact Bool.false_ne_true

theorem succeed_of_not_degraded {timeAttributes : List String}
    (whole : (Merge.replies timeAttributes q replies).report.isDegraded = false) :
    ∀ r ∈ replies, r.succeeds = true := by
  intro r member
  by_contra fails
  have degraded : (r.outcome timeAttributes q).isDegraded = true :=
    Reply.isDegraded_outcome.2 (Reply.exists_issue fails)
  exact Bool.false_ne_true (whole.symm.trans
    (List.any_eq_true.2 ⟨_, List.mem_map_of_mem member, degraded⟩))

/-- A fetch to which all connectors answer, and of which no answer is evicted or gets too old, comes
to the same when it is made again, also with its pattern written in another way, and takes no
request. This is so after any traffic in which the first fetch is made, and for two fetches of one
exchange. -/
theorem fetch_again (reached : Traffic.Reachable lifetime capacity s) (room : 0 < capacity)
    (distinct : (connectors.map Connector.name).Nodup) (rearranged : q.Rearranged q')
    (timeAttributes : List String) (patience : Nat) :
    (∀ calls t replies, s.Brings q connectors calls t replies →
      (∀ r ∈ replies, r.succeeds = true) →
      t.cache.stats.evictions = s.cache.stats.evictions →
      t.cache.Young t.now q connectors →
      ∀ requests, Repeats timeAttributes t.now patience q' connectors ⟨t.cache, requests⟩
        (Merge.replies timeAttributes q replies)) ∧
    (∀ x : Exchange, x.cache = s.cache →
      let after := x.fetch timeAttributes s.now patience q connectors
      after.2.report.isDegraded = false →
      after.1.cache.stats.evictions = s.cache.stats.evictions →
      ∀ time, after.1.cache.Young (s.now + time) q connectors →
      Repeats timeAttributes (s.now + time) patience q' connectors after.1 after.2) := by
  constructor
  · intro calls t replies brings succeed unevicted young requests
    exact repeats_of_kept timeAttributes rearranged succeed
      (brings.kept reached room distinct succeed unevicted young rearranged)
  · intro x same after whole unevicted time young
    have succeed := succeed_of_not_degraded whole
    obtain ⟨calls, t, now, cache, brings⟩ :=
      Traffic.brings_ask reached q connectors patience same succeed
    have left : after.1.cache = t.cache := cache.symm
    refine repeats_of_kept timeAttributes rearranged succeed ?_
    rw [left] at unevicted young ⊢
    have kept : connectors.map (fun c => t.cache.reply? (t.now + time) (.ofQuery c.name q')) = _ :=
      (brings.wait time).kept reached room distinct succeed unevicted (now ▸ young) rearranged
    rwa [now] at kept

/-- The query for the files that go by one of some names. -/
def filesNamed (names : List String) : EntityQuery :=
  ⟨"file", some (.any (names.map (fun name => .test ⟨"name", none, .equal, .value (.str name)⟩))),
    none, none⟩

theorem rearranged_filesNamed {these those : List String}
    (same : ∀ name, name ∈ these ↔ name ∈ those) :
    (filesNamed these).Rearranged (filesNamed those) where
  entityType := rfl
  pattern := .some (.parts false (fun p => by simp only [List.mem_map, same]))
  window := rfl
  limit := rfl

/-- A request that runs before another call for its key joins it. -/
def begun (key : FetchKey) : Traffic := (Traffic.empty 1000 8).call key

def joined (key : FetchKey) (response : Response) : Traffic :=
  ((begun key).call key).land ⟨key, 0⟩ (.ok response)

theorem joined_cache (key : FetchKey) (response : Response) :
    (joined key response).cache = ⟨1000, 8, [⟨key, response, 0⟩], [], ⟨0, 1, 1, 0⟩⟩ := by
  simp [joined, begun, Traffic.call, Traffic.empty, Traffic.land, FetchCache.ask, FetchCache.empty,
    FetchCache.live?, FetchCache.entry?, FetchCache.flight?, FetchCache.complete, FetchCache.store,
    FetchCache.entriesWithout]

theorem brings_joined (c : Connector) (q : EntityQuery) (response : Response) :
    let key := FetchKey.ofQuery c.name q
    (begun key).Brings q [c] [(begun key).made key] (joined key response)
      [⟨c.name, .ok response, .shared⟩] := by
  intro key
  have runs : ⟨key, 0⟩ ∈ ((begun key).call key).running := by
    simp [begun, Traffic.call, Traffic.empty, FetchCache.ask, FetchCache.empty, FetchCache.live?,
      FetchCache.entry?, FetchCache.flight?, Traffic.launch, Ticket.launched]
  have given : ((begun key).made key).ticket = .joined 0 := by
    simp [begun, Traffic.made, Traffic.call, Traffic.empty, FetchCache.ask, FetchCache.empty,
      FetchCache.live?, FetchCache.entry?, FetchCache.flight?, FetchCache.entriesWithout]
  have landings : (joined key response).landings = [⟨⟨key, 0⟩, .ok response, 0⟩] := rfl
  refine ⟨.call (.land runs _ (.done _)), rfl, ?_⟩
  simp only [List.map_cons, List.map_nil, Traffic.reply?, Traffic.received?, given, landings]
  rfl

/-- The first fetch joins a request that was running before, or makes its own. -/
theorem fetch_again_swapped :
    let edr := Connector.answering "edr" ["file"] [fileNamed "f1" "a.exe"]
    let fim := Connector.answering "fim" ["file"] [fileNamed "f2" "b.exe"]
    let q := filesNamed ["a.exe", "b.exe"]
    let q' := filesNamed ["b.exe", "a.exe", "b.exe"]
    let response : Response := ⟨[fileNamed "f1" "a.exe"], []⟩
    let after := (empty 1000 8).fetch [] 0 1000 q [edr, fim]
    Repeats [] 0 1000 q' [edr] ⟨(joined (.ofQuery "edr" q) response).cache, []⟩
        (Merge.replies [] q [⟨"edr", .ok response, .shared⟩]) ∧
      Repeats [] 5 1000 q [edr, fim] after.1 after.2 ∧
      Repeats [] 5 1000 q' [edr, fim] after.1 after.2 := by
  intro edr fim q q' response after
  have rearranged : q.Rearranged q' := rearranged_filesNamed (by simp [or_comm])
  have live : ∀ e ∈ after.1.cache.entries, after.1.cache.isLive 5 e = true := by decide +kernel
  refine ⟨?_, ?_, ?_⟩
  · refine (fetch_again (.step .empty (.call _ _)) (by decide) (by decide) rearranged [] 1000).1 _ _
      _ (brings_joined edr q response) (by decide) ?_ ?_ []
    · rw [joined_cache]
      rfl
    · rw [FetchCache.Young, joined_cache]
      intro e there _
      rw [List.mem_singleton.1 there]
      decide
  · exact (fetch_again .empty (by decide) (by decide) (.refl q) [] 1000).2
      (empty 1000 8) rfl (by decide +kernel) (by decide +kernel) 5 (fun e there _ => live e there)
  · exact (fetch_again .empty (by decide) (by decide) rearranged [] 1000).2
      (empty 1000 8) rfl (by decide +kernel) (by decide +kernel) 5 (fun e there _ => live e there)

end Exchange
end ThreatHunt
