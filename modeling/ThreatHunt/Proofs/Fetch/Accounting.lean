import ThreatHunt.Proofs.Fetch.Repetition

/-!
The account of requests. A report counts one request for each outcome that was fetched or is
degraded, and a degraded outcome does not tell any more who started its request. So the account is
right up to failures of requests that another call had started.
-/

namespace ThreatHunt

namespace Ticket

theorem isSome_launched (t : Ticket) : t.launched.isSome = (t.origin == .fetched) := by
  cases t <;> rfl

end Ticket

namespace Reply

variable {timeAttributes : List String} {q : EntityQuery} {r : Reply}

/-- Whether a reply comes from a request that its own call started. -/
def isFetched (r : Reply) : Bool := r.origin == .fetched

/-- Whether a reply is the failure of a request that another call had started. -/
def sharesFailure (r : Reply) : Bool := r.origin == .shared && !r.succeeds

/-- Whether a reply is no failure if it was kept; failures are never kept. -/
def IsSound (r : Reply) : Prop := r.origin = .cached → r.succeeds = true

theorem isRequest_outcome :
    (r.outcome timeAttributes q).isRequest = (r.isFetched || !r.succeeds) := by
  cases result : r.result <;>
    simp [outcome, Outcome.isRequest, isFetched, succeeds, result, Except.isOk, Except.toBool]

/-- A failure comes from a request of the own call or from that of another. -/
theorem sharesFailure_eq (sound : r.IsSound) :
    r.sharesFailure = (!r.isFetched && !r.succeeds) := by
  unfold IsSound at sound
  cases origin : r.origin with
  | fetched => simp [sharesFailure, isFetched, origin]
  | shared => simp [sharesFailure, isFetched, origin]
  | cached => simp [sharesFailure, isFetched, origin, sound origin]

/-- Replies to tickets are fetched as often as the tickets start a request. -/
theorem length_fetched {α : Type} {ticket : α → Ticket} {calls : List α} {rs : List Reply}
    (origins : rs.map origin = calls.map (fun c => (ticket c).origin)) :
    (rs.filter isFetched).length = (calls.filterMap (fun c => (ticket c).launched)).length := by
  have counted := congrArg (List.countP (· == Origin.fetched)) origins
  rw [List.countP_map, List.countP_map] at counted
  rw [← List.countP_eq_length_filter, List.length_filterMap_eq_countP]
  simp only [Ticket.isSome_launched]
  exact counted

end Reply

namespace Merge

variable {timeAttributes : List String} {q : EntityQuery} {rs : List Reply}

/-- A report counts the requests of the fetch and the failures that it shares. -/
theorem requestsIssued_replies (sound : ∀ r ∈ rs, r.IsSound) :
    (replies timeAttributes q rs).report.requestsIssued =
      (rs.filter Reply.isFetched).length + (rs.filter Reply.sharesFailure).length := by
  let requests := rs.filter (fun r => r.isFetched || !r.succeeds)
  have counted : (replies timeAttributes q rs).report.requestsIssued = requests.length := by
    change ((rs.map (Reply.outcome timeAttributes q)).filter Outcome.isRequest).length = _
    rw [List.filter_map, List.length_map]
    exact congrArg List.length (List.filter_congr (fun r _ => Reply.isRequest_outcome))
  have own : requests.filter Reply.isFetched = rs.filter Reply.isFetched := by
    rw [List.filter_filter]
    exact List.filter_congr (fun r _ => by cases r.isFetched <;> rfl)
  have shared : requests.filter (fun r => !r.isFetched) = rs.filter Reply.sharesFailure := by
    rw [List.filter_filter]
    refine List.filter_congr (fun r member => ?_)
    rw [Reply.sharesFailure_eq (sound r member)]
    cases r.isFetched <;> rfl
  rw [counted, ← own, ← shared]
  exact List.length_eq_length_filter_add Reply.isFetched

theorem degradedConnectors_replies (rs : List Reply) :
    (replies timeAttributes q rs).report.degradedConnectors =
      (rs.filter (fun r => !r.succeeds)).map Reply.connector := by
  have degraded : ∀ r : Reply, (r.outcome timeAttributes q).isDegraded = !r.succeeds := by
    intro r
    cases result : r.result <;>
      simp [Reply.outcome, Outcome.isDegraded, Reply.succeeds, result, Except.isOk, Except.toBool]
  change ((rs.map (Reply.outcome timeAttributes q)).filter Outcome.isDegraded).map
    Outcome.connector = _
  have failed : rs.filter (Outcome.isDegraded ∘ Reply.outcome timeAttributes q) =
      rs.filter (fun r => !r.succeeds) := List.filter_congr (fun r _ => degraded r)
  rw [List.filter_map, List.map_map, failed]
  exact List.map_congr_left (fun r _ => Reply.connector_outcome)

/-- Where a failure is shared only with a request of the same fetch, and no two requests are made
under one name, failures are shared as often as degraded connectors are repeated. -/
theorem length_sharedFailures (sound : ∀ r ∈ rs, r.IsSound)
    (apart : ((rs.filter Reply.isFetched).map Reply.connector).Nodup)
    (led : ∀ r ∈ rs, r.sharesFailure = true →
      ∃ f ∈ rs, f.isFetched = true ∧ f.succeeds = false ∧ f.connector = r.connector) :
    let degraded := (rs.filter (fun r => !r.succeeds)).map Reply.connector
    (rs.filter Reply.sharesFailure).length + (Schema.distinct degraded).length =
      degraded.length := by
  intro degraded
  let failures := rs.filter (fun r => !r.succeeds)
  have shared : failures.filter (fun r => !r.isFetched) = rs.filter Reply.sharesFailure := by
    rw [List.filter_filter]
    exact List.filter_congr (fun r member => (Reply.sharesFailure_eq (sound r member)).symm)
  have own : ((failures.filter Reply.isFetched).map Reply.connector).Perm
      (Schema.distinct degraded) := by
    have distinct : ((failures.filter Reply.isFetched).map Reply.connector).Nodup :=
      apart.sublist ((List.filter_sublist.filter _).map _)
    rw [List.perm_ext_iff_of_nodup distinct (Schema.nodup_distinct _)]
    intro name
    rw [Schema.mem_distinct]
    constructor
    · exact fun member => (List.filter_sublist.map _).subset member
    · intro member
      obtain ⟨r, failed, rfl⟩ := List.mem_map.1 member
      obtain ⟨there, fails⟩ := List.mem_filter.1 failed
      by_cases fetched : r.isFetched = true
      · exact List.mem_map_of_mem (List.mem_filter.2 ⟨failed, fetched⟩)
      · have shares : r.sharesFailure = true := by
          rw [Reply.sharesFailure_eq (sound r there), Bool.and_eq_true, Bool.not_eq_true']
          exact ⟨Bool.eq_false_iff.2 fetched, fails⟩
        obtain ⟨f, among, starts, loses, same⟩ := led r there shares
        have lost : f ∈ failures := List.mem_filter.2 ⟨among, by rw [loses]; rfl⟩
        exact List.mem_map.2 ⟨f, List.mem_filter.2 ⟨lost, starts⟩, same⟩
  have parts : failures.length = (failures.filter Reply.isFetched).length +
      (failures.filter (fun r => !r.isFetched)).length :=
    List.length_eq_length_filter_add Reply.isFetched
  rw [← own.length_eq, ← shared, List.length_map, List.length_map, Nat.add_comm]
  exact parts.symm

end Merge

namespace Traffic

variable {lifetime capacity : Nat} {s : Traffic} {q : EntityQuery} {connectors : List Connector}
  {calls : List Call} {replies : List Reply}

/-- The requests that some calls started. -/
def startedBy (s : Traffic) (calls : List Call) : List Flight :=
  s.started.filter (fun f => (calls.filterMap (fun c => c.ticket.launched)).contains f.number)

/-- Of the calls that were made each starts a request of its own or none. -/
theorem length_startedBy (orderly : s.Orderly lifetime) (among : calls.Sublist s.calls) :
    (s.startedBy calls).length = (calls.filterMap (fun c => c.ticket.launched)).length := by
  let launched := calls.filterMap (fun c => c.ticket.launched)
  have numbers : (s.started.map Flight.number).Nodup := orderly.numbered ▸ List.nodup_range
  have own : launched.Sublist (s.started.map Flight.number) :=
    orderly.own ▸ among.filterMap _
  have distinct : ((s.startedBy calls).map Flight.number).Nodup :=
    numbers.sublist (List.filter_sublist.map _)
  have same : ((s.startedBy calls).map Flight.number).Perm launched := by
    rw [List.perm_ext_iff_of_nodup distinct (numbers.sublist own)]
    intro number
    constructor
    · intro member
      obtain ⟨f, started, rfl⟩ := List.mem_map.1 member
      exact List.contains_iff_mem.1 (List.mem_filter.1 started).2
    · intro member
      obtain ⟨f, started, rfl⟩ := List.mem_map.1 (own.subset member)
      exact List.mem_map_of_mem (List.mem_filter.2 ⟨started, List.contains_iff_mem.2 member⟩)
  rw [← same.length_eq, List.length_map]

/-- A fetch among other traffic, told by its calls: there is one for each connector, and each has
received its reply. -/
structure Receives (s : Traffic) (q : EntityQuery) (connectors : List Connector)
    (calls : List Call) (replies : List Reply) : Prop where
  among : calls.Sublist s.calls
  asks : calls.map Call.key = connectors.map (fun c => FetchKey.ofQuery c.name q)
  received : calls.map s.reply? = replies.map some

theorem reply?_eq_some {c : Call} {r : Reply} (received : s.reply? c = some r) :
    r.origin = c.ticket.origin ∧ r.IsSound := by
  obtain ⟨result, came, rfl⟩ := Option.map_eq_some_iff.1 received
  refine ⟨rfl, fun kept => ?_⟩
  cases ticket : c.ticket with
  | ready response =>
    simp only [received?, ticket] at came
    rw [← Option.some.inj came]
    rfl
  | joined number =>
    rw [ticket] at kept
    cases kept
  | started number =>
    rw [ticket] at kept
    cases kept

theorem Receives.replied (receives : s.Receives q connectors calls replies) :
    List.Forall₂ (fun c r => s.reply? c = some r) calls replies := by
  have same : List.Forall₂ Eq (calls.map s.reply?) (replies.map some) := by
    rw [List.forall₂_eq_eq_eq]
    exact receives.received
  rwa [List.forall₂_map_left_iff, List.forall₂_map_right_iff] at same

end Traffic

namespace Exchange

variable {now patience number : Nat} {q : EntityQuery} {connectors : List Connector} {x : Exchange}
  {cache : FetchCache} {tickets : List (Connector × Ticket)}

theorem length_askings (q : EntityQuery) (number : Nat) (tickets : List (Connector × Ticket)) :
    (askings q number tickets).length = (tickets.filterMap (fun t => t.2.launched)).length := by
  induction tickets generalizing number with
  | nil => rfl
  | cons t rest ih =>
    obtain ⟨c, ticket⟩ := t
    cases ticket with
    | ready response => exact ih number
    | joined flight => exact ih number
    | started flight => exact congrArg Nat.succ (ih (number + 1))

/-- The replies that are fetched are those to the requests that are made. -/
theorem length_fetched_ask (now patience : Nat) (q : EntityQuery) (connectors : List Connector)
    (x : Exchange) :
    ((x.ask now patience q connectors).2.filter Reply.isFetched).length =
      (x.made now q connectors).length := by
  rw [made, length_askings]
  apply Reply.length_fetched
  rw [ask, List.map_map]
  rfl

theorem isSound_ask : ∀ r ∈ (x.ask now patience q connectors).2, r.IsSound := by
  intro r member kept
  obtain ⟨⟨c, ticket⟩, _, rfl⟩ := List.mem_map.1 member
  cases ticket with
  | ready response => rfl
  | joined number => nomatch kept
  | started number => nomatch kept

/-- A request is started for a key only where none runs. -/
theorem free_of_started {called : List Connector} {d : Connector}
    (starts : (d, .started number) ∈ (calls now q cache called).2) :
    ∀ f ∈ cache.flights, f.key ≠ FetchKey.ofQuery d.name q := by
  induction called generalizing cache with
  | nil => exact absurd starts List.not_mem_nil
  | cons c rest ih =>
    rw [calls_cons] at starts
    have asked := cache.asked_ask now (.ofQuery c.name q)
    generalize cache.ask now (.ofQuery c.name q) = after at asked starts
    rcases List.mem_cons.1 starts with this | later
    · obtain ⟨rfl, ticket⟩ := Prod.mk.inj this
      cases asked with
      | ready found live => nomatch ticket
      | joined found => nomatch ticket
      | started free => exact FetchCache.flight?_eq_none.1 free
    · intro f runs
      cases asked with
      | ready found live => exact ih later f runs
      | joined found => exact ih later f runs
      | started free => exact ih later f (List.mem_append_left _ runs)

/-- Two requests of one query are made under two names. -/
theorem nodup_started (now : Nat) (q : EntityQuery) (cache : FetchCache) (called : List Connector) :
    (((calls now q cache called).2.filter (fun t => t.2.launched.isSome)).map
      (fun t => t.1.name)).Nodup := by
  induction called generalizing cache with
  | nil => exact List.nodup_nil
  | cons c rest ih =>
    rw [calls_cons]
    have asked := cache.asked_ask now (.ofQuery c.name q)
    generalize cache.ask now (.ofQuery c.name q) = after at asked ⊢
    cases asked with
    | ready found live => exact ih _
    | joined found => exact ih _
    | started free =>
      refine List.nodup_cons.2 ⟨?_, ih _⟩
      intro again
      obtain ⟨⟨d, ticket⟩, member, same⟩ := List.mem_map.1 again
      obtain ⟨there, launches⟩ := List.mem_filter.1 member
      obtain ⟨number, launched⟩ := Option.isSome_iff_exists.1 launches
      cases ticket with
      | ready response => nomatch launched
      | joined flight => nomatch launched
      | started flight =>
        refine free_of_started there _ (List.mem_append_right _ (List.mem_singleton_self _)) ?_
        exact congrArg (FetchKey.ofQuery · q) same.symm

theorem apart_fetched (now patience : Nat) (q : EntityQuery) (connectors : List Connector)
    (x : Exchange) :
    (((x.ask now patience q connectors).2.filter Reply.isFetched).map Reply.connector).Nodup := by
  have names := nodup_started now q x.cache connectors
  simp only [Ticket.isSome_launched] at names
  rw [ask, List.filter_map, List.map_map]
  exact names

/-- Whether no request for a query runs. -/
def Idle (x : Exchange) (q : EntityQuery) (connectors : List Connector) : Prop :=
  ∀ c ∈ connectors, ∀ f ∈ x.cache.flights, f.key ≠ FetchKey.ofQuery c.name q

theorem idle_empty (lifetime capacity : Nat) (q : EntityQuery) (connectors : List Connector) :
    (empty lifetime capacity).Idle q connectors :=
  fun _ _ _ runs => absurd runs List.not_mem_nil

/-- A fetch leaves no request of its own running. -/
theorem Idle.fetch {other : EntityQuery} {others : List Connector} (idle : x.Idle q connectors)
    (timeAttributes : List String) (now patience : Nat) :
    (x.fetch timeAttributes now patience other others).1.Idle q connectors :=
  fun c member f runs => idle c member f (mem_flights_ask runs)

/-- Where no request for a query runs before, a result is shared only with a call under the same
name that starts a request. -/
theorem exists_fetched_of_shared (idle : x.Idle q connectors) {r : Reply}
    (member : r ∈ (x.ask now patience q connectors).2) (shared : r.origin = .shared) :
    ∃ f ∈ (x.ask now patience q connectors).2,
      f.isFetched = true ∧ f.connector = r.connector ∧ f.result = r.result := by
  obtain ⟨⟨c, ticket⟩, there, rfl⟩ := List.mem_map.1 member
  have whole : (calls now q x.cache connectors).2.map Prod.fst = connectors :=
    fst_calls x.cache connectors
  have called : c ∈ connectors := whole ▸ List.mem_map_of_mem there
  have ticketed := ticketed_calls now q x.cache connectors _ there
  cases ticketed with
  | kept there same live => nomatch shared
  | running runs same => exact absurd same (idle c called _ runs)
  | own number => nomatch shared
  | shared starts same =>
    obtain ⟨a, _, _, ends⟩ := lookup_of_started patience starts
    refine ⟨_, List.mem_map_of_mem starts, rfl, same, ?_⟩
    simp only [resultOf, ends, Option.getD_some]

theorem degraded_fetch (timeAttributes : List String) (now patience : Nat) (q : EntityQuery)
    (connectors : List Connector) (x : Exchange) :
    (x.fetch timeAttributes now patience q connectors).2.report.degradedConnectors =
      ((x.ask now patience q connectors).2.filter (fun r => !r.succeeds)).map Reply.connector :=
  Merge.degradedConnectors_replies _

theorem degraded_sublist (timeAttributes : List String) (now patience : Nat) (q : EntityQuery)
    (connectors : List Connector) (x : Exchange) :
    (x.fetch timeAttributes now patience q connectors).2.report.degradedConnectors.Sublist
      (connectors.map Connector.name) := by
  have names : (x.ask now patience q connectors).2.map Reply.connector =
      connectors.map Connector.name :=
    Outcome.map_eq_of_forall₂ (arrives_ask now patience q connectors x) (fun _ _ both => both.1)
  rw [degraded_fetch, ← names]
  exact List.filter_sublist.map _

/-- In a fetch that joins no request of others, failures are shared as often as degraded connectors
are repeated. -/
theorem length_sharedFailures_ask {timeAttributes : List String} (idle : x.Idle q connectors) :
    let degraded := (x.fetch timeAttributes now patience q connectors).2.report.degradedConnectors
    ((x.ask now patience q connectors).2.filter Reply.sharesFailure).length +
      (Schema.distinct degraded).length = degraded.length := by
  intro degraded
  rw [show degraded = _ from degraded_fetch ..]
  apply Merge.length_sharedFailures isSound_ask (apart_fetched now patience q connectors x)
  intro r member shares
  obtain ⟨shared, fails⟩ := Bool.and_eq_true_iff.1 shares
  obtain ⟨f, among, starts, same, result⟩ :=
    exists_fetched_of_shared idle member (beq_iff_eq.1 shared)
  refine ⟨f, among, starts, ?_, same⟩
  rw [Reply.succeeds, result]
  simpa [Reply.succeeds] using fails

end Exchange

namespace FetchReport

/-- Whether a report counts the requests that a fetch started, and with them the failures of other
requests that the fetch shares. -/
structure Accounts (report : FetchReport) (replies : List Reply) (started : Nat) : Prop where
  fetched : (replies.filter Reply.isFetched).length = started
  issued : report.requestsIssued = started + (replies.filter Reply.sharesFailure).length
  exact : report.requestsIssued = started ↔
    ∀ r ∈ replies, r.origin = .shared → r.succeeds = true

theorem accounts_replies {q : EntityQuery} {rs : List Reply} {started : Nat}
    (timeAttributes : List String) (sound : ∀ r ∈ rs, r.IsSound)
    (fetched : (rs.filter Reply.isFetched).length = started) :
    (Merge.replies timeAttributes q rs).report.Accounts rs started := by
  have issued : (Merge.replies timeAttributes q rs).report.requestsIssued =
      started + (rs.filter Reply.sharesFailure).length := by
    rw [Merge.requestsIssued_replies sound, fetched]
  refine ⟨fetched, issued, ?_⟩
  rw [issued, Nat.add_eq_left, List.length_eq_zero_iff, List.filter_eq_nil_iff]
  simp [Reply.sharesFailure]

end FetchReport

/-- A connector whose requests all fail. -/
def Connector.failing (name : String) (types : List String) (text : String) : Connector :=
  { name := name
    capabilities := .ofTypes types
    client := { answer := fun _ _ => .failed text, relate := fun _ _ => .failed text } }

namespace Exchange

/-- Whatever is kept, whichever requests run and whatever comes back: a report counts the requests
that its fetch started, and besides them each reply that failed with a request which another call had
started. So the count is right just where no shared reply failed. In a fetch that joins no request
of others these are the repetitions of degraded connectors: the count is right if and only if no
degraded connector is repeated, and so wherever connectors have names of their own. -/
theorem fetch_accounts (timeAttributes : List String) (q : EntityQuery)
    (connectors : List Connector) :
    (∀ lifetime capacity s calls replies, Traffic.Reachable lifetime capacity s →
      s.Receives q connectors calls replies →
      (Merge.replies timeAttributes q replies).report.Accounts replies
        (s.startedBy calls).length) ∧
    (∀ (now patience : Nat) (x : Exchange),
      let after := x.fetch timeAttributes now patience q connectors
      let degraded := after.2.report.degradedConnectors
      ∃ made, after.1.requests = x.requests ++ made ∧
        after.2.report.Accounts (x.ask now patience q connectors).2 made.length ∧
        (x.Idle q connectors →
          after.2.report.requestsIssued + (Schema.distinct degraded).length =
            made.length + degraded.length ∧
          (after.2.report.requestsIssued = made.length ↔ degraded.Nodup) ∧
          ((connectors.map Connector.name).Nodup →
            after.2.report.requestsIssued = made.length))) := by
  constructor
  · intro lifetime capacity s calls replies reached receives
    have replied := receives.replied
    refine FetchReport.accounts_replies timeAttributes ?_ ?_
    · intro r member
      obtain ⟨c, _, received⟩ := Outcome.exists_of_forall₂ replied member
      exact (Traffic.reply?_eq_some received).2
    · rw [Traffic.length_startedBy reached.orderly receives.among]
      apply Reply.length_fetched
      exact Outcome.map_eq_of_forall₂ replied
        (fun c r received => (Traffic.reply?_eq_some received).1)
  · intro now patience x after degraded
    have accounts : after.2.report.Accounts (x.ask now patience q connectors).2
        ((x.made now q connectors).map (fun a => Request.entities a.connector.name)).length := by
      refine FetchReport.accounts_replies timeAttributes isSound_ask ?_
      rw [List.length_map]
      exact length_fetched_ask now patience q connectors x
    refine ⟨_, requests_ask x now patience q connectors, accounts, fun idle => ?_⟩
    have shared : ((x.ask now patience q connectors).2.filter Reply.sharesFailure).length +
        (Schema.distinct degraded).length = degraded.length := length_sharedFailures_ask idle
    have issued := accounts.issued
    have exact : after.2.report.requestsIssued =
        ((x.made now q connectors).map (fun a => Request.entities a.connector.name)).length ↔
          degraded.Nodup := by
      rw [← Schema.length_distinct_eq_iff]
      omega
    refine ⟨by omega, exact, fun distinct => exact.2 ?_⟩
    exact distinct.sublist (degraded_sublist timeAttributes now patience q connectors x)

/-- The query for all files. -/
def allFiles : EntityQuery := ⟨"file", none, none, none⟩

/-- Traffic in which a call joins a request for files that then fails. -/
def lost : Traffic :=
  ((begun (.ofQuery "edr" allFiles)).call (.ofQuery "edr" allFiles)).land
    ⟨.ofQuery "edr" allFiles, 0⟩ (.error (.timedOut 1000))

/-- A fetch that only joined the failing request counts one and started none. One that asks each
connector once, with a failure and a kept answer, counts what it started. -/
theorem fetch_accounts_lost :
    let key := FetchKey.ofQuery "edr" allFiles
    let replies : List Reply := [⟨"edr", .error (.timedOut 1000), .shared⟩]
    let edr := Connector.failing "edr" ["file"] "down"
    let fim := Connector.answering "fim" ["file"] [fileNamed "f1" "a.exe"]
    let x := ((empty 1000 8).fetch [] 0 1000 allFiles [fim]).1
    let after := x.fetch [] 5 1000 allFiles [edr, fim]
    (lost.startedBy [(begun key).made key] = [] ∧
      (Merge.replies [] allFiles replies).report.requestsIssued = 1 ∧
      (Merge.replies [] allFiles replies).report.Accounts replies 0) ∧
    ∃ made, after.1.requests = x.requests ++ made ∧
      after.2.report.degradedConnectors = ["edr"] ∧
      after.2.report.requestsIssued = made.length := by
  intro key replies edr fim x after
  have runs : ⟨key, 0⟩ ∈ ((begun key).call key).running := by decide +kernel
  have reached : Traffic.Reachable 1000 8 lost :=
    .step (.step (.step .empty (.call _ key)) (.call _ key)) (.land _ runs _)
  have receives : lost.Receives allFiles [edr] [(begun key).made key] replies :=
    ⟨.cons _ (.refl _), rfl, rfl⟩
  have none : lost.startedBy [(begun key).made key] = [] := by decide +kernel
  have accounts := (fetch_accounts [] allFiles [edr]).1 1000 8 lost _ _ reached receives
  rw [none] at accounts
  refine ⟨⟨none, accounts.issued, accounts⟩, ?_⟩
  obtain ⟨made, requests, _, right⟩ := (fetch_accounts [] allFiles [edr, fim]).2 5 1000 x
  have idle : x.Idle allFiles [edr, fim] := (idle_empty 1000 8 allFiles _).fetch [] 0 1000
  exact ⟨made, requests, by decide +kernel, (right idle).2.2 (by decide)⟩

/-- A connector that fails and is named twice is asked once, and counted twice. -/
theorem fetch_counts_repeated_failure :
    let edr := Connector.failing "edr" ["file"] "down"
    let after := (empty 1000 8).fetch [] 0 1000 allFiles [edr, edr]
    after.1.requests = [.entities "edr"] ∧
      (((empty 1000 8).ask 0 1000 allFiles [edr, edr]).2.filter Reply.isFetched).length = 1 ∧
      after.2.report.requestsIssued = 2 := by
  decide +kernel

end Exchange
end ThreatHunt
