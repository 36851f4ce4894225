import ThreatHunt.Fetch.Merge
import ThreatHunt.Connector.Basic

/-!
The exchange with connectors: requests in order, and the cache before them. All connectors of a
fetch are called for before the first of its requests comes back, so one that is named twice is
asked once.
-/

namespace ThreatHunt

/-- A request that was made. -/
inductive Request where
  | entities (connector : String)
  | relation (connector : String)
  | module (name : String)
  deriving DecidableEq, Repr, Inhabited

/-- What requests change: the cache, and the list of all requests. -/
structure Exchange where
  cache : FetchCache
  requests : List Request
  deriving Inhabited

namespace Exchange

def empty (lifetime capacity : Nat) : Exchange := ⟨FetchCache.empty lifetime capacity, []⟩

/-- The number of requests so far. -/
def count (x : Exchange) : Nat := x.requests.length

def record (x : Exchange) (r : Request) : Exchange := { x with requests := x.requests ++ [r] }

/-- Calls for the answers of connectors, in order. -/
def calls (now : Nat) (q : EntityQuery) (cache : FetchCache) :
    List Connector → FetchCache × List (Connector × Ticket)
  | [] => (cache, [])
  | c :: rest =>
    let (cache, ticket) := cache.ask now (FetchKey.ofQuery c.name q)
    let (cache, tickets) := calls now q cache rest
    (cache, (c, ticket) :: tickets)

/-- Makes the requests that calls started, in order; gives the results by their numbers. -/
def settle (now patience : Nat) (q : EntityQuery) (x : Exchange) :
    List (Connector × Ticket) → Exchange × List (Nat × FetchResult)
  | [] => (x, [])
  | (c, .started number) :: rest =>
    let result := (c.client.answer x.count q).within (c.patience patience)
    let cache := x.cache.complete now (FetchKey.ofQuery c.name q) result
    let (x, results) :=
      settle now patience q ({ x with cache := cache }.record (.entities c.name)) rest
    (x, (number, result) :: results)
  | _ :: rest => settle now patience q x rest

/-- The result that a ticket stands for. A request that does not come back has no answer. -/
def resultOf (patience : Nat) (results : List (Nat × FetchResult)) : Ticket → FetchResult
  | .ready response => .ok response
  | .joined number | .started number =>
    (results.lookup number).getD (.error (.timedOut patience))

/-- The replies of connectors to a query. -/
def ask (now patience : Nat) (q : EntityQuery) (connectors : List Connector) (x : Exchange) :
    Exchange × List Reply :=
  let (cache, tickets) := calls now q x.cache connectors
  let (x, results) := settle now patience q { x with cache := cache } tickets
  (x, tickets.map (fun t => ⟨t.1.name, resultOf (t.1.patience patience) results t.2, t.2.origin⟩))

/-- Fetches entities from connectors and merges the replies. -/
def fetch (timeAttributes : List String) (now patience : Nat) (q : EntityQuery)
    (connectors : List Connector) (x : Exchange) : Exchange × Fetched :=
  let (x, replies) := x.ask now patience q connectors
  (x, Merge.replies timeAttributes q replies)

/-- The edges that connectors found, and their parts. -/
structure Related where
  edges : List Edge
  outcomes : List Outcome
  deriving Inhabited

/-- Whether an edge is of a relation; every edge is of the relation `linked`. -/
def isOf (relation : String) (e : Edge) : Bool := e.relation == relation || relation == "linked"

/-- Asks connectors for the edges of a relation, in order. Such answers are not kept. -/
def relate (patience : Nat) (q : RelationQuery) (x : Exchange) :
    List Connector → Exchange × Related
  | [] => (x, ⟨[], []⟩)
  | c :: rest =>
    let result := (c.client.relate x.count q).within (c.patience patience)
    let (x, others) := relate patience q (x.record (.relation c.name)) rest
    match result with
    | .ok found =>
      (x, ⟨found.filter (isOf q.relation) ++ others.edges,
        ⟨c.name, .complete .fetched, found.length⟩ :: others.outcomes⟩)
    | .error issue => (x, ⟨others.edges, ⟨c.name, .degraded issue, 0⟩ :: others.outcomes⟩)

end Exchange
end ThreatHunt
