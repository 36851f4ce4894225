import ThreatHunt.Connector.Basic
import ThreatHunt.Pattern.Text
import ThreatHunt.Digest.Xxh3

/-!
The cache of answers. Calls for one key share one running request, a successful answer is kept for a
time, and of too many answers the one stored longest ago goes first. The cache is a state, and
calls, completions and clearing are its steps; times are milliseconds on a clock that does not go
back.
-/

namespace ThreatHunt

/-- What makes two requests to connectors the same. -/
structure FetchKey where
  connector : String
  entityType : String
  /-- The normal text of the pattern. -/
  pattern : String
  window : Option Window
  limit : Option Nat
  deriving DecidableEq, Repr, Inhabited

namespace FetchKey

def ofQuery (connector : String) (q : EntityQuery) : FetchKey :=
  ⟨connector, q.entityType, (q.pattern.map Pattern.normalText).getD "*", q.window, q.limit⟩

/-- A short text that stands for the key. -/
def digest (k : FetchKey) : String :=
  let window := (k.window.map Window.text).getD ""
  let limit := match k.limit with
    | some n => "Some(" ++ Nat.repr n ++ ")"
    | none => "None"
  Digest.ofText ("|".intercalate [k.connector, k.entityType, k.pattern, window, limit])

end FetchKey

/-- What a request came to. -/
abbrev FetchResult := Except Issue Response

/-- Where a result came from. -/
inductive Origin where
  /-- The caller started the request. -/
  | fetched
  /-- The answer was kept from an earlier request. -/
  | cached
  /-- The caller waited for a request that was already running. -/
  | shared
  deriving DecidableEq, Repr, Inhabited

def Origin.name : Origin → String
  | .fetched => "fetched"
  | .cached => "cached"
  | .shared => "shared"

structure CacheEntry where
  key : FetchKey
  response : Response
  storedAt : Nat
  deriving Inhabited

/-- A running request and its number. -/
structure Flight where
  key : FetchKey
  number : Nat
  deriving DecidableEq, Repr, Inhabited

structure CacheStats where
  hits : Nat
  misses : Nat
  shared : Nat
  evictions : Nat
  deriving DecidableEq, Repr, Inhabited

structure FetchCache where
  /-- How long an answer is kept, in milliseconds. -/
  lifetime : Nat
  /-- How many answers are kept. -/
  capacity : Nat
  /-- The answers in the order of their storing. -/
  entries : List CacheEntry
  flights : List Flight
  stats : CacheStats
  deriving Inhabited

/-- What a call is given at once. -/
inductive Ticket where
  | ready (response : Response)
  | joined (number : Nat)
  | started (number : Nat)
  deriving Inhabited

def Ticket.origin : Ticket → Origin
  | .ready _ => .cached
  | .joined _ => .shared
  | .started _ => .fetched

namespace FetchCache

def empty (lifetime capacity : Nat) : FetchCache := ⟨lifetime, capacity, [], [], ⟨0, 0, 0, 0⟩⟩

def entry? (c : FetchCache) (key : FetchKey) : Option CacheEntry :=
  c.entries.find? (fun e => e.key = key)

/-- Whether an entry is still kept. -/
def isLive (c : FetchCache) (now : Nat) (e : CacheEntry) : Bool := now - e.storedAt < c.lifetime

/-- The answer that is kept for a key. -/
def live? (c : FetchCache) (now : Nat) (key : FetchKey) : Option Response :=
  match c.entry? key with
  | some e => if c.isLive now e then some e.response else none
  | none => none

def flight? (c : FetchCache) (key : FetchKey) : Option Flight :=
  c.flights.find? (fun f => f.key = key)

def entriesWithout (c : FetchCache) (key : FetchKey) : List CacheEntry :=
  c.entries.filter (fun e => e.key ≠ key)

/-- Calls for a key: gives the kept answer, joins the running request or starts one. What is kept
too long is dropped on the way. -/
def ask (c : FetchCache) (now : Nat) (key : FetchKey) : FetchCache × Ticket :=
  match c.live? now key with
  | some response =>
    ({ c with stats := { c.stats with hits := c.stats.hits + 1 } }, .ready response)
  | none =>
    let entries := c.entriesWithout key
    match c.flight? key with
    | some f =>
      ({ c with entries := entries, stats := { c.stats with shared := c.stats.shared + 1 } },
        .joined f.number)
    | none =>
      let number := c.stats.misses
      ({ c with
          entries := entries
          flights := c.flights ++ [⟨key, number⟩]
          stats := { c.stats with misses := number + 1 } }, .started number)

/-- Stores an answer behind all others; the ones stored longest ago make room. -/
def store (c : FetchCache) (now : Nat) (key : FetchKey) (response : Response) : FetchCache :=
  if c.capacity = 0 then c
  else
    let entries := c.entriesWithout key ++ [⟨key, response, now⟩]
    let excess := entries.length - c.capacity
    { c with
      entries := entries.drop excess
      stats := { c.stats with evictions := c.stats.evictions + excess } }

/-- Ends the running request of a key. Only a successful answer is stored. -/
def complete (c : FetchCache) (now : Nat) (key : FetchKey) (result : FetchResult) : FetchCache :=
  let landed := { c with flights := c.flights.filter (fun f => f.key ≠ key) }
  match result with
  | .ok response => landed.store now key response
  | .error _ => landed

/-- Drops all answers; running requests go on. -/
def clear (c : FetchCache) : FetchCache := { c with entries := [] }

def size (c : FetchCache) : Nat := c.entries.length

end FetchCache
end ThreatHunt
