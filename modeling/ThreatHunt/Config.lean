import ThreatHunt.Command.Basic
import ThreatHunt.Json.Decode
import ThreatHunt.Text.Words

/-!
The configuration of a hunt. Each field has a default, a document may name any of them, and
variables of the environment may set them.
-/

namespace ThreatHunt

structure Config where
  /-- The name that takes the result of a statement without one, and the input of a command without
  one. -/
  defaultVariable : String
  defaultOrder : SortOrder
  cacheSeconds : Nat
  cacheEntries : Nat
  connectorMillis : Nat
  parallelConnectors : Nat
  moduleMillis : Nat
  /-- Windows up to now end on a multiple of so many seconds. -/
  windowGranularity : Nat
  /-- The attributes that hold instants. -/
  timeAttributes : List String
  /-- The directory of relative paths. -/
  storeRoot : String
  haltOnError : Bool
  showSummary : Bool
  deriving DecidableEq, Repr, Inhabited

namespace Config

def standard : Config :=
  { defaultVariable := "_", defaultOrder := .descending, cacheSeconds := 300, cacheEntries := 1024,
    connectorMillis := 30000, parallelConnectors := 8, moduleMillis := 60000,
    windowGranularity := 60,
    timeAttributes := ["first_observed", "last_observed", "timestamp"],
    storeRoot := "./huntflow-data", haltOnError := false, showSummary := true }

/-- How long an answer is kept, in milliseconds. -/
def cacheMillis (c : Config) : Nat := c.cacheSeconds * 1000

/-! Documents. -/

open Json (Decoder)
open Json.Decoder

def orderDecoder : Decoder SortOrder :=
  variant ([SortOrder.ascending, .descending].map (fun o => (o.name, o)))

/-- The fields of a configuration document, put over a given configuration. -/
def decoder (start : Config) : Decoder Config :=
  record "HuntConfig"
    [fieldOr "default_variable" str (fun s c => { c with defaultVariable := s }),
     fieldOr "default_sort_order" orderDecoder (fun o c => { c with defaultOrder := o }),
     fieldOr "cache_ttl_secs" (nat "u64") (fun n c => { c with cacheSeconds := n }),
     fieldOr "cache_max_entries" (nat "usize") (fun n c => { c with cacheEntries := n }),
     fieldOr "connector_timeout_ms" (nat "u64") (fun n c => { c with connectorMillis := n }),
     fieldOr "max_parallel_connectors" (nat "usize")
       (fun n c => { c with parallelConnectors := n }),
     fieldOr "analytics_timeout_ms" (nat "u64") (fun n c => { c with moduleMillis := n }),
     fieldOr "window_granularity_secs" (nat "u64") (fun n c => { c with windowGranularity := n }),
     fieldOr "time_attributes" (list str) (fun names c => { c with timeAttributes := names }),
     fieldOr "store_root" (text "path string") (fun s c => { c with storeRoot := s }),
     fieldOr "halt_on_error" bool (fun b c => { c with haltOnError := b }),
     fieldOr "show_execution_summary" bool (fun b c => { c with showSummary := b })]
    start

/-- The fields of the document of a configuration. -/
def fields (c : Config) : List (String × Json) :=
  [("default_variable", .str c.defaultVariable), ("default_sort_order", .str c.defaultOrder.name),
   ("cache_ttl_secs", .int c.cacheSeconds), ("cache_max_entries", .int c.cacheEntries),
   ("connector_timeout_ms", .int c.connectorMillis),
   ("max_parallel_connectors", .int c.parallelConnectors),
   ("analytics_timeout_ms", .int c.moduleMillis),
   ("window_granularity_secs", .int c.windowGranularity),
   ("time_attributes", .arr (c.timeAttributes.map .str)), ("store_root", .str c.storeRoot),
   ("halt_on_error", .bool c.haltOnError), ("show_execution_summary", .bool c.showSummary)]

/-! The environment. -/

/-- Changes a configuration by a variable of the environment that is set and readable. -/
def change {α : Type} (environment : Dict String) (name : String) (read? : String → Option α)
    (set : α → Config → Config) (c : Config) : Config :=
  match (environment.find? name).bind read? with
  | some a => set a c
  | none => c

def readText? (s : String) : Option String :=
  let trimmed := Text.trim s
  if trimmed == "" then none else some trimmed

def readOrder? (s : String) : Option SortOrder :=
  match Text.lower (Text.trim s) with
  | "asc" => some .ascending
  | "desc" => some .descending
  | _ => none

def readNat? (s : String) : Option Nat := Text.readNat? Text.natBound64 (Text.trim s)

/-- A number that counts as one if it is zero. -/
def readPositive? (s : String) : Option Nat := (readNat? s).map (max 1)

/-- Each text says yes or no. -/
def readBool? (s : String) : Option Bool :=
  some (["1", "true", "yes", "on"].contains (Text.lower (Text.trim s)))

/-- Names with commas between them; at least one. -/
def readNames? (s : String) : Option (List String) :=
  let names := ((s.splitOn ",").map Text.trim).filter (fun n => n != "")
  if names.isEmpty then none else some names

/-- The standard configuration, changed by the variables of an environment. -/
def ofEnvironment (environment : Dict String) : Config :=
  let change {α : Type} (name : String) (read? : String → Option α)
      (set : α → Config → Config) (c : Config) : Config :=
    change environment ("HUNTFLOW_" ++ name) read? set c
  standard
    |> change "DEFAULT_VARIABLE" readText? (fun s c => { c with defaultVariable := s })
    |> change "DEFAULT_SORT_ORDER" readOrder? (fun o c => { c with defaultOrder := o })
    |> change "CACHE_TTL_SECS" readNat? (fun n c => { c with cacheSeconds := n })
    |> change "CACHE_MAX_ENTRIES" readNat? (fun n c => { c with cacheEntries := n })
    |> change "CONNECTOR_TIMEOUT_MS" readNat? (fun n c => { c with connectorMillis := n })
    |> change "MAX_PARALLEL_CONNECTORS" readPositive?
      (fun n c => { c with parallelConnectors := n })
    |> change "ANALYTICS_TIMEOUT_MS" readNat? (fun n c => { c with moduleMillis := n })
    |> change "WINDOW_GRANULARITY_SECS" readPositive? (fun n c => { c with windowGranularity := n })
    |> change "TIME_ATTRIBUTES" readNames? (fun names c => { c with timeAttributes := names })
    |> change "STORE_ROOT" readText? (fun s c => { c with storeRoot := s })
    |> change "HALT_ON_ERROR" readBool? (fun b c => { c with haltOnError := b })
    |> change "SHOW_EXECUTION_SUMMARY" readBool? (fun b c => { c with showSummary := b })

end Config
end ThreatHunt
