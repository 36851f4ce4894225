import ThreatHunt.CommandLine.Program
import Std.Time.DateTime.Timestamp

/-!
The command line.
-/

namespace ThreatHunt.Program

/-- The variables of the environment that the program looks at. -/
def variableNames : List String :=
  bundlesVariable ::
    ["DEFAULT_VARIABLE", "DEFAULT_SORT_ORDER", "CACHE_TTL_SECS", "CACHE_MAX_ENTRIES",
      "CONNECTOR_TIMEOUT_MS", "MAX_PARALLEL_CONNECTORS", "ANALYTICS_TIMEOUT_MS",
      "WINDOW_GRANULARITY_SECS", "TIME_ATTRIBUTES", "STORE_ROOT", "HALT_ON_ERROR",
      "SHOW_EXECUTION_SUMMARY"].map (fun name => "HUNTFLOW_" ++ name)

def environment : IO (Dict String) := do
  let mut found := Dict.empty
  for name in variableNames do
    if let some value ← IO.getEnv name then
      found := found.insert name value
  return found

/-- The time of day and the milliseconds since some fixed moment. -/
def moment : IO Moment := do
  let nanos := (← Std.Time.Timestamp.now).toNanosecondsSinceUnixEpoch.val
  let billion : Int := Instant.billion
  return ⟨⟨nanos.fdiv billion, (nanos.fmod billion).toNat⟩, ← IO.monoMsNow⟩

/-- What stands at a place; a place that cannot be read as a file counts as a directory. -/
def entryAt (key : String) : IO (Option DiskEntry) := do
  try
    let bytes ← IO.FS.readBinFile key
    return some (.file (contentOf key (String.fromUTF8? bytes)))
  catch e =>
    match e with
    | .noFileOrDirectory .. => return none
    | _ => return some .directory

/-- Takes what stands on the way of a path into a disk, as far as the way leads. -/
def loadPlaces (d : Disk) : List Place → IO Disk
  | [] => return d
  | place :: rest => do
    if place.isFixed then loadPlaces d rest
    else
      match ← entryAt place.key with
      | none => return d
      | some entry =>
        let d : Disk := ⟨d.entries.insert place.key entry⟩
        match entry with
        | .directory => loadPlaces d rest
        | .file _ => return d

def loadPaths (d : Disk) (paths : List String) : IO Disk :=
  paths.foldlM (fun d path => loadPlaces d (placesOn path)) d

/-- Writes what a run changed. -/
def writeChange : Change → IO Unit
  | .directory path => IO.FS.createDirAll path
  | .file path text => IO.FS.writeFile path text

def write (output : Output) : IO Unit := do
  IO.print output.normal
  IO.eprint output.error

/-- Runs statements one after another, each at its own time; says whether all succeeded. -/
def runStatements (h : Hunt) : List (Except Failure PlacedStatement) → IO Bool
  | [] => return true
  | statement :: rest => do
    let (next, outcome) := h.step (← moment) statement
    (changes h.disk next.disk).forM writeChange
    write (outputOf outcome)
    if h.haltsAfter outcome then return false
    else
      let others ← runStatements next rest
      return outcome.isOk && others

/-- Runs the program; gives the exit code. -/
def launch (args : List String) : IO UInt32 := do
  let environment ← environment
  let disk ← loadPaths Disk.empty (args.take 1 ++ bundlePaths environment)
  match prepare args environment disk with
  | .error trouble =>
    IO.eprint (troubleText trouble)
    return 1
  | .ok (script, h) =>
    let disk ← loadPaths h.disk (scriptPaths h.config script)
    let succeeded ← runStatements { h with disk := disk } (Script.read script)
    return if succeeded then 0 else 1

end ThreatHunt.Program

def main (args : List String) : IO UInt32 := ThreatHunt.Program.launch args
