import ThreatHunt.Connector.Bundle
import ThreatHunt.Display.Grid
import ThreatHunt.Hunt.Basic
import ThreatHunt.Storage.Frame

/-!
The program: it runs a script that its arguments name, with connectors that its environment names,
and shows what the statements show. What goes wrong before the first statement ends the program.
-/

namespace ThreatHunt.Program

/-- The variable of the environment that names bundles. -/
def bundlesVariable : String := "HUNTFLOW_BUNDLES"

/-- The name and the path of a bundle, with an equals sign between them. -/
def bundleSpec (part : String) : Except Trouble (String × String) :=
  match part.splitOn "=" with
  | name :: next :: rest => .ok (Text.trim name, Text.trim ("=".intercalate (next :: rest)))
  | _ => .error (.badOption part)

/-- The bundles that a text lists with commas between them. -/
def bundleSpecs (text : String) : Except Trouble (List (String × String)) :=
  (((text.splitOn ",").map Text.trim).filter (fun part => part != "")).mapM bundleSpec

/-- The bundles that an environment names. -/
def bundlesOf (environment : Dict String) : Except Trouble (List (String × String)) :=
  match environment.find? bundlesVariable with
  | some text => bundleSpecs text
  | none => .ok []

/-- The script that the arguments name. -/
def scriptOf (disk : Disk) (args : List String) : Except Trouble String :=
  match args with
  | [] => .error .usage
  | path :: _ => DiskFault.during (.reading path) (disk.readText path)

/-- Opens a bundle and registers it. -/
def addBundle (h : Hunt) (spec : String × String) : Except Trouble Hunt :=
  match Bundle.open h.disk spec.2 with
  | .ok bundle => .ok (h.registerConnector (bundle.connector spec.1 h.config.timeAttributes))
  | .error trouble => .error (.within (.openingBundle spec.2) trouble)

/-- The script and the hunt in which it will run. -/
def prepare (args : List String) (environment : Dict String) (disk : Disk) :
    Except Trouble (String × Hunt) := do
  let script ← scriptOf disk args
  let bundles ← bundlesOf environment
  let h ← bundles.foldlM addBundle (Hunt.start (Config.ofEnvironment environment) disk)
  return (script, h)

/-- What is written to the two outputs. -/
structure Output where
  normal : String
  error : String
  deriving DecidableEq, Repr, Inhabited

namespace Output

def empty : Output := ⟨"", ""⟩

def append (a b : Output) : Output := ⟨a.normal ++ b.normal, a.error ++ b.error⟩

end Output

/-- What is written about a statement. -/
def outputOf (outcome : Except Failure Completion) : Output :=
  match outcome with
  | .error failure => ⟨"", failure.message ++ "\n"⟩
  | .ok c =>
    ⟨(c.display.map Display.text).getD "" ++
      String.join (c.summary.map (fun line => "-- " ++ line ++ "\n")), ""⟩

/-- A text behind a mark; further lines stand in as far as the first. -/
def hangingText (mark indent s : String) : String :=
  mark ++ ("\n" ++ indent).intercalate (s.splitOn "\n")

/-- The lines of the causes of a trouble. Several causes are numbered. -/
def causeLines (causes : List String) : List String :=
  match causes with
  | [one] => [hangingText "    " "    " one]
  | many => many.mapIdx (fun i cause => hangingText ("    " ++ Nat.repr i ++ ": ") "       " cause)

/-- The report of a trouble that ends the program. -/
def troubleText (t : Trouble) : String :=
  "Error: " ++ t.top ++ "\n" ++
    match t.layers.drop 1 with
    | [] => ""
    | causes => "\nCaused by:\n" ++ String.join ((causeLines causes).map (· ++ "\n"))

/-- The exit code after statements with given outcomes. -/
def exitCode (outcomes : List (Except Failure Completion)) : Nat :=
  if outcomes.all (fun o => o.isOk) then 0 else 1

/-- A whole run: what is written, the exit code and the changed disk. -/
def run (now : Moment) (args : List String) (environment : Dict String) (disk : Disk) :
    Output × Nat × Disk :=
  match prepare args environment disk with
  | .error trouble => (⟨"", troubleText trouble⟩, 1, disk)
  | .ok (script, h) =>
    let (h, outcomes) := h.execute now script
    ((outcomes.map outputOf).foldl Output.append Output.empty, exitCode outcomes, h.disk)

/-!
The files of a run. Which files a run may read or write is seen from its arguments, its environment
and its script, and what it changed is seen by comparing the disk before and after.
-/

/-- The places to which the parts of a path lead one after another. -/
def placesFrom (here : Place) : List String → List Place
  | [] => []
  | part :: rest =>
    let next := if part == "" || part == "." then here
      else if part == ".." then here.up
      else here.down part
    next :: placesFrom next rest

/-- The places on the way of a path. -/
def placesOn (path : String) : List Place :=
  placesFrom ⟨Path.isAbsolute path, []⟩ (path.splitOn "/")

/-- The paths of the files that a statement may read or write. -/
def pathsOf (config : Config) : Command → List String
  | .get _ sources _ _ _ =>
    sources.filterMap (fun source =>
      match source with
      | .uri u => if u.startsWith Path.fileScheme then some (Scene.bundlePath u) else none
      | .named _ => none)
  | .save _ target => [Path.ofTarget config.storeRoot target]
  | .load target _ => [Path.ofTarget config.storeRoot target]
  | _ => []

/-- The paths of the files that the statements of a script may read or write. -/
def scriptPaths (config : Config) (script : String) : List String :=
  (Script.read script).flatMap (fun r =>
    match r with
    | .ok placed => pathsOf config placed.statement.command
    | .error _ => [])

/-- The paths of the bundles that an environment names. -/
def bundlePaths (environment : Dict String) : List String :=
  match bundlesOf environment with
  | .ok specs => specs.map Prod.snd
  | .error _ => []

/-- The content of the file at a path: a table of columns if its name says so and the text is
one. -/
def contentOf (path : String) (text : Option String) : FileContent :=
  match text with
  | none => .frame ⟨[]⟩
  | some s =>
    match TableFile.formOf path with
    | .columns => ((Frame.ofText? s).map FileContent.frame).getD (.text s)
    | _ => .text s

/-- The text of a file. -/
def textOf : FileContent → String
  | .text s => s
  | .frame f => f.toText

/-- Something that a run left on the disk. -/
inductive Change where
  | directory (path : String)
  | file (path text : String)
  deriving DecidableEq, Repr

/-- Whether a disk already holds an entry. -/
def isKept (before : Disk) (key : String) (entry : DiskEntry) : Bool :=
  match before.entries.find? key, entry with
  | some .directory, .directory => true
  | some (.file old), .file new => textOf old == textOf new
  | _, _ => false

/-- What has to be written so that one disk becomes another; directories come before what they
hold. -/
def changes (before after : Disk) : List Change :=
  (after.entries.entries.filter (fun e => !isKept before e.1 e.2)).map (fun e =>
    match e.2 with
    | .directory => .directory e.1
    | .file content => .file e.1 (textOf content))

end ThreatHunt.Program
