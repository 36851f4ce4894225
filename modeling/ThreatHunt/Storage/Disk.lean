import ThreatHunt.Dict
import ThreatHunt.Storage.Frame

/-!
Paths, and the files that a hunt reads and writes. A path is a text of parts with slashes between
them; empty parts, and dots other than one at the front of a relative path, stand for nothing. A
disk is a tree of directories and files below a working directory and a root, and each operation
gives the changed disk or the fault that stopped it.
-/

namespace ThreatHunt.Path

def isAbsolute (path : String) : Bool := path.toList.head? == some '/'

/-- The text with a part before and a part behind one slash; an absolute part replaces all. -/
def join (base path : String) : String :=
  if isAbsolute path || base == "" then path
  else if base.toList.getLast? == some '/' then base ++ path
  else base ++ "/" ++ path

/-- The mark of a path to a file of this machine. -/
def fileScheme : String := "file://"

/-- The path of a target below a directory. The mark of a file may stand before it. -/
def ofTarget (root target : String) : String :=
  let path := if target.startsWith fileScheme then
      String.ofList (target.toList.drop fileScheme.length)
    else target
  join root path

/-- Drops the parts at the end that stand for nothing. -/
def trimParts (parts : List String) : List String :=
  (parts.reverse.dropWhile (fun p => p == "" || p == ".")).reverse

/-- The first part, and the others without those at the end that stand for nothing. -/
def parts (path : String) : String × List String :=
  match path.splitOn "/" with
  | [] => ("", [])
  | first :: rest => (first, trimParts rest)

/-- The path of the directory that holds an entry; the root and the empty path have none. -/
def parent? (path : String) : Option String :=
  match parts path with
  | (first, []) => if first == "" then none else some ""
  | (first, rest) =>
    match trimParts rest.dropLast with
    | [] => some (if first == "" then "/" else first)
    | front => some ("/".intercalate (first :: front))

/-- The last part, if it names an entry. -/
def fileName? (path : String) : Option String :=
  let (first, rest) := parts path
  let name := rest.getLast?.getD first
  if name == "" || name == "." || name == ".." then none else some name

/-- What follows the last dot of a file's name, if something stands before the dot. -/
def extension? (path : String) : Option String :=
  match fileName? path with
  | none => none
  | some name =>
    let cs := name.toList.reverse
    let tail := cs.takeWhile (· != '.')
    match cs.drop tail.length with
    | _ :: _ :: _ => some (String.ofList tail.reverse)
    | _ => none

end ThreatHunt.Path

namespace ThreatHunt

/-- The content of a file: a text, or the columns of a tabular file. -/
inductive FileContent where
  | text (text : String)
  | frame (frame : Frame)
  deriving Repr, Inhabited

inductive DiskEntry where
  | directory
  | file (content : FileContent)
  deriving Repr, Inhabited

/-- Why the disk refused an operation. -/
inductive DiskFault where
  | notFound
  | alreadyThere
  | notDirectory
  | isDirectory
  | notText
  deriving DecidableEq, Repr

def DiskFault.message : DiskFault → String
  | .notFound => "No such file or directory (os error 2)"
  | .alreadyThere => "File exists (os error 17)"
  | .notDirectory => "Not a directory (os error 20)"
  | .isDirectory => "Is a directory (os error 21)"
  | .notText => "stream did not contain valid UTF-8"

/-- A place on the disk: parts below the root or below the working directory. -/
structure Place where
  absolute : Bool
  parts : List String
  deriving DecidableEq, Repr

namespace Place

/-- The root, the working directory and what lies above it are always there. -/
def isFixed (p : Place) : Bool := p.parts.all (· == "..")

/-- One step up; above the root lies the root. -/
def up (p : Place) : Place :=
  if p.isFixed then (if p.absolute then p else { p with parts := p.parts ++ [".."] })
  else { p with parts := p.parts.dropLast }

def down (p : Place) (name : String) : Place := { p with parts := p.parts ++ [name] }

def key (p : Place) : String := (if p.absolute then "/" else "") ++ "/".intercalate p.parts

end Place

/-- The entries of a disk under the keys of their places. -/
structure Disk where
  entries : Dict DiskEntry
  deriving Inhabited

namespace Disk

def empty : Disk := ⟨Dict.empty⟩

def entry? (d : Disk) (p : Place) : Option DiskEntry :=
  if p.isFixed then some .directory else d.entries.find? p.key

/-- Follows the parts of a path; all that is stepped through must be a directory. -/
def follow (d : Disk) (here : Place) : List String → Except DiskFault Place
  | [] => .ok here
  | part :: rest =>
    match d.entry? here with
    | none => .error .notFound
    | some (.file _) => .error .notDirectory
    | some .directory =>
      if part == "" || part == "." then d.follow here rest
      else if part == ".." then d.follow here.up rest
      else d.follow (here.down part) rest

/-- The parts of a path. The empty path leads nowhere, and a path that ends in a slash leads to a
directory. -/
def locate (d : Disk) (path : String) : Except DiskFault Place :=
  if path == "" then .error .notFound
  else if Path.isAbsolute path then d.follow ⟨true, []⟩ ((path.splitOn "/").drop 1)
  else d.follow ⟨false, []⟩ (path.splitOn "/")

/-- The entry at a path. -/
def lookup (d : Disk) (path : String) : Except DiskFault DiskEntry := do
  let place ← d.locate path
  match d.entry? place with
  | some entry => .ok entry
  | none => .error .notFound

def holds (d : Disk) (path : String) : Bool := (d.lookup path).toOption.isSome

def isDirectory (d : Disk) (path : String) : Bool :=
  match d.lookup path with
  | .ok .directory => true
  | _ => false

def read (d : Disk) (path : String) : Except DiskFault FileContent := do
  match ← d.lookup path with
  | .file content => .ok content
  | .directory => .error .isDirectory

def readText (d : Disk) (path : String) : Except DiskFault String := do
  match ← d.read path with
  | .text s => .ok s
  | .frame _ => .error .notText

/-- Creates or replaces a file in a directory that is there. A path that ends in a slash names no
file. -/
def write (d : Disk) (path : String) (content : FileContent) : Except DiskFault Disk :=
  let parts := path.splitOn "/"
  let names := (parts.reverse.dropWhile (· == "")).reverse
  if path == "" then .error .notFound
  else do
    let front := if Path.isAbsolute path then names.dropLast.drop 1 else names.dropLast
    let here ← d.follow ⟨Path.isAbsolute path, []⟩ (front ++ ["."])
    match names.getLast? with
    | none => .error .isDirectory
    | some name =>
      let place := here.down name
      if names.length < parts.length || name == "." || name == ".." then .error .isDirectory
      else
        match d.entry? place with
        | some .directory => .error .isDirectory
        | _ => .ok ⟨d.entries.insert place.key (.file content)⟩

/-- Creates one directory in a directory that is there. -/
def createDirectory (d : Disk) (path : String) : Except DiskFault Disk :=
  if path == "" then .error .notFound
  else
    let (first, rest) := Path.parts path
    let names := if Path.isAbsolute path then rest else first :: rest
    do
      let here ← d.follow ⟨Path.isAbsolute path, []⟩ (names.dropLast ++ ["."])
      match names.getLast? with
      | none => .error .alreadyThere
      | some name =>
        if name == "." || name == ".." then .error .alreadyThere
        else
          let place := here.down name
          match d.entry? place with
          | some _ => .error .alreadyThere
          | none => .ok ⟨d.entries.insert place.key .directory⟩

/-- Creates a directory and the ones above it; `fuel` bounds the length of the path. -/
def createDirectoriesFrom : Nat → Disk → String → Except DiskFault Disk
  | 0, _, _ => .error .notFound
  | fuel + 1, d, path =>
    if path == "" then .ok d
    else
      match d.createDirectory path with
      | .ok d => .ok d
      | .error .notFound =>
        match Path.parent? path with
        | none => .error .notFound
        | some parent => do
          let d ← createDirectoriesFrom fuel d parent
          match d.createDirectory path with
          | .ok d => .ok d
          | .error fault => if d.isDirectory path then .ok d else .error fault
      | .error fault => if d.isDirectory path then .ok d else .error fault

/-- Creates a directory and the ones above it. -/
def createDirectories (d : Disk) (path : String) : Except DiskFault Disk :=
  createDirectoriesFrom (path.length + 1) d path

end Disk
end ThreatHunt
