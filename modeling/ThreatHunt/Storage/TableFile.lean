import ThreatHunt.Storage.Tabular
import ThreatHunt.Storage.Csv
import ThreatHunt.Table.Document

/-!
Tables in files. The extension of a path decides the form: a file of columns, text with commas, or a
JSON document.
-/

namespace ThreatHunt.TableFile

inductive Form where
  | columns
  | csv
  | document
  deriving DecidableEq, Repr

def formOf (path : String) : Form :=
  match (Path.extension? path).map Text.lower with
  | some "parquet" => .columns
  | some "pq" => .columns
  | some "csv" => .csv
  | _ => .document

/-- The content of a file for a table. -/
def content (form : Form) (t : Table) : Except Trouble FileContent :=
  match form with
  | .columns => (fun f => .frame f) <$> Tabular.ofTable t
  | .csv => (fun f => .text (Csv.write f)) <$> Tabular.ofTable t
  | .document => .ok (.text t.toJson.indented)

/-- Creates the directory for a file if its path names one. -/
def prepare (d : Disk) (path : String) : Except Trouble Disk :=
  match Path.parent? path with
  | some directory =>
    if directory == "" then .ok d
    else DiskFault.during (.creatingDirectory directory) (d.createDirectories directory)
  | none => .ok d

/-- Writes a table into a directory that is there. -/
def put (d : Disk) (path : String) (t : Table) : Except Trouble Disk := do
  let form := formOf path
  let context := if form = .document then Context.writing path else Context.creating path
  let content ← content form t
  DiskFault.during context (d.write path content)

/-- Writes a table. The directories that were made for it stay even if it cannot be written. -/
def write (d : Disk) (path : String) (t : Table) : Disk × Except Trouble Unit :=
  match prepare d path with
  | .error trouble => (d, .error trouble)
  | .ok prepared =>
    match put prepared path t with
    | .error trouble => (prepared, .error trouble)
    | .ok written => (written, .ok ())

/-- A table document: a table whose schema may be missing. -/
structure Document where
  entityType : String
  schema : Option Schema
  rows : List Entity
  deriving Inhabited

open Json (Decoder)
open Json.Decoder

def Document.decoder : Decoder Document :=
  record "TableDocument"
    [field "entity_type" str (fun t d => { d with entityType := t }),
     fieldOr "schema" (option Schema.decoder) (fun s d => { d with schema := s }),
     field "rows" (list Entity.decoder) (fun rs d => { d with rows := rs })]
    default

/-- A declared schema with the columns that rows show beyond it. -/
def completeSchema (declared shown : Schema) : Schema :=
  { declared with
    columns := shown.columns.foldl (fun columns c =>
      if columns.any (fun d => d.name == c.name) then columns else columns ++ [c])
      declared.columns }

/-- The table of a document, of a given type or of its own. -/
def Document.toTable (entityType : Option String) (d : Document) : Table :=
  let type := entityType.getD d.entityType
  let table := Table.ofRows type (Table.mergeRows d.rows)
  match d.schema with
  | none => table
  | some declared =>
    { table with schema := completeSchema { declared with entityType := type } table.schema }

/-- The table that a JSON text holds: records, or a table document. -/
def ofJsonText (entityType : Option String) (text : String) : Except Trouble Table := do
  match ← (Json.read text).mapError Trouble.json with
  | .arr records =>
    let (type, rows) ← Records.typed entityType records
    return Table.ofRows type rows
  | .obj fields =>
    let document ← (Document.decoder.decodeJson (.obj fields)).mapError
      (fun fault => .within .readingTableDocument (.json fault))
    return document.toTable entityType
  | _ => .error .noTable

/-- The frame in a file of columns. -/
def readFrame (d : Disk) (path : String) : Except Trouble Frame := do
  match ← (d.read path).mapError Trouble.disk with
  | .frame f => return f
  | .text _ => .error (.stated "parquet: File out of specification: The file must end with PAR1")

/-- Reads a table, of a given type or of the one that the file names. -/
def read (d : Disk) (path : String) (entityType : Option String) : Except Trouble Table :=
  if !d.holds path then .error (.missingFile path)
  else
    match formOf path with
    | .columns => Tabular.toTable entityType <$> readFrame d path
    | .csv => do
      let text ← (d.readText path).mapError Trouble.disk
      return Tabular.toTable entityType (Csv.read text)
    | .document => do
      let text ← DiskFault.during (.reading path) (d.readText path)
      ofJsonText entityType text

end ThreatHunt.TableFile
