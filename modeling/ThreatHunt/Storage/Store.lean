import ThreatHunt.Storage.TableFile

/-!
The store of tables and of the relationships that were seen. A table takes rows through `append`,
which takes all of them or none.
-/

namespace ThreatHunt

structure StoredTable where
  handle : TableHandle
  schema : Schema
  rows : List Entity
  /-- The identifiers that are taken. -/
  ids : List String
  deriving Inhabited

structure Store where
  /-- The tables in the order of their creation. -/
  tables : List StoredTable
  /-- The number of tables that were ever created. -/
  created : Nat
  edges : List Edge
  deriving Inhabited

namespace Store

def empty : Store := ⟨[], 0, []⟩

def find? (s : Store) (handle : TableHandle) : Option StoredTable :=
  s.tables.find? (fun t => t.handle == handle)

/-- The table of a handle, or the trouble that there is none. -/
def get (s : Store) (handle : TableHandle) : Except Trouble StoredTable :=
  match s.find? handle with
  | some t => .ok t
  | none => .error (.unknownTable handle)

/-- Creates an empty table under a handle that was never used. -/
def createTable (s : Store) (schema : Schema) : TableHandle × Store :=
  let handle : TableHandle := ⟨s.created + 1⟩
  (handle, { s with tables := s.tables ++ [⟨handle, schema, [], []⟩], created := s.created + 1 })

/-- Why a row cannot join a table, if so; `taken` are the identifiers that are not free. -/
def rowTrouble? (t : StoredTable) (taken : List String) (row : Entity) : Option Trouble :=
  if row.id == "" then some (.missingId t.handle)
  else if taken.contains row.id then some (.repeatedId row.id t.handle)
  else (row.attributes.names.find? (fun n => !t.schema.has n)).map
    (fun n => .foreignAttribute n t.handle)

/-- The first trouble with a batch of rows. -/
def batchTrouble? (t : StoredTable) : List String → List Entity → Option Trouble
  | _, [] => none
  | taken, row :: rest =>
    match rowTrouble? t taken row with
    | some trouble => some trouble
    | none => batchTrouble? t (row.id :: taken) rest

/-- A table with further rows, or the first trouble with them. -/
def extend (t : StoredTable) (rows : List Entity) : Except Trouble StoredTable :=
  match batchTrouble? t t.ids rows with
  | some trouble => .error trouble
  | none => .ok
    { t with
      rows := t.rows ++ Table.conformRows t.schema rows
      ids := t.ids ++ rows.map Entity.id }

/-- Appends rows to a table: all of them or none. -/
def append (s : Store) (handle : TableHandle) (rows : List Entity) : Except Trouble Store := do
  let t ← s.get handle
  let extended ← extend t rows
  return { s with tables := s.tables.map (fun u => if u.handle = handle then extended else u) }

/-- Drops a table, if it is there. -/
def dropTable (s : Store) (handle : TableHandle) : Store :=
  { s with tables := s.tables.filter (fun t => t.handle != handle) }

/-- Creates a table with rows. The handle is used up even if the rows are refused. -/
def createWithRows (s : Store) (t : Table) : Except Trouble TableHandle × Store :=
  let (handle, created) := s.createTable t.schema
  match created.append handle t.rows with
  | .ok filled => (.ok handle, filled)
  | .error trouble => (.error trouble, created.dropTable handle)

/-- The rows of a table that pass a test, in the order of their arrival. -/
def query (s : Store) (handle : TableHandle) (keep : Entity → Bool) :
    Except Trouble (List Entity) := do
  let t ← s.get handle
  return t.rows.filter keep

def describe (s : Store) (handle : TableHandle) : Except Trouble Schema :=
  StoredTable.schema <$> s.get handle

/-- A stored table as a table. -/
def table (s : Store) (handle : TableHandle) : Except Trouble Table :=
  (fun t => Table.ofSchema t.schema t.rows) <$> s.get handle

/-- Records relationships that were seen; one that is known already keeps its first sighting. -/
def recordEdges (s : Store) (edges : List Edge) : Store :=
  { s with edges := Edge.recordAll s.edges edges }

/-- The recorded relationships, of one relation if it is given. -/
def edgesOf (s : Store) (relation : Option String) : List Edge :=
  match relation with
  | some r => s.edges.filter (fun e => e.relation == r)
  | none => s.edges

/-- Writes a table into a file; gives the number of its rows. -/
def persist (s : Store) (d : Disk) (handle : TableHandle) (path : String) :
    Disk × Except Trouble Nat :=
  match s.table handle with
  | .error trouble => (d, .error trouble)
  | .ok t =>
    let (d, written) := TableFile.write d path t
    (d, written.map (fun _ => t.rows.length))

end Store
end ThreatHunt
