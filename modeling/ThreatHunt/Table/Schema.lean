import ThreatHunt.Value.Basic
import ThreatHunt.Dict

/-!
Schemas: the columns of a table and their kinds, in order. Kinds form a lattice with `null` at the
bottom, `int` below `float` and `untyped` at the top; combining schemas takes least upper bounds
and reports the columns whose kinds do not fit together.
-/

namespace ThreatHunt

/-- The common kind of two kinds, or none where only `untyped` would hold both. -/
def Kind.unify? (a b : Kind) : Option Kind :=
  if a = b then some a
  else
    match a, b with
    | .null, b => some b
    | a, .null => some a
    | .int, .float => some .float
    | .float, .int => some .float
    | _, _ => none

/-- The least kind above two kinds. -/
def Kind.join (a b : Kind) : Kind :=
  if a = .untyped ∨ b = .untyped then .untyped else (a.unify? b).getD .untyped

structure Column where
  name : String
  kind : Kind
  deriving DecidableEq, Repr, Inhabited

structure Schema where
  entityType : String
  columns : List Column
  deriving DecidableEq, Repr, Inhabited

/-- The type of tables whose rows have no type of their own. -/
def genericType : String := "record"

/-- Types whose members may be joined or related with each other. -/
def typeGroups : List (List String) :=
  [["ipv4-addr", "ipv6-addr", "mac-addr", "domain-name"], ["file", "directory"]]

/-- Whether rows of two types may be put together. -/
def compatibleTypes (a b : String) : Bool :=
  a == b || a == genericType || b == genericType ||
    typeGroups.any (fun group => group.contains a && group.contains b)

namespace Schema

def empty (entityType : String) : Schema := ⟨entityType, []⟩

def names (s : Schema) : List String := s.columns.map Column.name

def column? (s : Schema) (name : String) : Option Column :=
  s.columns.find? (fun c => c.name == name)

/-- Whether rows have an attribute; all have the row id under the name `id`. -/
def has (s : Schema) (name : String) : Bool := name == "id" || s.names.contains name

/-- The kind of an attribute; row ids are texts. -/
def kindOf? (s : Schema) (name : String) : Option Kind :=
  match s.column? name with
  | some c => some c.kind
  | none => if name == "id" then some .str else none

/-- Keeps the named columns, in the order of the names. -/
def project (s : Schema) (names : List String) : Schema :=
  { s with columns := names.filterMap s.column? }

/-- Changes the first column of a name, or puts a new one at the end. -/
def changeColumn (name : String) (change : Kind → Kind) (fresh : Kind) : List Column → List Column
  | [] => [⟨name, fresh⟩]
  | c :: rest =>
    if c.name = name then ⟨c.name, change c.kind⟩ :: rest
    else c :: changeColumn name change fresh rest

/-- Adds a column, or widens the one of that name; a kind that does not fit makes it `untyped`. -/
def upsert (s : Schema) (name : String) (kind : Kind) : Schema :=
  { s with
    columns := changeColumn name (fun old => (old.unify? kind).getD .untyped) kind s.columns }

/-- Takes one declared kind into the columns. A column whose kinds do not fit together stays
`untyped`. -/
def observe (columns : List Column) (name : String) (kind : Kind) : List Column :=
  changeColumn name (Kind.join · kind) kind columns

/-- Takes one value into the kinds that are shown under names. From the first value that does not fit
those before it a name shows no kind. -/
def showKind (name : String) (kind : Kind) :
    List (String × Option Kind) → List (String × Option Kind)
  | [] => [(name, some kind)]
  | (other, shown) :: rest =>
    if other = name then (other, shown.bind (·.unify? kind)) :: rest
    else (other, shown) :: showKind name kind rest

/-- The columns of rows in the order in which they are first seen. One whose values do not fit
together is `untyped`. -/
def infer (entityType : String) (rows : List (Dict Value)) : Schema :=
  let shown := rows.foldl (fun shown row =>
    row.entries.foldl (fun shown e => showKind e.1 e.2.kind shown) shown) []
  ⟨entityType, shown.map (fun s => ⟨s.1, s.2.getD .untyped⟩)⟩

/-- Gives a row a null under every column that it lacks. -/
def conform (s : Schema) (row : Dict Value) : Dict Value :=
  s.columns.foldl (fun row c => if row.contains c.name then row else row.insert c.name .null) row

end Schema

/-- A column whose kinds in several schemas do not fit together. -/
structure KindConflict where
  name : String
  kinds : List Kind
  deriving DecidableEq, Repr, Inhabited

def KindConflict.message (c : KindConflict) : String :=
  "attribute '" ++ c.name ++ "' has conflicting types (" ++
    ", ".intercalate (c.kinds.map Kind.name) ++ "); kept as untyped"

structure Unified where
  schema : Schema
  conflicts : List KindConflict
  deriving DecidableEq, Repr, Inhabited

namespace Schema

/-- The type that all schemas share, or the generic type. -/
def commonType : List Schema → String
  | [] => genericType
  | first :: rest =>
    if rest.all (fun s => s.entityType == first.entityType) then first.entityType else genericType

/-- The items of a list in the order in which they are first seen. -/
def distinct {α : Type} [BEq α] (items : List α) : List α :=
  items.foldl (fun seen x => if seen.contains x then seen else seen ++ [x]) []

/-- The kinds that a column of a name has in a list of columns. -/
def kindsOf (name : String) (columns : List Column) : List Kind :=
  distinct ((columns.filter (fun c => c.name == name)).map Column.kind)

/-- The kinds of a conflict: what is null or already untyped takes no part. -/
def conflict? (all : List Column) (c : Column) : Option KindConflict :=
  let kinds := (kindsOf c.name all).filter (fun k => k != .untyped && k != .null)
  if c.kind = .untyped ∧ 1 < kinds.length then some ⟨c.name, kinds⟩ else none

/-- One schema for rows of all given schemas. -/
def unify (schemas : List Schema) : Unified :=
  let all := schemas.flatMap Schema.columns
  let columns := all.foldl (fun columns c => observe columns c.name c.kind) []
  ⟨⟨commonType schemas, columns⟩, columns.filterMap (conflict? all)⟩

end Schema
end ThreatHunt
