import ThreatHunt.Json.Decode
import ThreatHunt.Value.Basic
import ThreatHunt.Value.Text

/-!
Frames: named columns of one length, as tabular files hold them. As text a frame is a JSON list of
columns, each with its name, the kind of its cells and the cells.
-/

namespace ThreatHunt

/-- The kind of the cells of a column. -/
inductive CellKind where
  | bool
  | int
  | float
  | str
  deriving DecidableEq, Repr, Inhabited

/-- A column. Its cells are null or of its kind. -/
structure FrameColumn where
  name : String
  kind : CellKind
  cells : List Value
  deriving Repr, Inhabited

structure Frame where
  columns : List FrameColumn
  deriving Repr, Inhabited

namespace Frame

def names (f : Frame) : List String := f.columns.map FrameColumn.name

/-- The number of rows. -/
def height (f : Frame) : Nat := (f.columns.head?.map (fun c => c.cells.length)).getD 0

def column? (f : Frame) (name : String) : Option FrameColumn :=
  f.columns.find? (fun c => c.name == name)

/-- The cells of row `i` with the names of their columns. -/
def row (f : Frame) (i : Nat) : List (String × Value) :=
  f.columns.map (fun c => (c.name, c.cells.getD i .null))

end Frame

namespace CellKind

def all : List CellKind := [.bool, .int, .float, .str]

def name : CellKind → String
  | .bool => "bool"
  | .int => "int"
  | .float => "float"
  | .str => "str"

end CellKind

namespace Frame

/-- A cell in the document of a frame. Floating point numbers are texts, since not all of them are
numbers of JSON. -/
def cellToJson : Value → Json
  | .bool b => .bool b
  | .int i => .int i
  | .float x => .str (Decimal.text x)
  | .str s => .str s
  | _ => .null

/-- The cell of a column of a kind. -/
def cellOfJson (kind : CellKind) (j : Json) : Value :=
  match kind, j with
  | .bool, .bool b => .bool b
  | .int, .int i => .int i
  | .float, .str s => ((Decimal.read? s).map Value.float).getD .null
  | .str, .str s => .str s
  | _, _ => .null

def columnToJson (c : FrameColumn) : Json :=
  .obj [("name", .str c.name), ("kind", .str c.kind.name), ("cells", .arr (c.cells.map cellToJson))]

open Json (Decoder)
open Json.Decoder

/-- A column whose cells are not sorted out by kind yet. -/
structure RawColumn where
  name : String
  kind : CellKind
  cells : List Json
  deriving Inhabited

def RawColumn.decoder : Decoder RawColumn :=
  record "Column"
    [field "name" str (fun s c => { c with name := s }),
     field "kind" (variant (CellKind.all.map (fun k => (k.name, k))))
       (fun k c => { c with kind := k }),
     field "cells" (list any) (fun cells c => { c with cells := cells })]
    default

def RawColumn.toColumn (c : RawColumn) : FrameColumn :=
  ⟨c.name, c.kind, c.cells.map (cellOfJson c.kind)⟩

/-- The text of a frame. -/
def toText (f : Frame) : String := (Json.arr (f.columns.map columnToJson)).compact

/-- The frame that a text writes. -/
def ofText? (s : String) : Option Frame :=
  match (list RawColumn.decoder).decodeText s with
  | .ok columns => some ⟨columns.map RawColumn.toColumn⟩
  | .error _ => none

end Frame
end ThreatHunt
