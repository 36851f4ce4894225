import ThreatHunt.Table.Basic
import ThreatHunt.Text.Words
import ThreatHunt.Value.Text

/-!
What statements show: the cells of a table, or named texts. As text, cells stand in a grid whose
columns are as wide as their widest cell, up to a limit; numbers stand at the right. Named texts
stand in two columns.
-/

namespace ThreatHunt

inductive Display where
  | table (columns : List String) (rows : List (List Value))
  | info (entries : List (String × String))
  deriving Repr, Inhabited

namespace Display

/-- The number of rows, or of named texts. -/
def rowCount : Display → Nat
  | .table _ rows => rows.length
  | .info entries => entries.length

mutual

/-- Whether two cells show the same value of the same kind. A NaN is the same as every other, and
zeros of different sign are different. -/
def sameCell : Value → Value → Bool
  | .null, .null => true
  | .bool a, .bool b => a == b
  | .int a, .int b => a == b
  | .float a, .float b => a == b || (a.isNaN && b.isNaN)
  | .str a, .str b => a == b
  | .time a, .time b => a == b
  | .list as, .list bs => sameCells as bs
  | _, _ => false

/-- Whether two rows of cells are the same. -/
def sameCells : List Value → List Value → Bool
  | [], [] => true
  | a :: as, b :: bs => sameCell a b && sameCells as bs
  | _, _ => false

end

/-- Rows of cells, each once, in the order in which they are first seen. -/
def distinctRows (rows : List (List Value)) : List (List Value) :=
  rows.foldl (fun seen row => if seen.any (sameCells row) then seen else seen ++ [row]) []

/-- Whether a row shows anything under the columns: if one of them is not the identifier, some such
column must hold a value. -/
def showsData (columns : List String) (row : Entity) : Bool :=
  let data := columns.filter (fun c => c != "id")
  data.isEmpty || data.any (fun c => !(row.valueOf c).isNull)

/-- The columns that a table shows: the named ones, or all behind the identifier. -/
def columnsOf (schema : Schema) (attrs : Option (List String)) : List String :=
  match attrs with
  | some names => if names.contains "*" then "id" :: schema.names else names
  | none => "id" :: schema.names

/-- The cells of a table under some columns. -/
def ofTable (t : Table) (columns : List String) : Display :=
  .table columns (distinctRows ((t.rows.filter (showsData columns)).map
    (fun row => columns.map row.valueOf)))

/-- How wide a column may be. -/
def widthLimit : Nat := 60

def blanks (n : Nat) : String := String.ofList (List.replicate n ' ')

/-- The text cut down to a width, with an ellipsis in the place of what is cut. -/
def cut (width : Nat) (s : String) : String :=
  if s.length ≤ width then s
  else String.ofList (s.toList.take (width - 1)) ++ "…"

/-- Whether a text looks like a number: digits and the signs of numbers, at least one digit. -/
def looksNumeric (s : String) : Bool :=
  let cs := Text.trimChars s.toList
  cs.any Char.isDigit && cs.all (fun c => c.isDigit || ['.', '-', '+', 'e', 'E'].contains c)

/-- A cell of a given width; `numbersRight` says whether numbers stand at the right. -/
def cellText (numbersRight : Bool) (width : Nat) (cell : String) : String :=
  let shown := cut width cell
  let gap := blanks (width - shown.length)
  if numbersRight && looksNumeric cell then gap ++ shown else shown ++ gap

/-- A line of cells. -/
def lineText (numbersRight : Bool) (widths : List Nat) (cells : List String) : String :=
  "|" ++ String.join (widths.mapIdx (fun i width =>
    " " ++ cellText numbersRight width (cells.getD i "") ++ " |"))

def separator (widths : List Nat) : String :=
  "+" ++ String.join (widths.map (fun w => String.ofList (List.replicate (w + 2) '-') ++ "+"))

/-- The widths of columns with names and rows of cells. -/
def widths (columns : List String) (rows : List (List String)) : List Nat :=
  columns.mapIdx (fun i name =>
    let cells := rows.filterMap (fun row => row[i]?)
    ((name :: cells).map (fun s => min s.length widthLimit)).foldl max 0)

/-- A grid of cells below the names of their columns. -/
def gridText (columns : List String) (rows : List (List String)) : String :=
  let ws := widths columns rows
  let lines := [separator ws, lineText false ws columns, separator ws] ++
    rows.map (lineText true ws) ++
    [separator ws, "rows: " ++ Nat.repr rows.length ++ ", cols: " ++ Nat.repr columns.length]
  String.join (lines.map (· ++ "\n"))

/-- Named texts, a line for each. -/
def infoText (entries : List (String × String)) : String :=
  let width := (entries.map (fun e => e.1.length)).foldl max 0
  String.join (entries.map (fun e => e.1 ++ blanks (width - e.1.length) ++ "  " ++ e.2 ++ "\n"))

def text : Display → String
  | .table columns rows => gridText columns (rows.map (fun row => row.map Value.render))
  | .info entries => infoText entries

end Display
end ThreatHunt
