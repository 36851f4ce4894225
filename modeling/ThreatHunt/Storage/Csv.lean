import ThreatHunt.Storage.Frame
import ThreatHunt.Text.Words

/-!
Frames as text with commas between cells. A cell stands between quotes only if it has to; an empty
cell is null, and two quotes are the empty text. When reading, the first rows decide the kind of
each column.
-/

namespace ThreatHunt.Csv

def isSpecial (c : Char) : Bool := c == ',' || c == '\n' || c == '\r' || c == '\x22'

/-- A text as a cell. -/
def quoteCell (s : String) : String :=
  if s == "" then "\"\""
  else if s.toList.any isSpecial then
    String.ofList ('\x22' :: s.toList.flatMap (fun c => if c == '\x22' then [c, c] else [c]) ++
      ['\x22'])
  else s

def cellText : Value → String
  | .bool b => if b then "true" else "false"
  | .int i => Text.ofInt i
  | .float x => Decimal.write Decimal.scientific x
  | .str s => quoteCell s
  | _ => ""

def line (cells : List String) : String := ",".intercalate cells ++ "\n"

/-- The text of a frame, a line of names first. -/
def write (f : Frame) : String :=
  line (f.names.map quoteCell) ++
    String.join ((List.range f.height).map (fun i => line ((f.row i).map (fun c => cellText c.2))))

/-! Reading. -/

/-- The characters of a cell and whether it stands between quotes. -/
structure RawCell where
  chars : List Char
  isQuoted : Bool
  deriving DecidableEq, Repr

/-- Splits text into lines of cells. `inQuotes` says whether the text starts between quotes; `cell`
holds the current cell and `cells` the cells before it, both reversed. -/
def splitFrom : Bool → List Char → List RawCell → List Char → List (List RawCell)
  | _, [], [], [] => []
  | _, cell, cells, [] => [(close cell :: cells).reverse]
  | inQuotes, cell, cells, c :: rest =>
    if c == '\x22' then splitFrom (!inQuotes) (c :: cell) cells rest
    else if inQuotes then splitFrom inQuotes (c :: cell) cells rest
    else if c == ',' then splitFrom false [] (close cell :: cells) rest
    else if c == '\n' then (close cell :: cells).reverse :: splitFrom false [] [] rest
    else splitFrom false (c :: cell) cells rest
where
  /-- A finished cell, given reversed. -/
  close (cell : List Char) : RawCell :=
    ⟨cell.reverse, cell.contains '\x22'⟩

/-- Drops a carriage return at the end of a line. -/
def trimReturn (cells : List RawCell) : List RawCell :=
  match cells.reverse with
  | last :: front =>
    (match last.chars.reverse with
     | '\r' :: cs => { last with chars := cs.reverse } :: front
     | _ => last :: front).reverse
  | [] => []

/-- What stands between the outer quotes of a cell. -/
def inner (cell : RawCell) : List Char :=
  if cell.isQuoted && 2 ≤ cell.chars.length then (cell.chars.drop 1).dropLast else cell.chars

/-- Doubled quotes as one. -/
def undouble : List Char → List Char
  | '\x22' :: '\x22' :: rest => '\x22' :: undouble rest
  | c :: rest => c :: undouble rest
  | [] => []

def isGap (c : Char) : Bool := c == ' ' || c == '\t'

def digitsThenEnd (cs : List Char) : Bool := !cs.isEmpty && cs.all Char.isDigit

/-- Whether a text is an integer, perhaps with a minus sign. -/
def isInteger (cs : List Char) : Bool :=
  match cs.dropWhile isGap with
  | '-' :: rest => digitsThenEnd rest
  | rest => digitsThenEnd rest

/-- Whether a text is empty or an exponent. -/
def isExponent : List Char → Bool
  | [] => false
  | c :: rest =>
    (c == 'e' || c == 'E') &&
      match rest with
      | '-' :: ds => digitsThenEnd ds
      | '+' :: ds => digitsThenEnd ds
      | ds => digitsThenEnd ds

/-- Whether a text is a number with a point or an exponent, or the name of a special number. -/
def isFloat (cs : List Char) : Bool :=
  let body := match cs.dropWhile isGap with
    | '-' :: rest => rest
    | '+' :: rest => rest
    | rest => rest
  let whole := body.takeWhile Char.isDigit
  match body.drop whole.length with
  | '.' :: rest =>
    let fraction := rest.takeWhile Char.isDigit
    let after := rest.drop fraction.length
    if fraction.isEmpty then !whole.isEmpty && after.isEmpty
    else after.isEmpty || isExponent after
  | rest =>
    (!whole.isEmpty && isExponent rest) ||
      (whole.isEmpty && (String.ofList rest == "inf" || String.ofList rest == "NaN"))

def isBool (cs : List Char) : Bool :=
  let word := Text.lower (String.ofList cs)
  word == "true" || word == "false"

/-- The kind of one text. -/
def kindOf (cs : List Char) : CellKind :=
  if isBool cs then .bool
  else if isFloat cs then .float
  else if isInteger cs then .int
  else .str

/-- The kind of a column of texts: integers and floating point numbers together are the latter, and
any other mixture is text. -/
def commonKind (kinds : List CellKind) : CellKind :=
  match kinds with
  | [] => .str
  | first :: rest =>
    if rest.all (· == first) then first
    else if kinds.all (fun k => k == .int || k == .float) then .float
    else .str

/-- How many rows decide the kinds. -/
def inferenceRows : Nat := 100

/-- The value of a cell in a column of a kind. -/
def cellValue (kind : CellKind) (cell : RawCell) : Value :=
  if cell.chars.isEmpty then .null
  else
    let cs := inner cell
    match kind with
    | .str => .str (String.ofList (undouble cs))
    | .bool =>
      let word := Text.lower (String.ofList cs)
      if word == "true" then .bool true else if word == "false" then .bool false else .null
    | .int =>
      match Text.readInt64? (String.ofList (cs.dropWhile isGap)) with
      | some i => .int i
      | none => .null
    | .float =>
      match Decimal.read? (String.ofList (cs.dropWhile isGap)) with
      | some x => .float x
      | none => .null

/-- Names of columns; a repeated name is numbered. -/
def columnNames (names : List String) : List String :=
  names.mapIdx (fun i name =>
    match (names.take i).count name with
    | 0 => name
    | n + 1 => name ++ "_duplicated_" ++ Nat.repr n)

/-- A line of cells without the blanks before its first cell. -/
def trimFront (cells : List RawCell) : List RawCell :=
  match cells with
  | first :: rest => { first with chars := first.chars.dropWhile isGap } :: rest
  | [] => []

def isBlankLine (cells : List RawCell) : Bool :=
  match cells with
  | [cell] => cell.chars.isEmpty
  | _ => false

/-- The frame that a text writes. Lines without anything are passed over if there are several
columns. -/
def read (text : String) : Frame :=
  match (splitFrom false [] [] text.toList).map trimReturn with
  | [] => ⟨[]⟩
  | header :: lines =>
    let names := columnNames (header.map (fun c => String.ofList (inner c)))
    let trimmed := lines.map trimFront
    let rows := if names.length = 1 then trimmed else trimmed.filter (fun r => !isBlankLine r)
    ⟨names.mapIdx (fun i name =>
      let cells := rows.map (fun r => (r[i]?).getD ⟨[], false⟩)
      let shown := (cells.take inferenceRows).filter (fun c => !c.chars.isEmpty)
      let kind := commonKind (shown.map (fun c => kindOf (inner c)))
      ⟨name, kind, cells.map (cellValue kind)⟩)⟩

end ThreatHunt.Csv
