import ThreatHunt.Json.Basic

/-!
The text of a JSON value, on one line or indented by two blanks.
-/

namespace ThreatHunt.Json

/-- One character inside a string: quotes, backslashes and controls are escaped. -/
def escapeChar (c : Char) : List Char :=
  if c == '\x22' then ['\\', '\x22']
  else if c == '\\' then ['\\', '\\']
  else if c == '\n' then ['\\', 'n']
  else if c == '\r' then ['\\', 'r']
  else if c == '\t' then ['\\', 't']
  else if c == '\x08' then ['\\', 'b']
  else if c == '\x0c' then ['\\', 'f']
  else if c.toNat < 32 then ['\\', 'u'] ++ Text.hex 4 c.toNat
  else [c]

def stringText (s : String) : String :=
  String.ofList ('\x22' :: s.toList.flatMap escapeChar ++ ['\x22'])

/-- A floating point number; what is not finite is `null`. -/
def floatText (x : Binary64) : String :=
  if x.isFinite then Decimal.write Decimal.signedScientific x else "null"

/-- How the parts of a container are set apart at a depth. -/
structure Layout where
  /-- Before each part and before the closing bracket. -/
  newline : Nat → String
  /-- Between a name and its value. -/
  colon : String

def compactLayout : Layout := { newline := fun _ => "", colon := ":" }

def indentedLayout : Layout :=
  { newline := fun depth => String.ofList ('\n' :: List.replicate (2 * depth) ' ')
    colon := ": " }

/-- Brackets around parts, or around nothing. -/
def Layout.enclose (layout : Layout) (depth : Nat) (left right : String) :
    List String → String
  | [] => left ++ right
  | parts =>
    left ++ layout.newline (depth + 1) ++
      ("," ++ layout.newline (depth + 1)).intercalate parts ++ layout.newline depth ++ right

mutual

def write (layout : Layout) (depth : Nat) : Json → String
  | .null => "null"
  | .bool b => if b then "true" else "false"
  | .int i => Text.ofInt i
  | .float x => floatText x
  | .str s => stringText s
  | .arr items => layout.enclose depth "[" "]" (writeItems layout (depth + 1) items)
  | .obj fields => layout.enclose depth "\x7b" "\x7d" (writeFields layout (depth + 1) fields)

def writeItems (layout : Layout) (depth : Nat) : List Json → List String
  | [] => []
  | item :: rest => write layout depth item :: writeItems layout depth rest

def writeFields (layout : Layout) (depth : Nat) : List (String × Json) → List String
  | [] => []
  | (name, value) :: rest =>
    (stringText name ++ layout.colon ++ write layout depth value) :: writeFields layout depth rest

end

/-- The text on one line without blanks. -/
def compact (j : Json) : String := write compactLayout 0 j

/-- The text with one part a line. -/
def indented (j : Json) : String := write indentedLayout 0 j

end ThreatHunt.Json
