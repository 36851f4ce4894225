import ThreatHunt.Value.Basic

/-!
Texts of values: the plain text of keys, cells and derived identifiers, and the literal that a
pattern shows.
-/

namespace ThreatHunt.Value

/-- Below this magnitude a whole floating point number keeps one zero after the point. -/
def wholeLimit : Binary64 := Binary64.ofNat 1000000000000000

def floatText (x : Binary64) : String :=
  if x.isWhole && x.magnitude < wholeLimit.magnitude then Decimal.text x ++ ".0"
  else Decimal.text x

mutual

/-- The plain text; null has none. -/
def render : Value → String
  | .null => ""
  | .bool b => if b then "true" else "false"
  | .int i => Text.ofInt i
  | .float x => floatText x
  | .str s => s
  | .time t => t.text .millis
  | .list items => "[" ++ ",".intercalate (renderItems items) ++ "]"

def renderItems : List Value → List String
  | [] => []
  | v :: vs => render v :: renderItems vs

end

/-- A text between single quotes, each of its own quotes escaped. -/
def quotedText (s : String) : String :=
  String.ofList ('\'' :: s.toList.flatMap (fun c => if c == '\'' then ['\\', c] else [c]) ++ ['\''])

mutual

/-- The literal. -/
def literal : Value → String
  | .null => "NULL"
  | .str s => quotedText s
  | .time t => "t'" ++ t.text .millis ++ "'"
  | .list items => "(" ++ ", ".intercalate (literalItems items) ++ ")"
  | v => v.render

def literalItems : List Value → List String
  | [] => []
  | v :: vs => literal v :: literalItems vs

end

/-- The key under which equal values of one kind are counted once. -/
def distinctKey (v : Value) : String := v.kind.label ++ "|" ++ v.render

/-- The key under which rows are joined: a number is keyed by the nearest floating point number,
all else by kind and text, and null has no key. -/
def matchKey? (v : Value) : Option String :=
  match v.number? with
  | some x => some ("n:" ++ Decimal.text x)
  | none => if v.isNull then none else some (v.kind.label ++ ":" ++ v.render)

end ThreatHunt.Value
