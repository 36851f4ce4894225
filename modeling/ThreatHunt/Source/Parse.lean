import ThreatHunt.Source.Lexer
import ThreatHunt.Value.Basic
import ThreatHunt.Time.Reading

/-!
Steps of reading a statement: each takes tokens from the front of a list or fails at a place.
-/

namespace ThreatHunt.Source

/-- A step of reading. Its arguments are the byte at which the statement stops and the tokens that
are left. -/
def Parse (α : Type) : Type := Nat → List Token → Except Misread (α × List Token)

namespace Parse

variable {α β : Type}

instance : Monad Parse where
  pure a := fun _ tokens => .ok (a, tokens)
  bind step next := fun stop tokens =>
    match step stop tokens with
    | .error misread => .error misread
    | .ok (a, rest) => next a stop rest

/-- The next lexeme. -/
def peek : Parse (Option Lexeme) := fun _ tokens =>
  .ok (tokens.head?.map Token.lexeme, tokens)

/-- The lexeme after the next. -/
def peekSecond : Parse (Option Lexeme) := fun _ tokens =>
  .ok ((tokens.drop 1).head?.map Token.lexeme, tokens)

/-- Passes the next token. -/
def skip : Parse Unit := fun _ tokens => .ok ((), tokens.drop 1)

/-- Passes all tokens. -/
def skipAll : Parse Unit := fun _ _ => .ok ((), [])

/-- The byte at which the next token starts, or the end of the statement. -/
def place : Parse Nat := fun stop tokens =>
  .ok ((tokens.head?.map Token.offset).getD stop, tokens)

/-- The end of the statement. -/
def endPlace : Parse Nat := fun stop tokens => .ok (stop, tokens)

def atEnd : Parse Bool := fun _ tokens => .ok (tokens.isEmpty, tokens)

def failAt (offset : Nat) (fault : Fault) : Parse α := fun _ _ => .error ⟨offset, fault⟩

/-- Fails because something else was due here. -/
def expected (due : String) : Parse α := fun stop tokens =>
  match tokens with
  | [] => .error ⟨stop, .expected due none⟩
  | t :: _ => .error ⟨t.offset, .expected due (some t.lexeme)⟩

/-- Whether the next token is a keyword. -/
def atWord (word : String) : Parse Bool := do
  let next ← peek
  return (next.map (Lexeme.isWord word)).getD false

/-- Passes a keyword if it comes next. -/
def eatWord (word : String) : Parse Bool := do
  if ← atWord word then
    skip
    return true
  else return false

def expectWord (word : String) : Parse Unit := do
  if ← eatWord word then return () else expected word

def atMark (mark : Mark) : Parse Bool := do
  let next ← peek
  return next == some (.mark mark)

/-- Passes a sign if it comes next. -/
def eatMark (mark : Mark) : Parse Bool := do
  if ← atMark mark then
    skip
    return true
  else return false

def expectMark (mark : Mark) (due : String) : Parse Unit := do
  if ← eatMark mark then return () else expected due

/-- Any word, keywords included. -/
def word (due : String) : Parse String := do
  match ← peek with
  | some (.word s) =>
    skip
    return s
  | _ => expected due

/-- Items with separators between them; `fuel` bounds their number. -/
def separatedFrom (eatSeparator : Parse Bool) (item : Parse α) : Nat → Parse (List α)
  | 0 => return []
  | fuel + 1 => do
    let first ← item
    if ← eatSeparator then
      let rest ← separatedFrom eatSeparator item fuel
      return first :: rest
    else return [first]

/-- One or more items with separators between them. -/
def separated (eatSeparator : Parse Bool) (item : Parse α) : Parse (List α) := fun stop tokens =>
  separatedFrom eatSeparator item (tokens.length + 1) stop tokens

/-- One or more items with commas between them. -/
def commaSeparated (item : Parse α) : Parse (List α) := separated (eatMark .comma) item

/-- The further parts of a dotted name. -/
def dottedRest (name : String) : List Token → String × List Token
  | ⟨.mark .dot, _⟩ :: ⟨.word part, _⟩ :: rest => dottedRest (name ++ "." ++ part) rest
  | tokens => (name, tokens)

/-- The name of an attribute: a word or a dotted path, perhaps after an entity type and a colon.
Gives the type and the name. -/
def attributeName : Parse (Option String × String) := do
  let first ← word "an attribute name"
  let (entityType, name) ←
    if ← eatMark .colon then
      let name ← word "an attribute name after ':'"
      pure (some first, name)
    else pure (none, first)
  fun _ tokens =>
    let (name, rest) := dottedRest name tokens
    .ok ((entityType, name), rest)

/-- A whole number that is not negative. -/
def count (due : String) : Parse Nat := do
  let offset ← place
  match ← peek with
  | some (.number s) =>
    skip
    match Text.readNat? Text.natBound64 s with
    | some n => return n
    | none => failAt offset (.notCount due s)
  | _ => expected due

/-- The value of a number: an integer if it fits, else a floating point number. -/
def numberValue? (s : String) : Option Value :=
  match Text.readInt64? s with
  | some i => some (.int i)
  | none => (Decimal.read? s).map .float

/-- The words that stand for values. -/
def wordValue? (s : String) : Option Value :=
  if Text.sameWord s "TRUE" then some (.bool true)
  else if Text.sameWord s "FALSE" then some (.bool false)
  else if Text.sameWord s "NULL" then some .null
  else none

/-- A value. -/
def literal : Parse Value := do
  let offset ← place
  match ← peek with
  | some (.text s) =>
    skip
    return .str s
  | some (.instant s) =>
    match Instant.read? s with
    | some t =>
      skip
      return .time t
    | none => failAt offset (.invalidInstant s)
  | some (.number s) =>
    match numberValue? s with
    | some v =>
      skip
      return v
    | none => failAt offset (.invalidNumber s)
  | some (.word s) =>
    match wordValue? s with
    | some v =>
      skip
      return v
    | none => expected "a value"
  | _ => expected "a value"

end Parse
end ThreatHunt.Source
