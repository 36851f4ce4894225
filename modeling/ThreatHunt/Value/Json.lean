import ThreatHunt.Value.Text
import ThreatHunt.Time.Reading
import ThreatHunt.Json.Text
import ThreatHunt.Text.Located

/-!
Values in JSON documents. Nested objects are kept as their text, and a string that is an RFC 3339
date and time becomes an instant.
-/

namespace ThreatHunt.Value

/-- The instant in a JSON string: at least 19 bytes, a hyphen after four bytes and the letter `T`
mark the texts that are tried. -/
def instantOf? (s : String) : Option Instant :=
  let cs := Text.locate s
  if 19 ≤ Text.byteLength s.toList && cs.any (fun c => c.offset == 4 && c.char == '-') &&
      s.toList.contains 'T' then
    (Instant.readStrict s).toOption
  else none

mutual

def ofJson : Json → Value
  | .null => .null
  | .bool b => .bool b
  | .int i => if Text.fitsInt64 i then .int i else .float (Binary64.ofInt i)
  | .float x => .float x
  | .str s =>
    match instantOf? s with
    | some t => .time t
    | none => .str s
  | .arr items => .list (ofJsonItems items)
  | .obj fields => .str (Json.obj fields).compact

def ofJsonItems : List Json → List Value
  | [] => []
  | item :: rest => ofJson item :: ofJsonItems rest

end

mutual

/-- Instants are written to the millisecond; a number that is not finite becomes null. -/
def toJson : Value → Json
  | .null => .null
  | .bool b => .bool b
  | .int i => .int i
  | .float x => if x.isFinite then .float x else .null
  | .str s => .str s
  | .time t => .str (t.text .millis)
  | .list items => .arr (toJsonItems items)

def toJsonItems : List Value → List Json
  | [] => []
  | item :: rest => toJson item :: toJsonItems rest

end

end ThreatHunt.Value
