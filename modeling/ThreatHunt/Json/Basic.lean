import ThreatHunt.Number.Decimal

/-!
JSON values. A number is an integer of 64 bits, with or without a sign, or a floating point number;
the fields of an object that was read stand in the order of their names, each name once.
-/

namespace ThreatHunt

inductive Json where
  | null
  | bool (value : Bool)
  | int (value : Int)
  | float (value : Binary64)
  | str (value : String)
  | arr (items : List Json)
  | obj (fields : List (String × Json))
  deriving Repr, Inhabited

namespace Json

/-- Puts a field at its place in the order of names; an earlier value of the name is replaced. -/
def insertField (name : String) (value : Json) : List (String × Json) → List (String × Json)
  | [] => [(name, value)]
  | (other, old) :: rest =>
    if name < other then (name, value) :: (other, old) :: rest
    else if name = other then (name, value) :: rest
    else (other, old) :: insertField name value rest

/-- The fields in the order of their names; the last value of a name counts. -/
def sortFields (fields : List (String × Json)) : List (String × Json) :=
  fields.foldl (fun sorted f => insertField f.1 f.2 sorted) []

def findField (name : String) : List (String × Json) → Option Json
  | [] => none
  | (other, value) :: rest => if other = name then some value else findField name rest

/-- The field of an object; nothing else has fields. -/
def field? (name : String) : Json → Option Json
  | .obj fields => findField name fields
  | _ => none

def str? : Json → Option String
  | .str s => some s
  | _ => none

/-- The text in a field. -/
def strField? (name : String) (j : Json) : Option String :=
  (j.field? name).bind str?

/-- Drops a field. -/
def eraseField (name : String) (fields : List (String × Json)) : List (String × Json) :=
  fields.filter (fun f => f.1 != name)

end Json
end ThreatHunt
