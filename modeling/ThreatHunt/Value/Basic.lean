import ThreatHunt.Time.Instant
import ThreatHunt.Number.Decimal

/-!
Attribute values and the kinds that columns declare. Two numbers of different kinds are different
values here; `Value.compare?` and the keys for joining decide when they count as the same.
-/

namespace ThreatHunt

/-- The kind of the values of a column. A column with values of several kinds is `untyped`. -/
inductive Kind where
  | null
  | bool
  | int
  | float
  | str
  | time
  | list
  | untyped
  deriving DecidableEq, Repr, Inhabited

namespace Kind

def all : List Kind := [.null, .bool, .int, .float, .str, .time, .list, .untyped]

/-- The name that messages show. -/
def name : Kind → String
  | .null => "null"
  | .bool => "bool"
  | .int => "int"
  | .float => "float"
  | .str => "string"
  | .time => "timestamp"
  | .list => "list"
  | .untyped => "untyped"

/-- The name that documents hold. -/
def code : Kind → String
  | .str => "str"
  | .time => "time"
  | kind => kind.name

/-- The name inside keys of values. -/
def label : Kind → String
  | .null => "Null"
  | .bool => "Bool"
  | .int => "Int"
  | .float => "Float"
  | .str => "Str"
  | .time => "Time"
  | .list => "List"
  | .untyped => "Untyped"

/-- The kind that a document names. -/
def ofCode? (code : String) : Option Kind :=
  all.find? (fun kind => kind.code == code)

end Kind

inductive Value where
  | null
  | bool (value : Bool)
  | int (value : Int)
  | float (value : Binary64)
  | str (value : String)
  | time (value : Instant)
  | list (items : List Value)
  deriving Repr, Inhabited

namespace Value

def kind : Value → Kind
  | .null => .null
  | .bool _ => .bool
  | .int _ => .int
  | .float _ => .float
  | .str _ => .str
  | .time _ => .time
  | .list _ => .list

def isNull : Value → Bool
  | .null => true
  | _ => false

def str? : Value → Option String
  | .str s => some s
  | _ => none

/-- The floating point number nearest to a number. -/
def number? : Value → Option Binary64
  | .int i => some (Binary64.ofInt i)
  | .float x => some x
  | _ => none

mutual

/-- Equality by kind and content: zeros of either sign are equal and a NaN equals nothing. -/
def same : Value → Value → Bool
  | .null, .null => true
  | .bool a, .bool b => a == b
  | .int a, .int b => a == b
  | .float a, .float b => a.sameNumber b
  | .str a, .str b => a == b
  | .time a, .time b => a == b
  | .list as, .list bs => sameItems as bs
  | _, _ => false

def sameItems : List Value → List Value → Bool
  | [], [] => true
  | a :: as, b :: bs => same a b && sameItems as bs
  | _, _ => false

end

end Value
end ThreatHunt
