import ThreatHunt.Pattern.Basic
import ThreatHunt.Time.Window
import ThreatHunt.Json.Basic

/-!
The commands of a hunt.
-/

namespace ThreatHunt

inductive SortOrder where
  | ascending
  | descending
  deriving DecidableEq, Repr, Inhabited

/-- The name in documents. -/
def SortOrder.name : SortOrder → String
  | .ascending => "asc"
  | .descending => "desc"

/-- A place that entities come from. -/
inductive Source where
  /-- A connector or a variable. -/
  | named (name : String)
  | uri (uri : String)
  deriving DecidableEq, Repr, Inhabited

inductive Aggregate where
  | sum
  | count
  | average
  | least
  | greatest
  | distinct
  deriving DecidableEq, Repr, Inhabited

namespace Aggregate

def all : List Aggregate := [.sum, .count, .average, .least, .greatest, .distinct]

def name : Aggregate → String
  | .sum => "sum"
  | .count => "count"
  | .average => "avg"
  | .least => "min"
  | .greatest => "max"
  | .distinct => "nunique"

/-- The name in documents. -/
def code : Aggregate → String
  | .sum => "Sum"
  | .count => "Count"
  | .average => "Avg"
  | .least => "Min"
  | .greatest => "Max"
  | .distinct => "NUnique"

def ofName? (name : String) : Option Aggregate :=
  all.find? (fun a => Text.sameWord a.name name)

end Aggregate

/-- An aggregate of an attribute, or of whole rows for the attribute `*`, under a name. -/
structure Aggregation where
  func : Aggregate
  attr : String
  name : String
  deriving DecidableEq, Repr, Inhabited

structure SortKey where
  attr : String
  /-- None stands for the order of the configuration. -/
  order : Option SortOrder
  deriving DecidableEq, Repr, Inhabited

/-- The clauses that narrow a table down. -/
structure Refinement where
  pattern : Option Pattern
  attrs : Option (List String)
  sort : Option SortKey
  limit : Option Nat
  offset : Option Nat
  deriving Repr, Inhabited

namespace Refinement

def none : Refinement := ⟨.none, .none, .none, .none, .none⟩

def isEmpty (r : Refinement) : Bool :=
  r.pattern.isNone && r.attrs.isNone && r.sort.isNone && r.limit.isNone && r.offset.isNone

end Refinement

/-- A command. An input that is none is the default variable. -/
inductive Command where
  /-- Entities of a type from sources. -/
  | get (entityType : String) (sources : List Source) (pattern : Option Pattern)
    (window : Option TimeSpan) (limit : Option Nat)
  /-- The rows of one variable that a relation reaches from another. -/
  | findBetween (relation source target : String) (window : Option TimeSpan)
  /-- Known entities of a type that a relation connects with a variable. -/
  | findRelated (entityType relation : String) (reversed : Bool) (input : String)
    (pattern : Option Pattern) (window : Option TimeSpan) (limit : Option Nat)
  | join (left right : String) (keys : Option (String × String))
  | sort (input : Option String) (key : SortKey)
  | group (input : Option String) (keys : List String) (aggregations : List Aggregation)
  | refine (input : String) (refinement : Refinement)
  | merge (inputs : List String)
  | assign (input : String)
  | apply (module : String) (inputs : List String) (params : List (String × Value))
  | display (input : Option String) (refinement : Refinement)
  | info (input : Option String)
  | save (input : Option String) (target : String)
  | load (target : String) (entityType : Option String)
  | create (entityType : Option String) (records : List Json)
  deriving Repr, Inhabited

namespace Command

/-- The word under which a command is recorded. -/
def keyword : Command → String
  | .get .. => "GET"
  | .findBetween .. => "FIND"
  | .findRelated .. => "FIND"
  | .join .. => "JOIN"
  | .sort .. => "SORT"
  | .group .. => "GROUP"
  | .refine .. => "TRANSFORM"
  | .merge .. => "MERGE"
  | .assign .. => "ASSIGN"
  | .apply .. => "APPLY"
  | .display .. => "DISP"
  | .info .. => "INFO"
  | .save .. => "SAVE"
  | .load .. => "LOAD"
  | .create .. => "NEW"

/-- Whether a command binds no variable. -/
def isReadOnly : Command → Bool
  | .display .. => true
  | .info .. => true
  | .save .. => true
  | _ => false

end Command

/-- A command and the variable that it is assigned to, if any. -/
structure Statement where
  output : Option String
  command : Command
  deriving Repr, Inhabited

/-- A statement, its text and where it starts. -/
structure PlacedStatement where
  text : String
  line : Nat
  column : Nat
  statement : Statement
  deriving Repr, Inhabited

end ThreatHunt
