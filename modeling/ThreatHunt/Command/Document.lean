import ThreatHunt.Command.Basic
import ThreatHunt.Pattern.Basic
import ThreatHunt.Table.Document
import ThreatHunt.Value.Json

/-!
Statements and their patterns as JSON documents.
-/

namespace ThreatHunt

/-- An alternative with its content, as an object of one field. -/
def Json.tagged (tag : String) (content : Json) : Json := .obj [(tag, content)]

/-- A value that may be missing; what is missing is null. -/
def Json.ofOption {α : Type} (encode : α → Json) : Option α → Json
  | none => .null
  | some a => encode a

def Operand.toJson : Operand → Json
  | .value v => .tagged "Value" v.toJson
  | .list items => .tagged "List" (.arr (items.map Value.toJson))
  | .reference var attr => .tagged "Ref" (.obj [("var", .str var), ("attr", .str attr)])
  | .absent => .str "None"

def Comparison.toJson (c : Comparison) : Json :=
  .obj [("attr", .str c.attr), ("type_prefix", .ofOption .str c.entityType),
    ("op", .str c.operator.code), ("operand", c.operand.toJson)]

namespace Pattern

mutual

def toJson : Pattern → Json
  | .all parts => .tagged "And" (.arr (partsToJson parts))
  | .any parts => .tagged "Or" (.arr (partsToJson parts))
  | .negation part => .tagged "Not" (toJson part)
  | .test c => .tagged "Cmp" c.toJson

def partsToJson : List Pattern → List Json
  | [] => []
  | part :: rest => toJson part :: partsToJson rest

end

end Pattern

namespace Json

/-- A list of texts. -/
def ofTexts (texts : List String) : Json := .arr (texts.map .str)

def ofNat (n : Nat) : Json := .int n

end Json

def TimeSpan.toJson : TimeSpan → Json
  | .absolute w => .tagged "Absolute" w.toJson
  | .last amount unit =>
    .tagged "Last" (.obj [("amount", .int amount), ("unit", .str unit.name)])

def Source.toJson : Source → Json
  | .named name => .tagged "Name" (.str name)
  | .uri u => .tagged "Uri" (.str u)

def SortKey.toJson (k : SortKey) : Json :=
  .obj [("attr", .str k.attr), ("order", .ofOption (fun o => .str o.name) k.order)]

def Aggregation.toJson (a : Aggregation) : Json :=
  .obj [("func", .str a.func.code), ("attr", .str a.attr), ("alias", .str a.name)]

def Refinement.toJson (r : Refinement) : Json :=
  .obj [("pattern", .ofOption Pattern.toJson r.pattern), ("attrs", .ofOption .ofTexts r.attrs),
    ("sort", .ofOption SortKey.toJson r.sort), ("limit", .ofOption .ofNat r.limit),
    ("offset", .ofOption .ofNat r.offset)]

namespace Command

/-- The name of the kind of a command. -/
def code : Command → String
  | .get .. => "get"
  | .findBetween .. => "find_between"
  | .findRelated .. => "find_related"
  | .join .. => "join"
  | .sort .. => "sort"
  | .group .. => "group"
  | .refine .. => "transform"
  | .merge .. => "merge"
  | .assign .. => "assign"
  | .apply .. => "apply"
  | .display .. => "disp"
  | .info .. => "info"
  | .save .. => "save"
  | .load .. => "load"
  | .create .. => "new"

/-- The parts of a command by their names. -/
def fields : Command → List (String × Json)
  | .get entityType sources pattern window limit =>
    [("entity_type", .str entityType), ("sources", .arr (sources.map Source.toJson)),
     ("pattern", .ofOption Pattern.toJson pattern), ("window", .ofOption TimeSpan.toJson window),
     ("limit", .ofOption .ofNat limit)]
  | .findBetween relation source target window =>
    [("relation", .str relation), ("from", .str source), ("to", .str target),
     ("window", .ofOption TimeSpan.toJson window)]
  | .findRelated entityType relation reversed input pattern window limit =>
    [("entity_type", .str entityType), ("relation", .str relation), ("reversed", .bool reversed),
     ("input", .str input), ("pattern", .ofOption Pattern.toJson pattern),
     ("window", .ofOption TimeSpan.toJson window), ("limit", .ofOption .ofNat limit)]
  | .join left right keys =>
    [("left", .str left), ("right", .str right),
     ("by", .ofOption (fun k => .ofTexts [k.1, k.2]) keys)]
  | .sort input key => [("input", .ofOption .str input), ("key", key.toJson)]
  | .group input keys aggregations =>
    [("input", .ofOption .str input), ("by", .ofTexts keys),
     ("aggregations", .arr (aggregations.map Aggregation.toJson))]
  | .refine input refinement => [("input", .str input), ("refine", refinement.toJson)]
  | .merge inputs => [("inputs", .ofTexts inputs)]
  | .assign input => [("input", .str input)]
  | .apply module inputs params =>
    [("module", .str module), ("inputs", .ofTexts inputs),
     ("params", .arr (params.map (fun p => .arr [.str p.1, p.2.toJson])))]
  | .display input refinement => [("input", .ofOption .str input), ("refine", refinement.toJson)]
  | .info input => [("input", .ofOption .str input)]
  | .save input target => [("input", .ofOption .str input), ("target", .str target)]
  | .load target entityType => [("target", .str target), ("entity_type", .ofOption .str entityType)]
  | .create entityType records =>
    [("entity_type", .ofOption .str entityType), ("records", .arr records)]

def toJson (c : Command) : Json := .obj (("kind", .str c.code) :: c.fields)

end Command

def Statement.toJson (s : Statement) : Json :=
  .obj [("output", .ofOption .str s.output), ("command", s.command.toJson)]

def PlacedStatement.toJson (p : PlacedStatement) : Json :=
  .obj [("text", .str p.text), ("line", .ofNat p.line), ("column", .ofNat p.column),
    ("statement", p.statement.toJson)]

end ThreatHunt
