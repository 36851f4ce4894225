import ThreatHunt.Error.Hunt
import ThreatHunt.Command.Document

/-!
Errors and failures as JSON documents.
-/

namespace ThreatHunt

namespace HuntError

/-- The name of the kind of an error in documents. -/
def tag : HuntError → String
  | .malformed .. => "syntax"
  | .undefinedVariable _ => "undefined_variable"
  | .typeMismatch _ => "type_mismatch"
  | .schemaMismatch _ => "schema_mismatch"
  | .noConnector _ => "no_applicable_connector"
  | .analytics .. => "analytics"
  | .store _ => "store"
  | .senseless _ => "semantic"
  | .internal _ => "internal"

def toJson (e : HuntError) : Json :=
  let details : List (String × Json) :=
    match e with
    | .malformed place _ =>
      [("line", .ofNat place.line), ("column", .ofNat place.column), ("message", .str e.cause)]
    | .undefinedVariable name => [("name", .str name)]
    | .analytics module _ => [("module", .str module), ("message", .str e.cause)]
    | _ => [("message", .str e.cause)]
  .obj (("type", .str e.tag) :: details)

end HuntError

def Failure.toJson (f : Failure) : Json :=
  .obj [("statement", .str f.statement), ("line", .ofNat f.line), ("error", f.error.toJson)]

end ThreatHunt
