import ThreatHunt.Command.Basic
import ThreatHunt.Pattern.Basic
import ThreatHunt.Source.Token
import ThreatHunt.Storage.Trouble
import ThreatHunt.Text.Located
import ThreatHunt.Time.Window
import ThreatHunt.Value.Text

/-!
The errors of statements and their causes, by kind. Each statement succeeds or fails with one of
them.
-/

namespace ThreatHunt

/-- Kinds of values or entities that do not go together. -/
inductive TypeMismatch where
  | ordering (attr : String) (kind : Kind) (value : Value)
  | heldType (name held wanted : String)
  | join (left leftType right rightType : String)
  | merge (name entityType first firstType : String)
  | unrelated (relation source target : String)
  | notNumeric (func : Aggregate) (attr : String) (kind : Kind)
  | stated (text : String)
  deriving Repr

def TypeMismatch.message : TypeMismatch → String
  | .ordering attr kind value =>
    "cannot compare " ++ kind.name ++ " attribute '" ++ attr ++ "' with " ++ value.kind.name ++
      " " ++ value.literal
  | .heldType name held wanted =>
    "variable '" ++ name ++ "' holds '" ++ held ++ "', not '" ++ wanted ++ "'"
  | .join left leftType right rightType =>
    "cannot join '" ++ left ++ "' (" ++ leftType ++ ") with '" ++ right ++ "' (" ++ rightType ++ ")"
  | .merge name entityType first firstType =>
    "cannot merge '" ++ name ++ "' (" ++ entityType ++ ") into '" ++ first ++ "' (" ++ firstType ++
      ")"
  | .unrelated relation source target =>
    "relation '" ++ relation ++ "' does not connect '" ++ source ++ "' to '" ++ target ++ "'"
  | .notNumeric func attr kind =>
    Text.upper func.name ++ " needs a numeric attribute, '" ++ attr ++ "' is " ++ kind.name
  | .stated text => text

/-- Inputs that a module does not take. -/
inductive SchemaMismatch where
  /-- Zero wanted inputs stand for one or more. -/
  | arity (module : String) (wanted given : Nat)
  | refusedType (module : String) (accepted : List String) (variableName held : String)
  | missingAttribute (module attr variableName : String)
  | attributeKind (module attr : String) (wanted : Kind) (variableName : String) (found : Kind)
  | stated (text : String)
  deriving DecidableEq, Repr

def SchemaMismatch.message : SchemaMismatch → String
  | .arity module wanted given =>
    "module '" ++ module ++ "' takes " ++ (if wanted = 0 then "at least 1" else Nat.repr wanted) ++
      " input variable(s), got " ++ Nat.repr given
  | .refusedType module accepted variableName held =>
    "module '" ++ module ++ "' accepts " ++ ", ".intercalate accepted ++ " but '" ++
      variableName ++ "' holds '" ++ held ++ "'"
  | .missingAttribute module attr variableName =>
    "module '" ++ module ++ "' requires attribute '" ++ attr ++ "' missing from '" ++
      variableName ++ "'"
  | .attributeKind module attr wanted variableName found =>
    "module '" ++ module ++ "' requires '" ++ attr ++ "' as " ++ wanted.name ++ " but '" ++
      variableName ++ "' has " ++ found.name
  | .stated text => text

/-- No connector for a query. -/
inductive ConnectorLack where
  | unsupported (connector entityType : String)
  | noneFor (entityType : String)
  | stated (text : String)
  deriving DecidableEq, Repr

def ConnectorLack.message : ConnectorLack → String
  | .unsupported connector entityType =>
    "connector '" ++ connector ++ "' does not support entity type '" ++ entityType ++ "'"
  | .noneFor entityType => "no registered connector supports entity type '" ++ entityType ++ "'"
  | .stated text => text

/-- What went wrong with a module after its start. -/
inductive ModuleFault where
  | timedOut (millis : Nat)
  | missingOutput (name : String)
  | outputType (name held declared : String)
  | outputAttribute (name attr : String)
  | stated (text : String)
  deriving DecidableEq, Repr

def ModuleFault.message : ModuleFault → String
  | .timedOut millis => "timed out after " ++ Nat.repr millis ++ " ms"
  | .missingOutput name => "declared output '" ++ name ++ "' was not produced"
  | .outputType name held declared =>
    "output '" ++ name ++ "' holds '" ++ held ++ "' but '" ++ declared ++ "' was declared"
  | .outputAttribute name attr =>
    "output '" ++ name ++ "' lacks required attribute '" ++ attr ++ "'"
  | .stated text => text

/-- A statement that is well formed and makes no sense here. -/
inductive Senseless where
  /-- A clause names an attribute that the rows of a type do not have. -/
  | unknownAttribute (clause entityType attr : String)
  | unknownReference (variableName attr : String)
  | referenceOperand (operator : Operator) (variableName attr : String)
  | invalidExpression (expression : String)
  /-- A `LIKE` pattern with a machine of more bytes than the limit. -/
  | largePattern (pattern : String) (limit : Nat)
  | foreignPrefix (written attr entityType : String)
  | unknownUri (uri : String)
  | unknownSource (name : String)
  | closedSource (uri : String) (trouble : Trouble)
  | zeroLimit
  | aggregateOfRows (func : Aggregate)
  | unknownModule (name : String)
  | unknownRelation (relation : String)
  | windowRange (amount : Int) (unit : TimeUnit)
  | badRecords (trouble : Trouble)
  | stated (text : String)
  deriving Repr

def Senseless.message : Senseless → String
  | .unknownAttribute clause entityType attr =>
    clause ++ ": '" ++ entityType ++ "' has no attribute '" ++ attr ++ "'"
  | .unknownReference variableName attr =>
    "variable '" ++ variableName ++ "' has no attribute '" ++ attr ++ "'"
  | .referenceOperand operator variableName attr =>
    operator.sign ++ " cannot take the variable reference " ++ variableName ++ "." ++ attr
  | .invalidExpression expression => "invalid regular expression '" ++ expression ++ "'"
  | .largePattern pattern limit =>
    "invalid LIKE pattern '" ++ pattern ++ "': Compiled regex exceeds size limit of " ++
      Nat.repr limit ++ " bytes."
  | .foreignPrefix written attr entityType =>
    "pattern refers to '" ++ written ++ ":" ++ attr ++ "' but the statement works on '" ++
      entityType ++ "'"
  | .unknownUri uri => "unknown data source '" ++ uri ++ "'"
  | .unknownSource name => "unknown data source '" ++ name ++ "': not a connector or a variable"
  | .closedSource uri trouble => "cannot open data source '" ++ uri ++ "': " ++ trouble.message
  | .zeroLimit => "LIMIT must be at least 1"
  | .aggregateOfRows func => Text.upper func.name ++ "(*) is not defined; only COUNT(*) is"
  | .unknownModule name => "unknown analytics module '" ++ name ++ "'"
  | .unknownRelation relation => "unknown relation '" ++ relation ++ "'"
  | .windowRange amount unit =>
    "time window LAST " ++ Text.ofInt amount ++ " " ++ unit.name ++ " is out of range"
  | .badRecords trouble => "NEW: " ++ trouble.message
  | .stated text => text

/-- A state that no statement should reach. -/
inductive Impossible where
  | unresolvedReference (variableName attr : String)
  | unknownNode (id : Nat)
  | stated (text : String)
  deriving DecidableEq, Repr

def Impossible.message : Impossible → String
  | .unresolvedReference variableName attr =>
    "unresolved reference " ++ variableName ++ "." ++ attr
  | .unknownNode id => "lineage references unknown variable node " ++ Nat.repr id
  | .stated text => text

inductive HuntError where
  | malformed (place : Text.Position) (fault : Source.Fault)
  | undefinedVariable (name : String)
  | typeMismatch (cause : TypeMismatch)
  | schemaMismatch (cause : SchemaMismatch)
  | noConnector (cause : ConnectorLack)
  | analytics (module : String) (fault : ModuleFault)
  | store (trouble : Trouble)
  | senseless (cause : Senseless)
  | internal (cause : Impossible)
  deriving Repr

namespace HuntError

/-- The name of the kind of an error. -/
def code : HuntError → String
  | .malformed .. => "SyntaxError"
  | .undefinedVariable _ => "UndefinedVariableError"
  | .typeMismatch _ => "TypeMismatchError"
  | .schemaMismatch _ => "SchemaMismatch"
  | .noConnector _ => "NoApplicableConnector"
  | .analytics .. => "AnalyticsError"
  | .store _ => "StoreError"
  | .senseless _ => "SemanticError"
  | .internal _ => "InternalError"

/-- The cause in words. -/
def cause : HuntError → String
  | .malformed _ fault => fault.message
  | .undefinedVariable name => "variable '" ++ name ++ "' is not defined"
  | .typeMismatch cause => cause.message
  | .schemaMismatch cause => cause.message
  | .noConnector cause => cause.message
  | .analytics _ fault => fault.message
  | .store trouble => trouble.top
  | .senseless cause => cause.message
  | .internal cause => cause.message

/-- The cause with the place or the module that it concerns. -/
def message (e : HuntError) : String :=
  match e with
  | .malformed place _ =>
    "line " ++ Nat.repr place.line ++ ", column " ++ Nat.repr place.column ++ ": " ++ e.cause
  | .analytics module _ => "analytics '" ++ module ++ "' failed: " ++ e.cause
  | _ => e.cause

/-- Whether an error is found while reading or planning, before anything is asked or run. -/
def isCompileTime : HuntError → Bool
  | .malformed .. => true
  | .undefinedVariable _ => true
  | .typeMismatch _ => true
  | .schemaMismatch _ => true
  | .senseless _ => true
  | _ => false

/-- A trouble for which no kind was foreseen. -/
def ofTrouble (trouble : Trouble) : HuntError := .internal (.stated trouble.message)

/-- The error of a statement of a source that was misread. -/
def ofMisread (source : String) (m : Source.Misread) : HuntError :=
  .malformed (Text.positionAt source m.offset) m.fault

end HuntError

/-- A failed statement. -/
structure Failure where
  /-- The statement as written. -/
  statement : String
  /-- The line on which it starts. -/
  line : Nat
  error : HuntError
  deriving Repr

/-- The report of a failure on two lines. -/
def Failure.message (f : Failure) : String :=
  "[ERROR] " ++ f.error.code ++ ": " ++ f.error.message ++ "\n  in statement (line " ++
    Nat.repr f.line ++ "): " ++ f.statement

end ThreatHunt
