import ThreatHunt.Json.Text
import ThreatHunt.Text.Quoted

/-!
Why a text is not JSON, or not the JSON that was asked for.
-/

namespace ThreatHunt.Json

/-- A line counted from 1 and the number of bytes before a place in it. -/
structure Position where
  line : Nat
  column : Nat
  deriving DecidableEq, Repr, Inhabited

inductive Cause where
  | endInList
  | endInObject
  | endInString
  | endInValue
  | colonExpected
  | listCommaExpected
  | objectCommaExpected
  | wordExpected
  | valueExpected
  | keyExpected
  | invalidEscape
  | invalidNumber
  | numberOutOfRange
  | controlCharacter
  | loneSurrogate
  | endOfHexEscape
  | trailingComma
  | trailingCharacters
  | tooDeep
  /-- A value of another kind than expected. -/
  | wrongType (found expected : String)
  /-- A value of the right kind outside its range. -/
  | wrongValue (found expected : String)
  | wrongLength (length : Nat) (expected : String)
  | missingField (name : String)
  | duplicateField (name : String)
  | unknownVariant (found : String) (known : List String)
  | custom (text : String)
  deriving DecidableEq, Repr

/-- Whether a fault lies in the spelling of a string. -/
def Cause.isOfString : Cause → Bool
  | .endInString | .invalidEscape | .controlCharacter | .loneSurrogate | .endOfHexEscape => true
  | _ => false

/-- A list of alternatives, each between backticks. -/
def alternatives (names : List String) : String :=
  let marked := names.map (fun n => "`" ++ n ++ "`")
  match marked with
  | [a] => a
  | [a, b] => a ++ " or " ++ b
  | many => "one of " ++ ", ".intercalate many

def Cause.message : Cause → String
  | .endInList => "EOF while parsing a list"
  | .endInObject => "EOF while parsing an object"
  | .endInString => "EOF while parsing a string"
  | .endInValue => "EOF while parsing a value"
  | .colonExpected => "expected `:`"
  | .listCommaExpected => "expected `,` or `]`"
  | .objectCommaExpected => "expected `,` or `\x7d`"
  | .wordExpected => "expected ident"
  | .valueExpected => "expected value"
  | .keyExpected => "key must be a string"
  | .invalidEscape => "invalid escape"
  | .invalidNumber => "invalid number"
  | .numberOutOfRange => "number out of range"
  | .controlCharacter =>
    "control character (\\u0000-\\u001F) found while parsing a string"
  | .loneSurrogate => "lone leading surrogate in hex escape"
  | .endOfHexEscape => "unexpected end of hex escape"
  | .trailingComma => "trailing comma"
  | .trailingCharacters => "trailing characters"
  | .tooDeep => "recursion limit exceeded"
  | .wrongType found expected => "invalid type: " ++ found ++ ", expected " ++ expected
  | .wrongValue found expected => "invalid value: " ++ found ++ ", expected " ++ expected
  | .wrongLength length expected =>
    "invalid length " ++ Nat.repr length ++ ", expected " ++ expected
  | .missingField name => "missing field `" ++ name ++ "`"
  | .duplicateField name => "duplicate field `" ++ name ++ "`"
  | .unknownVariant found known =>
    "unknown variant `" ++ found ++ "`, expected " ++ alternatives known
  | .custom text => text

/-- A cause, and the place where it was found if the value was read from a text. -/
structure Fault where
  cause : Cause
  position : Option Position
  deriving DecidableEq, Repr

def Fault.message (f : Fault) : String :=
  match f.position with
  | none => f.cause.message
  | some p =>
    f.cause.message ++ " at line " ++ Nat.repr p.line ++ " column " ++ Nat.repr p.column

/-- A value as a message about the wrong kind names it. -/
def describe : Json → String
  | .null => "null"
  | .bool b => "boolean `" ++ (if b then "true" else "false") ++ "`"
  | .int i => "integer `" ++ Text.ofInt i ++ "`"
  | .float x => "floating point `" ++ Decimal.write Decimal.signedScientific x ++ "`"
  | .str s => "string " ++ Text.quoted s
  | .arr _ => "sequence"
  | .obj _ => "map"

end ThreatHunt.Json
