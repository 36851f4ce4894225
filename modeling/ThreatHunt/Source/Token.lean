import ThreatHunt.Json.Fault
import ThreatHunt.Text.Words

/-!
Tokens of statements, and why a source is not a list of statements.
-/

namespace ThreatHunt.Source

/-- Signs. -/
inductive Mark where
  | leftParen
  | rightParen
  | leftBracket
  | rightBracket
  | leftBrace
  | rightBrace
  | comma
  | colon
  | dot
  | plus
  | star
  | equal
  | notEqual
  | less
  | lessEqual
  | greater
  | greaterEqual
  deriving DecidableEq, Repr, Inhabited

def Mark.sign : Mark → String
  | .leftParen => "("
  | .rightParen => ")"
  | .leftBracket => "["
  | .rightBracket => "]"
  | .leftBrace => "\x7b"
  | .rightBrace => "\x7d"
  | .comma => ","
  | .colon => ":"
  | .dot => "."
  | .plus => "+"
  | .star => "*"
  | .equal => "="
  | .notEqual => "!="
  | .less => "<"
  | .lessEqual => "<="
  | .greater => ">"
  | .greaterEqual => ">="

inductive Lexeme where
  /-- A name or keyword as written; a name may contain single hyphens. -/
  | word (text : String)
  | text (text : String)
  /-- A text marked as an instant. -/
  | instant (text : String)
  | number (text : String)
  | uri (text : String)
  | mark (mark : Mark)
  deriving DecidableEq, Repr, Inhabited

/-- A lexeme as a message names it. -/
def Lexeme.shown : Lexeme → String
  | .word s => "'" ++ s ++ "'"
  | .text s => "string '" ++ s ++ "'"
  | .instant s => "timestamp t'" ++ s ++ "'"
  | .number s => "number " ++ s
  | .uri s => "'" ++ s ++ "'"
  | .mark m => "'" ++ m.sign ++ "'"

/-- Whether a lexeme ends an operand, so that a hyphen after it starts no number. -/
def Lexeme.endsOperand : Lexeme → Bool
  | .word _ | .number _ | .text _ => true
  | .mark .rightParen | .mark .rightBracket => true
  | _ => false

/-- Whether a lexeme is a keyword, in any case of letters. -/
def Lexeme.isWord (word : String) : Lexeme → Bool
  | .word s => Text.sameWord s word
  | _ => false

structure Token where
  lexeme : Lexeme
  /-- The byte at which the token starts. -/
  offset : Nat
  deriving DecidableEq, Repr, Inhabited

inductive Fault where
  | openText
  | strayBackslash
  | strayCharacter (char : Char)
  /-- Something was due where another lexeme or the end of the statement stands. -/
  | expected (due : String) (found : Option Lexeme)
  | invalidInstant (text : String)
  | invalidNumber (text : String)
  | notCount (due text : String)
  | durationTooLarge
  | unknownUnit (word : String)
  | reversedWindow
  | tooDeep (limit : Nat)
  | nullOperand (operator : String)
  | patternOperand (operator : String)
  | invalidVariable (name : String)
  | keywordAsType (word : String)
  | unassignable (keyword : String)
  | unknownAggregation (name : String)
  | repeatedClause (keyword : String)
  | invalidJson (fault : Json.Fault)
  | notJsonArray
  /-- A fault reported in words. -/
  | stated (text : String)
  deriving DecidableEq, Repr

def Fault.message : Fault → String
  | .openText => "unterminated string literal"
  | .strayBackslash => "unexpected '\\'"
  | .strayCharacter c => "unexpected character '" ++ c.toString ++ "'"
  | .expected due found =>
    "expected " ++ due ++ ", found " ++ (found.map Lexeme.shown).getD "end of statement"
  | .invalidInstant s => "invalid timestamp '" ++ s ++ "'"
  | .invalidNumber s => "invalid number '" ++ s ++ "'"
  | .notCount due s => due ++ " must be a non-negative integer, found " ++ s
  | .durationTooLarge => "duration after LAST is too large"
  | .unknownUnit word => "unknown time unit '" ++ word ++ "'"
  | .reversedWindow => "START must not be later than STOP"
  | .tooDeep limit => "pattern nests deeper than " ++ Nat.repr limit ++ " levels"
  | .nullOperand operator => "NULL cannot be used with " ++ operator
  | .patternOperand operator => operator ++ " expects a quoted pattern"
  | .invalidVariable name => "'" ++ name ++ "' is not a valid variable name"
  | .keywordAsType word => "expected an entity type, found keyword '" ++ word ++ "'"
  | .unassignable keyword => keyword ++ " does not produce a variable and cannot be assigned"
  | .unknownAggregation name => "unknown aggregation '" ++ name ++ "'"
  | .repeatedClause keyword => "duplicate " ++ keyword ++ " clause"
  | .invalidJson fault => "invalid JSON: " ++ fault.message
  | .notJsonArray => "NEW expects a JSON array"
  | .stated text => text

/-- A fault and the byte at which it was found. -/
structure Misread where
  offset : Nat
  fault : Fault
  deriving DecidableEq, Repr

end ThreatHunt.Source
