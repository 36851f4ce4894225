import ThreatHunt.Command.Basic
import ThreatHunt.Pattern.Reading
import ThreatHunt.Json.Reader

/-!
Reading statements.
-/

namespace ThreatHunt.Command

open Source (Parse Lexeme Mark)
open Source.Parse

/-- Words that no variable may have as its name. -/
def reserved : List String :=
  ["GET", "FIND", "JOIN", "SORT", "GROUP", "APPLY", "DISP", "INFO", "SAVE", "LOAD", "NEW",
   "FROM", "WHERE", "BY", "AS", "ON", "WITH", "TO", "ATTR", "LIMIT", "OFFSET", "START", "STOP",
   "LAST", "BETWEEN", "AND", "OR", "NOT", "ASC", "DESC", "TRUE", "FALSE", "NULL"]

/-- The words that open the clauses of a refinement. -/
def clauseWords : List String := ["WHERE", "ATTR", "SORT", "LIMIT", "OFFSET"]

def isOneOf (words : List String) (s : String) : Bool := words.any (Text.sameWord s)

def isReserved (s : String) : Bool := isOneOf reserved s

/-- Whether a word may name a variable: no hyphens, and no keyword. -/
def isVariableName (s : String) : Bool :=
  match s.toList with
  | c :: rest => Source.isWordStart c && rest.all Source.isWordPart && !isReserved s
  | [] => false

def variableName : Parse String := do
  let offset ← place
  let name ← word "a variable name"
  if isVariableName name then return name else failAt offset (.invalidVariable name)

/-- The variable in front of a command's clauses, if there is one. -/
def optionalVariable (clauses : List String) : Parse (Option String) := do
  match ← peek with
  | some (.word s) => if isOneOf clauses s then return none else some <$> variableName
  | _ => return none

def entityTypeName : Parse String := do
  let offset ← place
  let name ← word "an entity type"
  if isReserved name then failAt offset (.keywordAsType name) else return name

def sortOrder : Parse (Option SortOrder) := do
  if ← eatWord "ASC" then return some .ascending
  else if ← eatWord "DESC" then return some .descending
  else return none

def instantLiteral (due : String) : Parse Instant := do
  let offset ← place
  let text ← match ← peek with
    | some (.instant s) => pure s
    | some (.text s) => pure s
    | _ => expected due
  skip
  match Instant.read? text with
  | some t => return t
  | none => failAt offset (.invalidInstant text)

def timeSpan : Parse (Option TimeSpan) := do
  let offset ← place
  if ← eatWord "START" then
    let start ← instantLiteral "a timestamp after START"
    expectWord "STOP"
    let stop ← instantLiteral "a timestamp after STOP"
    if start.le stop then return some (.absolute ⟨start, stop⟩) else failAt offset .reversedWindow
  else if ← eatWord "LAST" then
    let amountOffset ← place
    let amount ← count "a duration after LAST"
    if Text.maxInt64 < amount then failAt amountOffset .durationTooLarge
    else
      let unitOffset ← place
      let name ← word "a time unit (DAYS, HOURS, MINUTES or SECONDS)"
      match TimeUnit.ofWord? name with
      | some unit => return some (.last amount unit)
      | none => failAt unitOffset (.unknownUnit name)
  else return none

def limitClause : Parse (Option Nat) := do
  if ← eatWord "LIMIT" then some <$> count "a row count after LIMIT" else return none

def whereClause : Parse (Option Pattern) := do
  if ← eatWord "WHERE" then some <$> Pattern.reading else return none

/-- Whether a text holds the mark between a scheme and its path. -/
def holdsScheme (s : String) : Bool := (s.splitOn "://").length != 1

def sourceName : Parse Source := do
  match ← peek with
  | some (.uri u) =>
    skip
    return .uri u
  | some (.text s) =>
    skip
    return if holdsScheme s then .uri s else .named s
  | some (.word s) =>
    if isReserved s then expected "a data source"
    else
      skip
      return .named s
  | _ => expected "a data source"

def getCommand : Parse Command := do
  let entityType ← entityTypeName
  let sources ← if ← eatWord "FROM" then commaSeparated sourceName else pure []
  let pattern ← whereClause
  let window ← timeSpan
  let limit ← limitClause
  return .get entityType sources pattern window limit

def findCommand : Parse Command := do
  let first ← entityTypeName
  if ← eatWord "BETWEEN" then
    let source ← variableName
    expectWord "AND"
    let target ← variableName
    let window ← timeSpan
    return .findBetween (Text.lower first) source target window
  else
    let relation ← word "a relation"
    let reversed ← eatWord "BY"
    let input ← variableName
    let pattern ← whereClause
    let window ← timeSpan
    let limit ← limitClause
    return .findRelated first (Text.lower relation) reversed input pattern window limit

def plainAttribute : Parse String := Prod.snd <$> attributeName

def joinCommand : Parse Command := do
  let left ← variableName
  expectMark .comma "','"
  let right ← variableName
  if ← eatWord "BY" then
    let a ← plainAttribute
    let b ← if ← eatMark .comma then plainAttribute else pure a
    return .join left right (some (a, b))
  else return .join left right none

def sortKey : Parse SortKey := do
  let attr ← plainAttribute
  let order ← sortOrder
  return ⟨attr, order⟩

def sortCommand : Parse Command := do
  let input ← optionalVariable ["BY"]
  expectWord "BY"
  let key ← sortKey
  return .sort input key

/-- The name of an aggregation that is written without one. -/
def defaultAlias (func : Aggregate) (attr : String) : String :=
  if attr == "*" then func.name
  else func.name ++ "_" ++ String.ofList (attr.toList.map (fun c => if c == '.' then '_' else c))

def aggregation : Parse Aggregation := do
  let offset ← place
  let name ← word "an aggregation function"
  match Aggregate.ofName? name with
  | none => failAt offset (.unknownAggregation name)
  | some func =>
    expectMark .leftParen "'('"
    let attr ← if ← eatMark .star then pure "*" else plainAttribute
    expectMark .rightParen "')'"
    let name ← if ← eatWord "AS" then variableName else pure (defaultAlias func attr)
    return ⟨func, attr, name⟩

def groupCommand : Parse Command := do
  let input ← optionalVariable ["BY"]
  expectWord "BY"
  let keys ← commaSeparated plainAttribute
  let aggregations ← if ← eatWord "WITH" then commaSeparated aggregation else pure []
  return .group input keys aggregations

def moduleName : Parse String := do
  match ← peek with
  | some (.uri s) =>
    skip
    return s
  | some (.text s) =>
    skip
    return s
  | some (.word s) =>
    if isReserved s then expected "an analytics module"
    else
      skip
      return s
  | _ => expected "an analytics module"

/-- A parameter; a bare word stands for its text. -/
def parameter : Parse (String × Value) := do
  let key ← word "a parameter name"
  expectMark .equal "'='"
  match ← peek with
  | some (.word s) =>
    match wordValue? s with
    | some v =>
      skip
      return (key, v)
    | none =>
      skip
      return (key, .str s)
  | _ =>
    let v ← literal
    return (key, v)

def applyCommand : Parse Command := do
  let module ← moduleName
  expectWord "ON"
  let inputs ← commaSeparated variableName
  let params ← if ← eatWord "WITH" then commaSeparated parameter else pure []
  return .apply module inputs params

/-- Fails if a clause was there before. -/
def once {α : Type} (offset : Nat) (keyword : String) (earlier : Option α) : Parse Unit :=
  if earlier.isSome then failAt offset (.repeatedClause keyword) else return ()

/-- Clauses in any order, each once; `fuel` bounds their number. -/
def clauses : Nat → Refinement → Parse Refinement
  | 0, r => return r
  | fuel + 1, r => do
    let offset ← place
    if ← eatWord "WHERE" then
      once offset "WHERE" r.pattern
      let p ← Pattern.reading
      clauses fuel { r with pattern := some p }
    else if ← eatWord "ATTR" then
      once offset "ATTR" r.attrs
      let attrs ← commaSeparated plainAttribute
      clauses fuel { r with attrs := some attrs }
    else if ← eatWord "SORT" then
      once offset "SORT" r.sort
      expectWord "BY"
      let key ← sortKey
      clauses fuel { r with sort := some key }
    else if ← eatWord "LIMIT" then
      once offset "LIMIT" r.limit
      let n ← count "a row count after LIMIT"
      clauses fuel { r with limit := some n }
    else if ← eatWord "OFFSET" then
      once offset "OFFSET" r.offset
      let n ← count "a row count after OFFSET"
      clauses fuel { r with offset := some n }
    else return r

/-- The clauses of a refinement: at most six words open one before a repetition fails. -/
def refinement : Parse Refinement := clauses 6 Refinement.none

/-- The names after the first of a sum. -/
def summands : Parse (List String) := separated (eatMark .plus) variableName

/-- A variable alone, a sum of variables, or a variable with clauses. -/
def expression : Parse Command := do
  let first ← variableName
  if ← eatMark .plus then
    let rest ← summands
    return .merge (first :: rest)
  else if ← atEnd then return .assign first
  else
    let next ← peek
    if (next.map (fun l => clauseWords.any l.isWord)).getD false then
      let r ← refinement
      return .refine first r
    else expected "WHERE, ATTR, SORT BY, LIMIT, OFFSET or '+'"

def displayCommand : Parse Command := do
  let input ← optionalVariable clauseWords
  let r ← refinement
  return .display input r

def targetName (due : String) : Parse String := do
  match ← peek with
  | some (.uri s) =>
    skip
    return s
  | some (.text s) =>
    skip
    return s
  | _ => expected due

def saveCommand : Parse Command := do
  let input ← optionalVariable ["TO"]
  expectWord "TO"
  let target ← targetName "a quoted path or URI after TO"
  return .save input target

def loadCommand : Parse Command := do
  let target ← targetName "a quoted path or URI after LOAD"
  let entityType ← if ← eatWord "AS" then some <$> entityTypeName else pure none
  return .load target entityType

/-- The byte of a text at which a JSON fault is shown: one before its column, on its line. -/
def faultByte (s : String) (fault : Json.Fault) : Nat :=
  match fault.position with
  | none => Text.byteLength s.toList
  | some p =>
    let lines := (s.toList.splitOn '\n').map Text.byteLength
    match lines[p.line - 1]? with
    | some length =>
      (lines.take (p.line - 1)).foldr (fun before n => before + 1 + n) 0 + min (p.column - 1) length
    | none => Text.byteLength s.toList

/-- Inline records: the rest of the statement is a JSON list. -/
def createCommand (source : String) : Parse Command := do
  let entityType ← match ← peek with
    | some (.word _) => some <$> entityTypeName
    | _ => pure none
  if ← atMark .leftBracket then
    let start ← place
    let stop ← endPlace
    let text := Text.slice source start stop
    match Json.read text with
    | .error fault => failAt (start + faultByte text fault) (.invalidJson fault)
    | .ok (.arr records) =>
      skipAll
      return .create entityType records
    | .ok _ => failAt start .notJsonArray
  else expected "a JSON array of records"

/-- A command that binds nothing; it may not be assigned. -/
def readOnly (assigned : Bool) (keyword : String) (command : Parse Command) : Parse Command := do
  let offset ← place
  if assigned then failAt offset (.unassignable keyword)
  else
    skip
    command

/-- A command. Only the right-hand side of an assignment may be a variable. -/
def command (source : String) (assigned : Bool) : Parse Command := do
  if ← eatWord "GET" then getCommand
  else if ← eatWord "FIND" then findCommand
  else if ← eatWord "JOIN" then joinCommand
  else if ← eatWord "SORT" then sortCommand
  else if ← eatWord "GROUP" then groupCommand
  else if ← eatWord "APPLY" then applyCommand
  else if ← eatWord "LOAD" then loadCommand
  else if ← eatWord "NEW" then createCommand source
  else if ← atWord "DISP" then readOnly assigned "DISP" displayCommand
  else if ← atWord "INFO" then readOnly assigned "INFO" (.info <$> optionalVariable [])
  else if ← atWord "SAVE" then readOnly assigned "SAVE" saveCommand
  else if assigned then
    match ← peek with
    | some (.word _) => expression
    | _ => expected "a command or variable"
  else expected "a command"

/-- The variable on the left of an assignment, if there is one. -/
def assignee : Parse (Option String) := do
  match ← peek, ← peekSecond with
  | some (.word _), some (.mark .equal) =>
    let name ← variableName
    skip
    return some name
  | _, _ => return none

def statement (source : String) : Parse Statement := do
  let output ← assignee
  let command ← command source output.isSome
  if ← atEnd then return ⟨output, command⟩ else expected "end of statement"

/-- The statement that a span of a source without comments writes. -/
def readStatement (source : String) (span : Source.Span) : Except Source.Misread Statement := do
  let tokens ← Source.lex source span
  let (s, _) ← statement source span.stop tokens
  return s

end ThreatHunt.Command
