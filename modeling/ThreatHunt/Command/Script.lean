import ThreatHunt.Command.Reading
import ThreatHunt.Error.Hunt

/-!
Scripts: sources of many statements. A malformed statement fails alone, and reading goes on with
the next one.
-/

namespace ThreatHunt.Script

/-- The statement of a span of a source without comments, or its failure. -/
def readSpan (source : String) (span : Source.Span) : Except Failure PlacedStatement :=
  let text := Text.slice source span.start span.stop
  let place := Text.positionAt source span.start
  match Command.readStatement source span with
  | .ok statement => .ok ⟨text, place.line, place.column, statement⟩
  | .error misread => .error ⟨text, place.line, HuntError.ofMisread source misread⟩

/-- The statements of a source, each read for itself. -/
def read (text : String) : List (Except Failure PlacedStatement) :=
  let source := Source.stripComments text
  (Source.splitStatements source).map (readSpan source)

/-- All statements of a source, or the error of the first that is malformed. -/
def readAll (text : String) : Except HuntError (List Statement) :=
  (read text).mapM (fun r =>
    match r with
    | .ok placed => .ok placed.statement
    | .error failure => .error failure.error)

/-- The pattern that a text writes. -/
def readPattern (text : String) : Except HuntError Pattern :=
  let source := Source.stripComments text
  (Pattern.read source).mapError (HuntError.ofMisread source)

end ThreatHunt.Script
