import ThreatHunt.Command.Document
import ThreatHunt.Connector.Basic
import ThreatHunt.Hunt.Basic

/-!
What statements produce, with the requests and issues behind it, as JSON documents.
-/

namespace ThreatHunt

def EntityQuery.toJson (q : EntityQuery) : Json :=
  .obj [("entity_type", .str q.entityType), ("pattern", .ofOption Pattern.toJson q.pattern),
    ("window", .ofOption Window.toJson q.window), ("limit", .ofOption .ofNat q.limit)]

def Issue.toJson (issue : Issue) : Json :=
  let (kind, detail) : String × Json := match issue with
    | .timedOut millis => ("timeout", .ofNat millis)
    | .failed text => ("error", .str text)
  .obj [("kind", .str kind), ("detail", detail)]

def VariableSummary.toJson (s : VariableSummary) : Json :=
  .obj [("name", .str s.name), ("entity_type", .str s.entityType), ("row_count", .ofNat s.rowCount),
    ("attributes", .ofTexts s.attributes), ("command", .str s.command)]

def Coverage.toJson (c : Coverage) : Json :=
  let (status, issue) : String × Json := match c with
    | .complete origin => ("ok", .str origin.name)
    | .degraded issue => ("degraded", issue.toJson)
  .obj [("status", .str status), ("issue", issue)]

def Outcome.toJson (o : Outcome) : Json :=
  .obj [("connector", .str o.connector), ("status", o.coverage.toJson),
    ("entities", .ofNat o.entities)]

def FetchReport.toJson (r : FetchReport) : Json :=
  .obj [("entity_type", .str r.entityType), ("outcomes", .arr (r.outcomes.map Outcome.toJson)),
    ("warnings", .ofTexts (r.warnings.map Warning.message))]

def Display.toJson : Display → Json
  | .table columns rows =>
    .obj [("kind", .str "table"), ("columns", .ofTexts columns),
      ("rows", .arr (rows.map (fun row => .arr (row.map Value.toJson))))]
  | .info entries =>
    .obj [("kind", .str "info"), ("entries", .arr (entries.map (fun e => .ofTexts [e.1, e.2])))]

def Completion.toJson (c : Completion) : Json :=
  .obj [("statement", .str c.statement), ("line", .ofNat c.line), ("command", .str c.command),
    ("bound", .arr (c.bound.map VariableSummary.toJson)),
    ("display", .ofOption Display.toJson c.display),
    ("report", .ofOption FetchReport.toJson c.report),
    ("warnings", .ofTexts (c.warnings.map Warning.message)), ("summary", .ofTexts c.summary)]

end ThreatHunt
