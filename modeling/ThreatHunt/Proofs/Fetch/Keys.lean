import ThreatHunt.Fetch.Cache
import ThreatHunt.Hunt.Planning
import ThreatHunt.Proofs.Command.Reading
import ThreatHunt.Proofs.Hunt.Planned

/-!
Keys of fetches. Queries with one key bring the same entities unless their texts hide that they
differ: instants of one millisecond, a whole number of either kind, or an attribute `NOT`.
-/

namespace ThreatHunt

open Outcome

namespace Scene

theorem takes_of_membership? {op operator : Operator} (member : membership? op = some operator) :
    operator.takes = .list := by
  cases op <;> simp only [membership?, Option.some.injEq, reduceCtorEq] at member <;>
    subst member <;> rfl

theorem settled_of_resolveComparison {s : Scene} {c d : Comparison} (written : c.Written)
    (resolved : s.resolveComparison c = .ok d) : d.Settled := by
  cases resolveComparison_eq_ok.1 resolved with
  | plain plain =>
    rcases written.fits with fits | ⟨var, column, refers⟩
    · exact ⟨written.named, fits⟩
    · exact absurd refers (plain var column)
  | reference _ _ _ member => exact ⟨written.named, .list _ (takes_of_membership? member)⟩

/-- What a pattern of a statement becomes has no references left. -/
theorem settled_of_preparePattern {s : Scene} {about : String} {pattern : Option Pattern}
    {q : Pattern} (written : ∀ p, pattern = some p → p.Made Comparison.Written)
    (prepared : s.preparePattern about pattern = .ok (some q)) : q.Settled := by
  cases pattern with
  | none => nomatch prepared
  | some p =>
    obtain ⟨_, _, _, resolved, same⟩ := preparePattern_eq_ok.1 prepared
    obtain rfl := Option.some.inj same
    exact Pattern.made_of_mapM (fun _ _ => settled_of_resolveComparison) (written p rfl) resolved

end Scene

namespace EntityQuery

/-- A query whose pattern is that of a fetch in a script, with all references resolved. -/
def Stated (q : EntityQuery) : Prop :=
  ∃ (s : Scene) (text about entityType : String) (placed : PlacedStatement) (sources : List Source)
    (pattern : Option Pattern) (span : Option TimeSpan) (limit : Option Nat),
    .ok placed ∈ Script.read text ∧
      placed.statement.command = .get entityType sources pattern span limit ∧
      s.preparePattern about pattern = .ok q.pattern

/-- Whether an entity satisfies the pattern and the window of a query. -/
def admits (timeAttributes : List String) (q : EntityQuery) (e : Entity) : Bool :=
  Pattern.admits? q.pattern e && Window.admits? timeAttributes q.window e

/-- The comparisons of the pattern, if there is one. -/
def comparisons (q : EntityQuery) : List Comparison := (q.pattern.map Pattern.comparisons).getD []

theorem Stated.settled {q : EntityQuery} (stated : q.Stated) {p : Pattern}
    (pattern : q.pattern = some p) : p.Settled := by
  obtain ⟨s, text, about, entityType, placed, sources, written, span, limit, member, command,
    prepared⟩ := stated
  rw [pattern] at prepared
  refine Scene.settled_of_preparePattern (fun p there => ?_) prepared
  rw [there] at command
  exact Script.fetchesWritten_of_mem_read member _ _ p _ _ command

/-- A fetch that a text writes, if its pattern has no references. -/
theorem stated_of_text {text entityType : String} {span : Source.Span}
    {tokens : List Source.Token} {sources : List Source} {pattern : Pattern}
    (plain : Source.stripComments text = text) (one : Source.splitStatements text = [span])
    (lexed : (Source.lex text span).toOption = some tokens)
    (parsed : Command.statement text span.stop tokens =
      .ok (⟨none, .get entityType sources (some pattern) none none⟩, []))
    (prepared : (default : Scene).preparePattern entityType (some pattern) = .ok (some pattern)) :
    Stated ⟨entityType, some pattern, none, none⟩ := by
  obtain ⟨placed, member, statement⟩ := Script.mem_read plain one lexed parsed
  exact ⟨default, text, entityType, entityType, placed, sources, some pattern, none, none, member,
    by rw [statement], prepared⟩

/-- The queries that plans ask connectors are of statements. -/
theorem stated_of_plan {s : Scene} {q : EntityQuery} {connectors : List Connector}
    {finish : Fetched → Product} {text : String} (member : .ok s.statement ∈ Script.read text)
    (planned : s.plan = .ok (.fetch q connectors finish)) : q.Stated := by
  obtain ⟨entityType, named, pattern, span, limit, command, gets⟩ := Scene.get_of_fetch planned
  obtain ⟨_, prepared, window, _, _, _, ready, _, _, _, rest⟩ := Scene.planGet_eq_ok gets
  rcases rest with ⟨_, _, same⟩ | ⟨_, same⟩
  · cases same
  · obtain ⟨rfl, _, _⟩ := Plan.fetch.inj same
    exact ⟨s, text, entityType, entityType, _, named, pattern, span, limit, member, command, ready⟩

end EntityQuery

namespace Pattern

/-- No pattern is written like the text that stands for none. -/
theorem normalText_ne_star {p : Pattern} (settled : p.Settled) : p.normalText ≠ "*" := by
  intro same
  have front := settled.front []
  rw [same] at front
  rcases front with ⟨more, paren⟩ | ⟨c, good, _, test⟩ | ⟨part, _, negation⟩
  · exact absurd (List.cons.inj paren).1 (by decide)
  · obtain ⟨first, more, start, name⟩ := good.starts
    rw [start] at test
    rw [← (List.cons.inj test).1] at name
    exact absurd name (by decide)
  · exact absurd (List.cons.inj negation).1 (by decide)

/-- Patterns that may be missing match the same entities if they are written alike. -/
theorem admits?_eq {pattern pattern' : Option Pattern} (settled : ∀ p, pattern = some p → p.Settled)
    (settled' : ∀ p, pattern' = some p → p.Settled)
    (clear : ∀ c ∈ (pattern.map comparisons).getD [], ∀ d ∈ (pattern'.map comparisons).getD [],
      ¬Comparison.Confusable c d)
    (alike : (pattern.map normalText).getD "*" = (pattern'.map normalText).getD "*") (e : Entity) :
    admits? pattern e = admits? pattern' e := by
  cases pattern with
  | none =>
    cases pattern' with
    | none => rfl
    | some p' => exact absurd alike.symm (normalText_ne_star (settled' p' rfl))
  | some p =>
    cases pattern' with
    | none => exact absurd alike (normalText_ne_star (settled p rfl))
    | some p' =>
      have texts : p.normalText.toList ++ [] = p'.normalText.toList ++ [] :=
        congrArg (fun s => s.toList ++ []) alike
      exact (told (settled p rfl) (settled' p' rfl) clear Splits.rest_nil Splits.rest_nil
        texts).admits e

end Pattern

namespace FetchKey

/-- Queries under one key ask for the same entities if no comparison of the one is confused with
one of the other. -/
theorem admits_eq_of_ofQuery_eq {name : String} {q q' : EntityQuery} (stated : q.Stated)
    (stated' : q'.Stated) (same : ofQuery name q = ofQuery name q')
    (clear : ∀ c ∈ q.comparisons, ∀ d ∈ q'.comparisons, ¬Comparison.Confusable c d)
    (timeAttributes : List String) (e : Entity) :
    q.admits timeAttributes e = q'.admits timeAttributes e := by
  obtain ⟨_, _, texts, windows, _⟩ := FetchKey.mk.inj same
  have patterns : Pattern.admits? q.pattern e = Pattern.admits? q'.pattern e :=
    Pattern.admits?_eq (fun _ => stated.settled) (fun _ => stated'.settled) clear texts e
  unfold EntityQuery.admits
  rw [patterns, windows]

/-- The query for the processes that one of two patterns admits. -/
def eitherQuery (p p' : Pattern) : EntityQuery := ⟨"process", some (.any [p, p']), none, none⟩

def namedTest : Pattern := .test ⟨"name", none, .equal, .value (.str "x")⟩

def numberedTest (numbers : List Int) : Pattern :=
  .test ⟨"pid", none, .isIn, .list (numbers.map .int)⟩

theorem admits_eq_of_ofQuery_eq_swapped :
    (eitherQuery namedTest (numberedTest [4, 7])).Stated ∧
    (eitherQuery (numberedTest [7, 4, 7]) namedTest).Stated ∧
    ofQuery "c" (eitherQuery namedTest (numberedTest [4, 7])) =
      ofQuery "c" (eitherQuery (numberedTest [7, 4, 7]) namedTest) ∧
    ∀ (timeAttributes : List String) (e : Entity),
      (eitherQuery namedTest (numberedTest [4, 7])).admits timeAttributes e =
        (eitherQuery (numberedTest [7, 4, 7]) namedTest).admits timeAttributes e := by
  have stated : (eitherQuery namedTest (numberedTest [4, 7])).Stated :=
    EntityQuery.stated_of_text
      (show Source.stripComments "GET process FROM c WHERE name = 'x' OR pid IN (4, 7)" = _
        by decide +kernel)
      (show _ = [⟨0, 52⟩] by decide +kernel)
      (show _ = some [⟨.word "GET", 0⟩, ⟨.word "process", 4⟩, ⟨.word "FROM", 12⟩, ⟨.word "c", 17⟩,
        ⟨.word "WHERE", 19⟩, ⟨.word "name", 25⟩, ⟨.mark .equal, 30⟩, ⟨.text "x", 32⟩,
        ⟨.word "OR", 36⟩, ⟨.word "pid", 39⟩, ⟨.word "IN", 43⟩, ⟨.mark .leftParen, 46⟩,
        ⟨.number "4", 47⟩, ⟨.mark .comma, 48⟩, ⟨.number "7", 50⟩, ⟨.mark .rightParen, 51⟩]
        by decide +kernel)
      rfl rfl
  have stated' : (eitherQuery (numberedTest [7, 4, 7]) namedTest).Stated :=
    EntityQuery.stated_of_text
      (show Source.stripComments "GET process FROM c WHERE pid IN (7, 4, 7) OR name = 'x'" = _
        by decide +kernel)
      (show _ = [⟨0, 55⟩] by decide +kernel)
      (show _ = some [⟨.word "GET", 0⟩, ⟨.word "process", 4⟩, ⟨.word "FROM", 12⟩, ⟨.word "c", 17⟩,
        ⟨.word "WHERE", 19⟩, ⟨.word "pid", 25⟩, ⟨.word "IN", 29⟩, ⟨.mark .leftParen, 32⟩,
        ⟨.number "7", 33⟩, ⟨.mark .comma, 34⟩, ⟨.number "4", 36⟩, ⟨.mark .comma, 37⟩,
        ⟨.number "7", 39⟩, ⟨.mark .rightParen, 40⟩, ⟨.word "OR", 42⟩, ⟨.word "name", 45⟩,
        ⟨.mark .equal, 50⟩, ⟨.text "x", 52⟩]
        by decide +kernel)
      rfl rfl
  have numbers : (numberedTest [4, 7]).normalText = (numberedTest [7, 4, 7]).normalText := by
    have items : sortedTexts ([4, 7].map (fun n : Int => (Value.int n).literal)) =
        sortedTexts ([7, 4, 7].map (fun n : Int => (Value.int n).literal)) :=
      sortedTexts_eq_iff.2 (fun s => by simp; tauto)
    exact congrArg (fun texts => "pid IN (" ++ ", ".intercalate texts ++ ")") items
  have parts : sortedTexts [namedTest.normalText, (numberedTest [4, 7]).normalText] =
      sortedTexts [(numberedTest [7, 4, 7]).normalText, namedTest.normalText] :=
    sortedTexts_eq_iff.2 (fun s => by rw [numbers]; simp [or_comm])
  have same : ofQuery "c" (eitherQuery namedTest (numberedTest [4, 7])) =
      ofQuery "c" (eitherQuery (numberedTest [7, 4, 7]) namedTest) := by
    simp only [ofQuery, eitherQuery, Option.map, Pattern.normalText, Pattern.joinParts,
      Pattern.normalTexts, parts]
  refine ⟨stated, stated', same, admits_eq_of_ofQuery_eq stated stated' same ?_⟩
  intro c there d here
  have kinds : c ∈ [Comparison.mk "name" none .equal (.value (.str "x")),
      ⟨"pid", none, .isIn, .list [.int 4, .int 7]⟩] := there
  have kinds' : d ∈ [Comparison.mk "pid" none .isIn (.list [.int 7, .int 4, .int 7]),
      ⟨"name", none, .equal, .value (.str "x")⟩] := here
  simp only [List.mem_cons, List.not_mem_nil, or_false] at kinds kinds'
  rcases kinds with rfl | rfl <;> rcases kinds' with rfl | rfl <;>
    refine Comparison.not_confusable (by decide) ?_ <;>
      simp only [Comparison.candidates, List.mem_cons, List.not_mem_nil] <;>
      grind [Value.Lookalikes]

/-- The query for the processes with a time stamp in the first second of 2024. -/
def stampQuery (nano : Nat) : EntityQuery :=
  ⟨"process", some (.test ⟨"ts", none, .equal, .value (.time ⟨1704067200, nano⟩)⟩), none, none⟩

/-- Queries for two instants of one millisecond share a key. -/
theorem ofQuery_confuses_instants :
    ¬∀ (name : String) (q q' : EntityQuery), q.Stated → q'.Stated →
      ofQuery name q = ofQuery name q' →
      ∀ (timeAttributes : List String) (e : Entity),
        q.admits timeAttributes e = q'.admits timeAttributes e := by
  intro sound
  have stated : (stampQuery 1000).Stated :=
    EntityQuery.stated_of_text
      (show Source.stripComments "GET process FROM c WHERE ts = t'2024-01-01T00:00:00.000001Z'" = _
        by decide +kernel)
      (show _ = [⟨0, 60⟩] by decide +kernel)
      (show _ = some [⟨.word "GET", 0⟩, ⟨.word "process", 4⟩, ⟨.word "FROM", 12⟩, ⟨.word "c", 17⟩,
        ⟨.word "WHERE", 19⟩, ⟨.word "ts", 25⟩, ⟨.mark .equal, 28⟩,
        ⟨.instant "2024-01-01T00:00:00.000001Z", 30⟩] by decide +kernel)
      rfl rfl
  have stated' : (stampQuery 2000).Stated :=
    EntityQuery.stated_of_text
      (show Source.stripComments "GET process FROM c WHERE ts = t'2024-01-01T00:00:00.000002Z'" = _
        by decide +kernel)
      (show _ = [⟨0, 60⟩] by decide +kernel)
      (show _ = some [⟨.word "GET", 0⟩, ⟨.word "process", 4⟩, ⟨.word "FROM", 12⟩, ⟨.word "c", 17⟩,
        ⟨.word "WHERE", 19⟩, ⟨.word "ts", 25⟩, ⟨.mark .equal, 28⟩,
        ⟨.instant "2024-01-01T00:00:00.000002Z", 30⟩] by decide +kernel)
      rfl rfl
  have same : ofQuery "c" (stampQuery 1000) = ofQuery "c" (stampQuery 2000) := by decide +kernel
  have told := sound "c" _ _ stated stated' same []
    ⟨"process--1", Dict.ofList [("ts", .time ⟨1704067200, 2000⟩)]⟩
  revert told
  decide +kernel

/-! The condition cannot be dropped. -/

/-- The query for the entities that pass one comparison. -/
def ofComparison (entityType : String) (c : Comparison) : EntityQuery :=
  ⟨entityType, some (.test c), none, none⟩

theorem admits_ofComparison {entityType : String} {c : Comparison} {e : Entity} :
    (ofComparison entityType c).admits [] e = c.admits e := by
  simp [EntityQuery.admits, ofComparison, Pattern.admits?, Window.admits?, Pattern.admits]

/-- Values that are confused give queries under one key that some entity tells apart. -/
theorem told_apart_of_confusable {op : Operator} {v w : Value}
    (confused : Value.Confusable op.positive.1 v w) (some : op.takes ≠ .nothing)
    (name entityType attr : String) :
    let q := ofComparison entityType ⟨attr, none, op, op.alone v⟩
    let q' := ofComparison entityType ⟨attr, none, op, op.alone w⟩
    ofQuery name q = ofQuery name q' ∧ ∃ e, q.admits [] e ≠ q'.admits [] e := by
  intro q q'
  have texts : Comparison.text ⟨attr, none, op, op.alone v⟩ =
      Comparison.text ⟨attr, none, op, op.alone w⟩ := by
    cases op <;> first
      | exact absurd rfl some
      | simp [Comparison.text, Operator.alone, Operator.takes, confused.alike]
  refine ⟨congrArg (fun text => FetchKey.mk name entityType text none none) texts, ?_⟩
  obtain ⟨u, told⟩ := confused.told
  have value : Entity.valueOf ⟨"", Dict.empty.insert attr (.list [u])⟩ attr = .list [u] := by
    simp [Entity.valueOf, Dict.find?_insert]
  have holds : ∀ x, Comparison.holdsOf op.positive.1 (op.alone x) u =
      Comparison.relates op.positive.1 u x := by
    intro x
    cases op <;> first
      | exact absurd rfl some
      | simp [Comparison.holdsOf, Operator.alone, Operator.takes, Operator.positive,
          Operator.takesPattern]
  refine ⟨⟨"", Dict.empty.insert attr (.list [u])⟩, fun same => told ?_⟩
  rw [admits_ofComparison, admits_ofComparison, Comparison.admits_singleton some value,
    Comparison.admits_singleton some value, holds, holds] at same
  exact Bool.bne_left_inj.1 same

/-- An attribute `NOT` gives queries under one key that an entity without attributes tells apart. -/
theorem told_apart_of_not {c d : Comparison} (settled : c.Settled) (settled' : d.Settled)
    (attr : c.attr = "NOT") (attr' : d.attr = "NOT")
    (sign : c.operator.sign = "NOT " ++ d.operator.sign)
    (alike : Comparison.operandText c.operand = Comparison.operandText d.operand)
    (name entityType : String) :
    let q := ofComparison entityType c
    let q' : EntityQuery := ⟨entityType, some (.negation (.test d)), none, none⟩
    ofQuery name q = ofQuery name q' ∧ ∃ e, q.admits [] e ≠ q'.admits [] e := by
  intro q q'
  have texts : c.text = (Pattern.negation (.test d)).normalText := by
    refine String.toList_inj.1 ?_
    rw [Pattern.normalText_negation, Pattern.normalText, settled.text_eq, settled'.text_eq, attr,
      attr', sign, alike]
    simp
  refine ⟨congrArg (fun text => FetchKey.mk name entityType text none none) texts, ?_⟩
  refine ⟨⟨"", Dict.empty⟩, ?_⟩
  have missing : Entity.valueOf ⟨"", Dict.empty⟩ "NOT" = .null := rfl
  have some := Operator.takes_of_negated sign
  have left : q.admits [] ⟨"", Dict.empty⟩ = false := by
    rw [admits_ofComparison]
    exact Comparison.admits_null some.1 (attr ▸ missing)
  have right : q'.admits [] ⟨"", Dict.empty⟩ = true := by
    simp [q', EntityQuery.admits, Pattern.admits?, Window.admits?, Pattern.admits,
      Comparison.admits_null some.2 (attr' ▸ missing)]
  rw [left, right]
  exact Bool.false_ne_true

end FetchKey
end ThreatHunt
