import Mathlib.Data.List.Forall2
import ThreatHunt.Command.Script
import ThreatHunt.Proofs.Command.Placed
import ThreatHunt.Proofs.Source.LexBytes
import ThreatHunt.Proofs.Source.Stands

/-!
Reading a source byte by byte. Whatever is cut out of the source is cut where characters begin: the
statements, the texts of lexemes and inline records. So the reading that checks each cut never
fails, and gives a result for each statement.
-/

namespace ThreatHunt

namespace Source

open Text (Located locateFrom byteLength cut? isBoundary)

/-! Steps of reading that cut the source. -/

/-- A step of reading that may fail to cut the source. -/
def Cutting (α : Type) : Type := Nat → List Token → Option (Except Misread (α × List Token))

namespace Cutting

variable {α β : Type}

instance : Monad Cutting where
  pure a := fun _ tokens => some (.ok (a, tokens))
  bind step next := fun stop tokens =>
    match step stop tokens with
    | none => none
    | some (.error misread) => some (.error misread)
    | some (.ok (a, rest)) => next a stop rest

/-- A step that cuts nothing. -/
def of (step : Parse α) : Cutting α := fun stop tokens => some (step stop tokens)

/-- Cuts a text out of a source, if both ends are boundaries. -/
def cut (source : String) (start stop : Nat) : Cutting String := fun _ tokens =>
  (cut? source start stop).map (fun text => .ok (text, tokens))

end Cutting

/-! Where the source may be cut. -/

/-- Tokens that begin at characters of a statement, which ends where a character does. -/
structure Anchored (source : String) (span : Span) (tokens : List Token) : Prop
    extends Placed span tokens where
  boundary : ∀ t ∈ tokens, isBoundary source t.offset = true
  last : isBoundary source span.stop = true

variable {source : String} {span : Span} {tokens rest : List Token}

theorem Anchored.suffix (anchored : Anchored source span tokens) (left : rest <:+ tokens) :
    Anchored source span rest :=
  ⟨anchored.toPlaced.suffix left, fun t member => anchored.boundary t (left.subset member),
    anchored.last⟩

/-- The rest of a statement can be cut out from the next token on. -/
theorem Anchored.cut?_next (anchored : Anchored source span tokens) :
    cut? source ((tokens.head?.map Token.offset).getD span.stop) span.stop =
      some (Text.slice source ((tokens.head?.map Token.offset).getD span.stop) span.stop) := by
  have held := anchored.toPlaced.next
  refine if_pos ⟨held.2, ?_, anchored.last⟩
  cases tokens with
  | nil => exact anchored.last
  | cons t tokens => exact anchored.boundary t List.mem_cons_self

namespace Cutting

variable {α β : Type} {step : Parse α} {cutting : Cutting α} {more : α → Cutting β}
  {next : α → Parse β}

/-- A step that checks its cuts does the same as one that does not. -/
def Checks (source : String) (span : Span) (cutting : Cutting α) (step : Parse α) : Prop :=
  ∀ tokens, Anchored source span tokens → cutting span.stop tokens = some (step span.stop tokens)

theorem checks_of (step : Parse α) : Checks source span (of step) step := fun _ _ => rfl

theorem checks_pure (a : α) : Checks source span (pure a) (pure a) := fun _ _ => rfl

theorem Checks.bind (first : Checks source span cutting step) (stays : Parse.Stays span step)
    (second : ∀ a, Checks source span (more a) (next a)) :
    Checks source span (cutting >>= more) (step >>= next) := by
  intro tokens anchored
  obtain ⟨-, leaves⟩ := stays tokens anchored.toPlaced
  have same := first tokens anchored
  unfold Bind.bind Monad.toBind instMonad Parse.instMonad
  dsimp only
  rw [same]
  cases taken : step span.stop tokens with
  | error misread => rfl
  | ok made => exact second made.1 made.2 (anchored.suffix (leaves made.1 made.2 taken))

/-- A step that is chosen by a test. -/
theorem Checks.choose {test : Parse Bool} {yes no : Cutting β} {yes' no' : Parse β}
    (tested : Parse.Stays span test) (first : Checks source span yes yes')
    (second : Checks source span no no') :
    Checks source span (do if ← of test then yes else no) (do if ← test then yes' else no') := by
  refine (checks_of test).bind tested (fun holds => ?_)
  cases holds with
  | true => exact first
  | false => exact second

/-- From the next token on the rest of the statement is cut out. -/
theorem checks_cut {cutting : Nat → String → Cutting β} {step : Nat → Nat → Parse β}
    (each : ∀ start, span.Holds start →
      Checks source span (cutting start (Text.slice source start span.stop)) (step start span.stop)) :
    Checks source span
      (do
        let start ← of Parse.place
        let stop ← of Parse.endPlace
        let text ← cut source start stop
        cutting start text)
      (do
        let start ← Parse.place
        let stop ← Parse.endPlace
        step start stop) := by
  intro tokens anchored
  have cuts := anchored.cut?_next
  have same := each _ anchored.toPlaced.next tokens anchored
  unfold Bind.bind Monad.toBind instMonad Parse.instMonad
  dsimp only [of, cut, Parse.place, Parse.endPlace]
  rw [cuts]
  exact same

end Cutting

end Source

namespace Command

open Source (Parse Cutting Misread Token Lexeme)
open Source.Parse

/-- Inline records behind the type of their entities. -/
def inlineRecords (source : String) (entityType : Option String) : Parse Command := do
  if ← atMark .leftBracket then
    let start ← place
    let stop ← endPlace
    let text := Text.slice source start stop
    match Json.read text with
    | .error fault => failAt (start + faultByte text fault) (.invalidJson fault)
    | .ok (.arr records) =>
      skipAll
      return .create entityType records
    | .ok _ => failAt start .notJsonArray
  else expected "a JSON array of records"

theorem createCommand_eq (source : String) : createCommand source = (do
    match ← peek with
    | some (.word _) => (some <$> entityTypeName) >>= inlineRecords source
    | _ => pure none >>= inlineRecords source) := by
  refine bind_congr (fun next => ?_)
  rcases next with _ | ⟨s⟩ | _ | _ | _ | _ | _
  all_goals
    refine bind_congr (fun entityType => bind_congr (fun bracket => ?_))
    cases bracket with
    | false => exact (if_neg Bool.false_ne_true).trans (if_neg Bool.false_ne_true).symm
    | true =>
      refine (if_pos rfl).trans (Eq.trans ?_ (if_pos rfl).symm)
      refine bind_congr (fun start => bind_congr (fun stop => ?_))
      generalize Text.slice source start stop = text
      rcases read : Json.read text with fault | _ | _ | _ | _ | _ | _ | _
      all_goals simp only [read]

/-- Inline records, with their text cut out of the source. -/
def inlineCutting (source : String) (entityType : Option String) : Cutting Command := do
  if ← Cutting.of (atMark .leftBracket) then
    let start ← Cutting.of place
    let stop ← Cutting.of endPlace
    let text ← Cutting.cut source start stop
    match Json.read text with
    | .error fault => Cutting.of (failAt (start + faultByte text fault) (.invalidJson fault))
    | .ok (.arr records) =>
      Cutting.of skipAll
      return .create entityType records
    | .ok _ => Cutting.of (failAt start .notJsonArray)
  else Cutting.of (expected "a JSON array of records")

def createCutting (source : String) : Cutting Command := do
  match ← Cutting.of peek with
  | some (.word _) => Cutting.of (some <$> entityTypeName) >>= inlineCutting source
  | _ => pure none >>= inlineCutting source

/-- A command; only inline records are cut out of the source. -/
def commandCutting (source : String) (assigned : Bool) : Cutting Command := do
  if ← Cutting.of (atWord "NEW") then
    Cutting.of skip
    createCutting source
  else Cutting.of (command source assigned)

def statementCutting (source : String) : Cutting Statement := do
  let output ← Cutting.of assignee
  let command ← commandCutting source output.isSome
  if ← Cutting.of atEnd then return ⟨output, command⟩
  else Cutting.of (expected "end of statement")

/-! Statements. -/

variable {source : String} {span : Source.Span}

theorem checks_inlineCutting (entityType : Option String) :
    Cutting.Checks source span (inlineCutting source entityType)
      (inlineRecords source entityType) := by
  refine Cutting.Checks.choose (stays_atMark _) (Cutting.checks_cut (fun start held => ?_))
    (Cutting.checks_of _)
  dsimp only
  generalize Text.slice source start span.stop = text
  cases Json.read text with
  | error fault => exact Cutting.checks_of _
  | ok value =>
    cases value with
    | arr records => exact (Cutting.checks_of _).bind stays_skipAll (fun _ => Cutting.checks_pure _)
    | _ => exact Cutting.checks_of _

theorem checks_createCutting :
    Cutting.Checks source span (createCutting source) (createCommand source) := by
  rw [createCommand_eq]
  refine (Cutting.checks_of peek).bind stays_peek (fun next => ?_)
  rcases next with _ | ⟨s⟩ | _ | _ | _ | _ | _
  case some.word =>
    exact (Cutting.checks_of _).bind stays_entityTypeName.map checks_inlineCutting
  all_goals exact (Cutting.checks_pure none).bind (stays_pure none) checks_inlineCutting

/-- A word that is one keyword is no other. -/
theorem not_isWord {l : Lexeme} {name other : String} (same : l.isWord name = true)
    (apart : Text.sameWord name other = false) : l.isWord other = false := by
  cases l with
  | word s =>
    have lowered := eq_of_beq same
    unfold Text.sameWord at apart
    rw [← lowered] at apart
    exact apart
  | _ => rfl

section New

variable {α : Type} {t : Token} {rest : List Token} {stop : Nat} {name : String}
  {next : Bool → Parse α}

theorem atWord_bind : (atWord name >>= next) stop (t :: rest) =
    next (t.lexeme.isWord name) stop (t :: rest) := rfl

theorem of_atWord_bind {next : Bool → Cutting α} :
    (Cutting.of (atWord name) >>= next) stop (t :: rest) =
      next (t.lexeme.isWord name) stop (t :: rest) := rfl

theorem eatWord_bind_same (same : t.lexeme.isWord name = true) :
    (eatWord name >>= next) stop (t :: rest) = next true stop rest := by
  have eats : eatWord name stop (t :: rest) = .ok (true, rest) := by
    unfold eatWord
    rw [atWord_bind, same]
    rfl
  exact bind_of_ok eats

theorem eatWord_bind_other (other : t.lexeme.isWord name = false) :
    (eatWord name >>= next) stop (t :: rest) = next false stop (t :: rest) := by
  have leaves : eatWord name stop (t :: rest) = .ok (false, t :: rest) := by
    unfold eatWord
    rw [atWord_bind, other]
    rfl
  exact bind_of_ok leaves

/-- Of all commands, only one that begins with `NEW` is read on there. -/
theorem command_new (new : t.lexeme.isWord "NEW" = true) (assigned : Bool) :
    command source assigned stop (t :: rest) = createCommand source stop rest := by
  unfold command
  iterate 7
    rw [eatWord_bind_other (not_isWord new (by decide)), if_neg Bool.false_ne_true]
  rw [eatWord_bind_same new, if_pos rfl]

end New

/-- A command that begins with another word cuts nothing. -/
theorem checks_commandCutting (assigned : Bool) :
    Cutting.Checks source span (commandCutting source assigned) (command source assigned) := by
  intro tokens anchored
  cases tokens with
  | nil => rfl
  | cons t rest =>
    have left : Source.Anchored source span rest := anchored.suffix (List.suffix_cons t rest)
    cases new : t.lexeme.isWord "NEW" with
    | true =>
      rw [command_new new, commandCutting, of_atWord_bind, new, if_pos rfl]
      exact checks_createCutting rest left
    | false =>
      rw [commandCutting, of_atWord_bind, new, if_neg Bool.false_ne_true]
      rfl

theorem checks_statementCutting (inside : CutsInside source span) :
    Cutting.Checks source span (statementCutting source) (statement source) :=
  (Cutting.checks_of _).bind stays_assignee (fun output =>
    (checks_commandCutting output.isSome).bind (stays_command inside _) (fun _ =>
      Cutting.Checks.choose stays_atEnd (Cutting.checks_pure _) (Cutting.checks_of _)))

end Command

/-! Tokens. -/

namespace Source

open Text (locateFrom byteLength isBoundary)

variable {s : String} {span : Span} {front inner behind : List Char} {tokens : List Token}

/-- Tokens one behind the other in a statement, each at the beginning of a character. -/
structure Ordered (s : String) (span : Span) (tokens : List Token) : Prop where
  increasing : (tokens.map Token.offset).Pairwise (· < ·)
  inside : ∀ t ∈ tokens, span.start ≤ t.offset ∧ t.offset < span.stop
  boundary : ∀ t ∈ tokens, isBoundary s t.offset = true

namespace Stands

theorem lex_eq_lexFrom (stands : Stands s span front inner behind) :
    lex s span = lexFrom span.stop none (locateFrom span.start (inner ++ behind)) := by
  have stop : span.start + byteLength inner = span.stop := by rw [stands.start, stands.stop]
  rw [lex, stands.charactersFrom_eq, Text.locateFrom_append, stop]

theorem isBoundary_stop (stands : Stands s span front inner behind) :
    isBoundary s span.stop = true := by
  rw [stands.stop, ← Text.byteLength_append]
  have whole : s.toList = (front ++ inner) ++ behind := by rw [stands.text, List.append_assoc]
  exact Text.isBoundary_of_append whole

theorem ordered (stands : Stands s span front inner behind) (read : lex s span = .ok tokens) :
    Ordered s span tokens := by
  rw [stands.lex_eq_lexFrom] at read
  obtain ⟨sublist, before⟩ :=
    first_sublist span.stop none (locateFrom span.start (inner ++ behind))
  obtain rfl := eq_of_lexFrom read
  constructor
  case increasing =>
    have firsts := (Text.pairwise_locateFrom span.start (inner ++ behind)).sublist sublist
    rw [List.pairwise_map] at firsts
    rw [List.map_map, List.pairwise_map]
    exact firsts
  all_goals
    intro t member
    obtain ⟨m, met, rfl⟩ := List.mem_map.1 member
    have first := sublist.subset (List.mem_map_of_mem met)
  case inside => exact ⟨(Text.offset_of_mem_locateFrom first).1, before m met⟩
  case boundary =>
    obtain ⟨lead, rest, split, place⟩ := Text.split_of_mem_locateFrom first
    have whole : s.toList = (front ++ lead) ++ rest := by
      rw [stands.text, split, List.append_assoc]
    have boundary := Text.isBoundary_of_append whole
    rw [Text.byteLength_append, ← stands.start, ← place] at boundary
    exact boundary

theorem anchored (stands : Stands s span front inner behind) (ordered : Ordered s span tokens) :
    Anchored s span tokens where
  order := stands.order
  each t member := ⟨(ordered.inside t member).1, Nat.le_of_lt (ordered.inside t member).2⟩
  boundary := ordered.boundary
  last := stands.isBoundary_stop

end Stands

end Source

/-! Sources. -/

namespace Script

open Source (Span Stands)
open Text (bytes utf8 cut?)

/-- The tokens of a statement that is scanned byte by byte. -/
def lexChecked? (source : String) (span : Span) :
    Option (Except Source.Misread (List Source.Token)) :=
  Source.lexBytes source span.stop none span.start
    (((utf8 source).drop span.start).take (span.stop - span.start))

/-- The statement that a span of a source writes, with all cuts of the source checked. -/
def readStatementChecked? (source : String) (span : Span) :
    Option (Except Source.Misread Statement) :=
  match lexChecked? source span with
  | none => none
  | some (.error misread) => some (.error misread)
  | some (.ok tokens) =>
    (Command.statementCutting source span.stop tokens).map (fun result => result.map Prod.fst)

/-- The statement of a span or its failure, with all cuts of the source checked. -/
def readSpanChecked? (source : String) (span : Span) : Option (Except Failure PlacedStatement) := do
  let text ← cut? source span.start span.stop
  let place := Text.positionAt source span.start
  match ← readStatementChecked? source span with
  | .ok statement => some (.ok ⟨text, place.line, place.column, statement⟩)
  | .error misread => some (.error ⟨text, place.line, HuntError.ofMisread source misread⟩)

/-- The statements of a source that is scanned byte by byte, with all cuts of it checked. -/
def readChecked? (text : String) : Option (List (Except Failure PlacedStatement)) := do
  let source ← String.fromUTF8? (Source.blankBytes .code (utf8 text)).toByteArray
  let spans ← Source.splitBytes source Source.Splitter.initial.onBytes 0 0 (utf8 source)
  spans.mapM (readSpanChecked? source)

variable {s : String} {span : Span} {front inner behind : List Char}

theorem lexChecked?_eq (stands : Stands s span front inner behind) :
    lexChecked? s span = some (Source.lex s span) := by
  have lexed := Source.lexedAlike none front inner behind stands.text
  have within : ((utf8 s).drop span.start).take (span.stop - span.start) = bytes inner := by
    rw [stands.stop, stands.start, Nat.add_sub_cancel_left, Text.drop_utf8 stands.text,
      Text.bytes_append, ← Text.length_bytes, List.take_left]
  unfold Source.LexedAlike at lexed
  rw [← stands.stop, ← stands.start, ← stands.lex_eq_lexFrom] at lexed
  rw [lexChecked?, within, lexed]

/-- No cut of the source fails while a statement is read. -/
theorem readStatementChecked?_eq (stands : Stands s span front inner behind) :
    readStatementChecked? s span = some (Command.readStatement s span) := by
  unfold readStatementChecked? Command.readStatement
  rw [lexChecked?_eq stands]
  cases read : Source.lex s span with
  | error misread => rfl
  | ok tokens =>
    have same := Command.checks_statementCutting (Command.cutsInside stands) tokens
      (stands.anchored (stands.ordered read))
    dsimp only [Bind.bind, Except.bind]
    rw [same]
    cases Command.statement s span.stop tokens with
    | error misread => rfl
    | ok made => rfl

theorem readSpanChecked?_eq (stands : Stands s span front inner behind) :
    readSpanChecked? s span = some (readSpan s span) := by
  have text := Text.cut?_middle stands.text
  rw [← stands.stop, ← stands.start] at text
  rw [readSpanChecked?, text, readStatementChecked?_eq stands, readSpan, stands.slice_whole]
  dsimp only [Option.bind_eq_bind, Option.bind_some]
  cases Command.readStatement s span with
  | error misread => rfl
  | ok statement => rfl

theorem mapM_eq_map {α β : Type} {f : α → Option β} {g : α → β} {as : List α}
    (each : ∀ a ∈ as, f a = some (g a)) : as.mapM f = some (as.map g) := by
  induction as with
  | nil => rfl
  | cons a as ih =>
    obtain ⟨first, others⟩ := List.forall_mem_cons.1 each
    rw [List.mapM_cons, first, ih others]
    rfl

/-- The text of the statement that a result is about. -/
def statementText : Except Failure PlacedStatement → String
  | .ok placed => placed.text
  | .error failure => failure.statement

/-- What a failure of a statement that is read can be. -/
theorem readSpan_shape (s : String) (span : Span) :
    statementText (readSpan s span) = Text.slice s span.start span.stop ∧
      ∀ failure, readSpan s span = .error failure → failure.error.code = "SyntaxError" := by
  unfold readSpan
  cases Command.readStatement s span with
  | error misread =>
    refine ⟨rfl, ?_⟩
    rintro _ ⟨⟩
    rfl
  | ok statement => exact ⟨rfl, nofun⟩

/-- A source is read as a whole: no cut of it fails, and no statement is left out. -/
structure ReadsWhole (text : String) : Prop where
  /-- The scanning of bytes, with every cut checked to be between characters. -/
  checked : readChecked? text = some (read text)
  /-- One result for each statement, in their order. -/
  results : List.Forall₂
    (fun span result => statementText result = Text.slice (Source.stripComments text) span.start
      span.stop ∧ ∀ failure, result = .error failure → failure.error.code = "SyntaxError")
    (Source.splitStatements (Source.stripComments text)) (read text)
  tokens : ∀ span ∈ Source.splitStatements (Source.stripComments text),
    lexChecked? (Source.stripComments text) span =
      some (Source.lex (Source.stripComments text) span) ∧
    ∀ tokens, Source.lex (Source.stripComments text) span = .ok tokens →
      Source.Ordered (Source.stripComments text) span tokens

/-- Every source is read as a whole. -/
theorem readsWhole (text : String) : ReadsWhole text := by
  constructor
  case checked =>
    rw [readChecked?, Source.fromUTF8?_blankBytes, Option.bind_eq_bind, Option.bind_some,
      Source.splitBytes_eq, Option.bind_eq_bind, Option.bind_some, read]
    refine mapM_eq_map (fun span member => ?_)
    obtain ⟨front, inner, behind, stands⟩ := Source.exists_stands member
    exact readSpanChecked?_eq stands
  case results =>
    rw [read, List.forall₂_map_right_iff]
    exact List.forall₂_same.2 (fun span _ => readSpan_shape _ span)
  case tokens =>
    intro span member
    obtain ⟨front, inner, behind, stands⟩ := Source.exists_stands member
    exact ⟨lexChecked?_eq stands, fun tokens read => stands.ordered read⟩

end Script

end ThreatHunt
