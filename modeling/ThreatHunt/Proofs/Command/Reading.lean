import ThreatHunt.Command.Script
import ThreatHunt.Proofs.Pattern.Reading

/-!
What statements are read as. The pattern of a statement that fetches is one that is written, for what
it is read from are the words of the statement; a statement that searches names its relation in lower
case. No other statement fetches or searches.
-/

namespace ThreatHunt.Command

open Source Source.Parse

/-- Whether the pattern that a command fetches with, if any, is one that is written. -/
def FetchesWritten (c : Command) : Prop :=
  ∀ entityType sources p window limit, c = .get entityType sources (some p) window limit →
    Pattern.Made Comparison.Written p

/-- The relation that a command follows. -/
def relation? : Command → Option String
  | .findBetween relation _ _ _ => some relation
  | .findRelated _ relation _ _ _ _ _ => some relation
  | _ => none

/-- Whether a command follows the relation that a word names, in whatever case it is written. -/
def Searches (c : Command) : Prop := ∃ word, c.relation? = some (Text.lower word)

/-- Whether a command neither fetches nor searches. -/
def Plain : Command → Prop
  | .get .. | .findBetween .. | .findRelated .. => False
  | _ => True

theorem Searches.written {c : Command} (searches : Searches c) : FetchesWritten c := by
  rintro _ _ _ _ _ rfl
  obtain ⟨_, none⟩ := searches
  nomatch none

theorem Plain.written {c : Command} (plain : Plain c) : FetchesWritten c := by
  rintro _ _ _ _ _ rfl
  exact plain.elim

theorem Plain.relation? {c : Command} (plain : Plain c) : c.relation? = none := by
  cases c <;> first | rfl | exact plain.elim

theorem gives_entityTypeName : Gives Worded entityTypeName (fun _ => True) Worded := by
  refine gives_place.bind (fun offset _ => (gives_word _).bind (fun name _ => ?_))
  split
  · exact gives_failAt _ _
  · exact gives_pure trivial

theorem gives_sourceName : Gives Worded sourceName (fun _ => True) Worded := by
  refine gives_peek.bind (fun next _ => ?_)
  split
  · exact gives_skip.bind (fun _ _ => gives_pure trivial)
  · exact gives_skip.bind (fun _ _ => gives_pure trivial)
  · split
    · exact gives_expected _
    · exact gives_skip.bind (fun _ _ => gives_pure trivial)
  · exact gives_expected _

theorem gives_whereClause : Gives Worded whereClause
    (fun pattern => ∀ p, pattern = some p → Pattern.Made Comparison.Written p) Worded := by
  refine (gives_eatWord "WHERE").bind (fun clause _ => ?_)
  cases clause with
  | true =>
    refine (Pattern.gives_reading.mono (fun p made => ?_)).map
    rintro _ ⟨⟩
    exact made
  | false => exact gives_pure (fun _ none => nomatch none)

theorem gives_getCommand :
    Gives Worded getCommand (fun c => FetchesWritten c ∧ c.relation? = none) Any := by
  refine gives_entityTypeName.bind (fun entityType _ => ?_)
  have rest : ∀ sources : List ThreatHunt.Source, Gives Worded (do
      let pattern ← whereClause
      let window ← timeSpan
      let limit ← limitClause
      return Command.get entityType sources pattern window limit)
        (fun c => FetchesWritten c ∧ c.relation? = none) Any := by
    intro sources
    refine gives_whereClause.bind (fun pattern written => (gives_any _).bind (fun window _ =>
      (gives_any _).bind (fun limit _ => gives_pure ⟨?_, rfl⟩)))
    rintro _ _ p _ _ ⟨⟩
    exact written p rfl
  refine (gives_eatWord "FROM").bind (fun named _ => ?_)
  cases named with
  | true => exact (gives_separated (gives_eatMark .comma) gives_sourceName).bind (fun _ _ => rest _)
  | false => exact rest []

theorem gives_findCommand : Gives Any findCommand Searches Any := by
  refine gives_after fun first => gives_after fun between => ?_
  cases between with
  | true =>
    exact gives_after fun _ => gives_after fun _ => gives_after fun _ => gives_after fun _ =>
      gives_pure ⟨first, rfl⟩
  | false =>
    exact gives_after fun relation => gives_after fun _ => gives_after fun _ => gives_after fun _ =>
      gives_after fun _ => gives_after fun _ => gives_pure ⟨relation, rfl⟩

/-! Commands that neither fetch nor search. -/

theorem gives_joinCommand : Gives Any joinCommand Plain Any := by
  refine gives_after fun left => gives_after fun _ => gives_after fun right =>
    gives_after fun keyed => ?_
  cases keyed with
  | true =>
    refine gives_after fun a => gives_after fun pair => ?_
    cases pair with
    | true => exact gives_after fun _ => gives_pure trivial
    | false => exact gives_after fun _ => gives_pure trivial
  | false => exact gives_pure trivial

theorem gives_sortCommand : Gives Any sortCommand Plain Any :=
  gives_after fun _ => gives_after fun _ => gives_after fun _ => gives_pure trivial

theorem gives_groupCommand : Gives Any groupCommand Plain Any := by
  refine gives_after fun _ => gives_after fun _ => gives_after fun _ => gives_after fun more => ?_
  cases more with
  | true => exact gives_after fun _ => gives_pure trivial
  | false => exact gives_after fun _ => gives_pure trivial

theorem gives_applyCommand : Gives Any applyCommand Plain Any := by
  refine gives_after fun _ => gives_after fun _ => gives_after fun _ => gives_after fun more => ?_
  cases more with
  | true => exact gives_after fun _ => gives_pure trivial
  | false => exact gives_after fun _ => gives_pure trivial

theorem gives_loadCommand : Gives Any loadCommand Plain Any := by
  refine gives_after fun _ => gives_after fun typed => ?_
  cases typed with
  | true => exact gives_after fun _ => gives_pure trivial
  | false => exact gives_after fun _ => gives_pure trivial

theorem gives_saveCommand : Gives Any saveCommand Plain Any :=
  gives_after fun _ => gives_after fun _ => gives_after fun _ => gives_pure trivial

theorem gives_displayCommand : Gives Any displayCommand Plain Any :=
  gives_after fun _ => gives_after fun _ => gives_pure trivial

theorem gives_infoCommand : Gives Any (.info <$> optionalVariable []) Plain Any :=
  gives_after fun _ => gives_pure trivial

theorem gives_createCommand (source : String) :
    Gives Any (createCommand source) Plain Any := by
  refine gives_after fun next => ?_
  split
  all_goals
    refine gives_after fun entityType => gives_after fun opened => ?_
    cases opened with
    | false => exact gives_expected _
    | true =>
      refine gives_after fun start => gives_after fun stop => ?_
      dsimp only
      split
      · exact gives_failAt _ _
      · exact gives_after fun _ => gives_pure trivial
      · exact gives_failAt _ _

theorem gives_expression : Gives Any expression Plain Any := by
  refine gives_after fun first => gives_after fun sum => ?_
  cases sum with
  | true => exact gives_after fun _ => gives_pure trivial
  | false =>
    refine gives_after fun alone => ?_
    cases alone with
    | true => exact gives_pure trivial
    | false =>
      refine gives_after fun next => ?_
      split
      · exact gives_after fun _ => gives_pure trivial
      · exact gives_expected _

theorem gives_readOnly {assigned : Bool} {keyword : String} {command : Parse Command}
    (gives : Gives Any command Plain Any) :
    Gives Any (readOnly assigned keyword command) Plain Any := by
  refine gives_after fun offset => ?_
  split
  · exact gives_failAt _ _
  · exact gives_after fun _ => gives

/-! Statements. -/

variable {Kept : Command → Prop}

/-- A command that is told by its first word. -/
theorem gives_told {word : String} {first others : Parse Command}
    (found : Gives Worded first Kept Any) (other : Gives Worded others Kept Any) :
    Gives Worded (do if ← eatWord word then first else others) Kept Any := by
  refine (gives_eatWord word).bind (fun told _ => ?_)
  cases told with
  | true => exact found
  | false => exact other

/-- What holds of fetches, of searches and of all other commands. -/
theorem gives_command (fetches : ∀ c, FetchesWritten c → c.relation? = none → Kept c)
    (searches : ∀ c, Searches c → Kept c) (plain : ∀ c, Plain c → Kept c) (source : String)
    (assigned : Bool) : Gives Worded (command source assigned) Kept Any := by
  have quiet : ∀ {step : Parse Command}, Gives Any step Plain Any → Gives Worded step Kept Any :=
    fun gives => (gives.mono plain).forget
  refine gives_told (gives_getCommand.mono (fun c both => fetches c both.1 both.2))
    (gives_told (gives_findCommand.mono searches).forget
    (gives_told (quiet gives_joinCommand) (gives_told (quiet gives_sortCommand)
      (gives_told (quiet gives_groupCommand) (gives_told (quiet gives_applyCommand)
        (gives_told (quiet gives_loadCommand) (gives_told (quiet (gives_createCommand source))
          (quiet ?_))))))))
  refine gives_after fun display => ?_
  cases display with
  | true => exact gives_readOnly gives_displayCommand
  | false =>
    refine gives_after fun info => ?_
    cases info with
    | true => exact gives_readOnly gives_infoCommand
    | false =>
      refine gives_after fun save => ?_
      cases save with
      | true => exact gives_readOnly gives_saveCommand
      | false =>
        rw [if_neg Bool.false_ne_true]
        split
        · refine gives_after fun next => ?_
          split
          · exact gives_expression
          · exact gives_expected _
        · exact gives_expected _

theorem gives_assignee : Gives Worded assignee (fun _ => True) Worded := by
  refine gives_peek.bind (fun next _ => gives_peekSecond.bind (fun second _ => ?_))
  split
  · have name : Gives Worded variableName (fun _ => True) Worded := by
      refine gives_place.bind (fun offset _ => (gives_word _).bind (fun name _ => ?_))
      split
      · exact gives_pure trivial
      · exact gives_failAt _ _
    exact name.bind (fun _ _ => gives_skip.bind (fun _ _ => gives_pure trivial))
  · exact gives_pure trivial

theorem gives_statement {source : String}
    (kept : ∀ assigned, Gives Worded (command source assigned) Kept Any) :
    Gives Worded (statement source) (fun s => Kept s.command) Any := by
  refine gives_assignee.bind (fun output _ => (kept _).bind (fun c holds => ?_))
  refine (gives_any atEnd).bind (fun ended _ => ?_)
  cases ended with
  | true => exact gives_pure holds
  | false => exact gives_expected _

theorem kept_of_readStatement {source : String} {span : Source.Span} {s : Statement}
    (kept : ∀ assigned, Gives Worded (command source assigned) Kept Any)
    (read : readStatement source span = .ok s) : Kept s.command := by
  unfold readStatement at read
  cases lexed : Source.lex source span with
  | error misread =>
    rw [lexed] at read
    nomatch read
  | ok tokens =>
    rw [lexed] at read
    cases parsed : statement source span.stop tokens with
    | error misread =>
      simp only [bind, Except.bind, parsed] at read
      nomatch read
    | ok made =>
      simp only [bind, Except.bind, parsed, pure, Except.pure, Except.ok.injEq] at read
      subst read
      exact (gives_statement kept span.stop tokens made.1 made.2 (worded_lex lexed) parsed).1

end ThreatHunt.Command

namespace ThreatHunt.Script

/-- What holds of all commands that are read holds of those of a script. -/
theorem kept_of_mem_read (Kept : Command → Prop) {text : String} {placed : PlacedStatement}
    (kept : ∀ source assigned,
      Source.Parse.Gives Source.Worded (Command.command source assigned) Kept Source.Parse.Any)
    (member : .ok placed ∈ read text) : Kept placed.statement.command := by
  obtain ⟨span, _, made⟩ := List.mem_map.1 member
  unfold readSpan at made
  cases outcome : Command.readStatement (Source.stripComments text) span with
  | error misread =>
    rw [outcome] at made
    nomatch made
  | ok statement =>
    rw [outcome] at made
    rw [← Except.ok.inj made]
    exact Command.kept_of_readStatement (kept _) outcome

/-- The patterns of the fetches of a script are written ones. -/
theorem fetchesWritten_of_mem_read {text : String} {placed : PlacedStatement}
    (member : .ok placed ∈ read text) : placed.statement.command.FetchesWritten :=
  kept_of_mem_read Command.FetchesWritten (Command.gives_command (fun _ written _ => written)
    (fun _ searches => searches.written) (fun _ plain => plain.written)) member

/-- The searches of a script name their relations in lower case, in whatever case these are
written. -/
theorem searches_of_mem_read {text : String} {placed : PlacedStatement}
    (member : .ok placed ∈ read text) : ∀ relation,
      placed.statement.command.relation? = some relation → ∃ word, relation = Text.lower word := by
  refine kept_of_mem_read (fun c => ∀ relation, c.relation? = some relation →
    ∃ word, relation = Text.lower word) (Command.gives_command ?_ ?_ ?_) member
  · exact fun c _ none relation named => nomatch none.symm.trans named
  · rintro c ⟨word, searches⟩ relation named
    exact ⟨word, Option.some.inj (named.symm.trans searches)⟩
  · exact fun c plain relation named => nomatch plain.relation?.symm.trans named

/-- A text of one statement is read as that statement. -/
theorem mem_read {text : String} {span : Source.Span} {tokens rest : List Source.Token}
    {s : Statement} (plain : Source.stripComments text = text)
    (one : Source.splitStatements text = [span])
    (lexed : (Source.lex text span).toOption = some tokens)
    (parsed : Command.statement text span.stop tokens = .ok (s, rest)) :
    ∃ placed, .ok placed ∈ read text ∧ placed.statement = s := by
  have made : Command.readStatement text span = .ok s := by
    unfold Command.readStatement
    cases outcome : Source.lex text span with
    | error misread =>
      rw [outcome] at lexed
      nomatch lexed
    | ok found =>
      rw [outcome] at lexed
      obtain rfl := Option.some.inj lexed
      simp only [bind, Except.bind, parsed, pure, Except.pure]
  unfold read
  rw [plain]
  dsimp only
  rw [one, List.map_singleton, readSpan, made]
  exact ⟨_, List.mem_singleton_self _, rfl⟩

end ThreatHunt.Script
