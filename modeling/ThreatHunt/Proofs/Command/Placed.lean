import ThreatHunt.Command.Reading
import ThreatHunt.Proofs.Source.Stands

/-!
Faults of statements are placed in the statement that is read. Only the reading of inline records
looks at the source again, and what it looks at is the statement too.
-/

/-! Patterns. -/

namespace ThreatHunt.Pattern

open Source Source.Parse

variable {span : Span}

theorem stays_operator : Stays span operator := by
  refine Stays.bind stays_peek (fun next => ?_)
  split
  · split
    · exact stays_pass _
    · exact stays_expected _
  · split
    · exact stays_pass _
    · refine (stays_eatWord "IS").choose ?_ ((stays_eatWord "NOT").choose ?_ (stays_expected _))
      · exact (stays_eatWord "NOT").bind (fun _ => (stays_expectWord "NULL").bind
          (fun _ => stays_pure _))
      · refine Stays.bind stays_peek (fun next => ?_)
        split
        · split
          · exact stays_pass _
          · exact stays_expected _
        · exact stays_expected _
  · exact stays_expected _

theorem stays_referenceVariable : Stays span referenceVariable := by
  refine Stays.bind stays_peek (fun next => Stays.bind stays_peekSecond (fun second => ?_))
  split <;> exact stays_pure _

theorem stays_listItems : Stays span listItems :=
  (stays_atMark .rightParen).choose (stays_pure []) (stays_commaSeparated stays_literal)

theorem stays_operand (op : Operator) : Stays span (operand op) := by
  refine Stays.bind stays_referenceVariable (fun var => ?_)
  split
  · exact Stays.bind stays_skip (fun _ => Stays.bind stays_skip (fun _ => (stays_word _).bind
      (fun _ => stays_pure _)))
  · split
    · exact (stays_expectMark _ _).bind (fun _ => Stays.bind stays_listItems (fun _ =>
        (stays_expectMark _ _).bind (fun _ => stays_pure _)))
    · exact Stays.bind stays_literal (fun _ => stays_pure _)

theorem stays_comparisonOf {offset : Nat} (held : span.Holds offset) (entityType : Option String)
    (attr : String) (op : Operator) (operand : Operand) :
    Stays span (comparisonOf offset entityType attr op operand) := by
  unfold comparisonOf
  split
  · split
    · exact stays_pure _
    · split
      · exact stays_pure _
      · exact stays_failAt held _
  · exact stays_pure _
  · split
    · exact stays_failAt held _
    · exact stays_pure _

theorem stays_comparison : Stays span comparison := by
  refine Stays.bind stays_attributeName (fun name => Stays.place (fun offset held =>
    Stays.bind stays_operator (fun op => ?_)))
  split
  · exact stays_pure _
  · exact (stays_operand op).bind (fun _ => stays_comparisonOf held _ _ _ _)

theorem stays_disjunction {item : Parse Pattern} (each : Stays span item) :
    Stays span (disjunction item) := by
  have conjunctions : Stays span (conjunction item) :=
    (stays_separated (stays_eatWord "AND") each).bind (fun _ => stays_pure _)
  exact (stays_separated (stays_eatWord "OR") conjunctions).bind (fun _ => stays_pure _)

theorem stays_failTooDeep : Stays span (failTooDeep : Parse Pattern) :=
  Stays.place (fun _ held => stays_failAt held _)

theorem stays_term (depth : Nat) : Stays span (term depth) := by
  have test : Stays span (do let c ← comparison; return .test c : Parse Pattern) :=
    Stays.bind stays_comparison (fun _ => stays_pure _)
  induction depth with
  | zero =>
    exact (stays_eatWord "NOT").choose stays_failTooDeep ((stays_eatMark .leftParen).choose
      stays_failTooDeep ((stays_eatMark .leftBracket).choose stays_failTooDeep test))
  | succ depth ih =>
    have inner : ∀ (mark : Mark) (due : String), Stays span (do
        let inner ← disjunction (term depth)
        expectMark mark due
        return inner) := fun mark due =>
      (stays_disjunction ih).bind (fun _ => (stays_expectMark mark due).bind
        (fun _ => stays_pure _))
    exact (stays_eatWord "NOT").choose (ih.bind (fun _ => stays_pure _))
      ((stays_eatMark .leftParen).choose (inner .rightParen _)
        ((stays_eatMark .leftBracket).choose (inner .rightBracket _) test))

theorem stays_reading : Stays span reading := stays_disjunction (stays_term depthLimit)

end ThreatHunt.Pattern

namespace ThreatHunt.Command

open Source Source.Parse

variable {span : Span}

/-! Names and clauses. -/

theorem stays_variableName : Stays span variableName := by
  refine Stays.place (fun offset held => (stays_word _).bind (fun name => ?_))
  split
  · exact stays_pure _
  · exact stays_failAt held _

theorem stays_optionalVariable (clauses : List String) : Stays span (optionalVariable clauses) := by
  refine Stays.bind stays_peek (fun next => ?_)
  split
  · split
    · exact stays_pure _
    · exact Stays.map stays_variableName
  · exact stays_pure _

theorem stays_entityTypeName : Stays span entityTypeName := by
  refine Stays.place (fun offset held => (stays_word _).bind (fun name => ?_))
  split
  · exact stays_failAt held _
  · exact stays_pure _

theorem stays_sortOrder : Stays span sortOrder :=
  (stays_eatWord "ASC").choose (stays_pure _) ((stays_eatWord "DESC").choose (stays_pure _)
    (stays_pure _))

theorem stays_instantLiteral (due : String) : Stays span (instantLiteral due) := by
  refine Stays.place (fun offset held => Stays.bind stays_peek (fun next => ?_))
  -- Whatever gives the text, it is then read as an instant.
  split
  all_goals refine Stays.bind ?_ (fun text => Stays.bind stays_skip (fun _ => ?_))
  case h_1.refine_1 => exact stays_pure _
  case h_2.refine_1 => exact stays_pure _
  case h_3.refine_1 => exact stays_expected due
  all_goals
    cases Instant.read? text with
    | some t => exact stays_pure t
    | none => exact stays_failAt held _

theorem stays_timeSpan : Stays span timeSpan := by
  refine Stays.place (fun offset held => (stays_eatWord "START").choose ?_
    ((stays_eatWord "LAST").choose ?_ (stays_pure _)))
  · refine (stays_instantLiteral _).bind (fun start => (stays_expectWord _).bind (fun _ =>
      (stays_instantLiteral _).bind (fun stop => ?_)))
    split
    · exact stays_pure _
    · exact stays_failAt held _
  · refine Stays.place (fun amountOffset amountHeld => (stays_count _).bind (fun amount => ?_))
    split
    · exact stays_failAt amountHeld _
    · refine Stays.place (fun unitOffset unitHeld => (stays_word _).bind (fun name => ?_))
      split
      · exact stays_pure _
      · exact stays_failAt unitHeld _

theorem stays_limitClause : Stays span limitClause :=
  (stays_eatWord "LIMIT").choose (stays_count _).map (stays_pure _)

theorem stays_whereClause : Stays span whereClause :=
  (stays_eatWord "WHERE").choose (Stays.map Pattern.stays_reading) (stays_pure _)

theorem stays_sourceName : Stays span sourceName := by
  refine Stays.bind stays_peek (fun next => ?_)
  split
  · exact stays_pass _
  · exact stays_pass _
  · split
    · exact stays_expected _
    · exact stays_pass _
  · exact stays_expected _

theorem stays_plainAttribute : Stays span plainAttribute := Stays.map stays_attributeName

theorem stays_sortKey : Stays span sortKey :=
  Stays.bind stays_plainAttribute (fun _ => Stays.bind stays_sortOrder (fun _ => stays_pure _))

theorem stays_once {α : Type} {offset : Nat} (held : span.Holds offset) (keyword : String)
    (earlier : Option α) : Stays span (once offset keyword earlier) := by
  unfold once
  split
  · exact stays_failAt held _
  · exact stays_pure _

theorem stays_clauses (fuel : Nat) (r : Refinement) : Stays span (clauses fuel r) := by
  induction fuel generalizing r with
  | zero => exact stays_pure r
  | succ fuel ih =>
    refine Stays.place (fun offset held => ?_)
    refine (stays_eatWord "WHERE").choose ?_ ((stays_eatWord "ATTR").choose ?_
      ((stays_eatWord "SORT").choose ?_ ((stays_eatWord "LIMIT").choose ?_
        ((stays_eatWord "OFFSET").choose ?_ (stays_pure r)))))
    · exact (stays_once held _ _).bind (fun _ => Stays.bind Pattern.stays_reading (fun _ => ih _))
    · exact (stays_once held _ _).bind (fun _ =>
        (stays_commaSeparated stays_plainAttribute).bind (fun _ => ih _))
    · exact (stays_once held _ _).bind (fun _ => (stays_expectWord _).bind (fun _ =>
        Stays.bind stays_sortKey (fun _ => ih _)))
    · exact (stays_once held _ _).bind (fun _ => (stays_count _).bind (fun _ => ih _))
    · exact (stays_once held _ _).bind (fun _ => (stays_count _).bind (fun _ => ih _))

/-! Commands. -/

theorem stays_getCommand : Stays span getCommand := by
  refine Stays.bind stays_entityTypeName (fun entityType => ?_)
  have rest : ∀ sources : List ThreatHunt.Source, Stays span (do
      let pattern ← whereClause
      let window ← timeSpan
      let limit ← limitClause
      return Command.get entityType sources pattern window limit) := fun sources =>
    Stays.bind stays_whereClause (fun _ => Stays.bind stays_timeSpan (fun _ =>
      Stays.bind stays_limitClause (fun _ => stays_pure _)))
  exact (stays_eatWord "FROM").choose ((stays_commaSeparated stays_sourceName).bind rest)
    ((stays_pure []).bind rest)

theorem stays_findCommand : Stays span findCommand := by
  refine Stays.bind stays_entityTypeName (fun first => (stays_eatWord "BETWEEN").choose ?_ ?_)
  · exact Stays.bind stays_variableName (fun _ => (stays_expectWord _).bind (fun _ =>
      Stays.bind stays_variableName (fun _ => Stays.bind stays_timeSpan (fun _ => stays_pure _))))
  · exact (stays_word _).bind (fun _ => (stays_eatWord _).bind (fun _ =>
      Stays.bind stays_variableName (fun _ => Stays.bind stays_whereClause (fun _ =>
        Stays.bind stays_timeSpan (fun _ =>
          Stays.bind stays_limitClause (fun _ => stays_pure _))))))

theorem stays_joinCommand : Stays span joinCommand := by
  refine Stays.bind stays_variableName (fun left => (stays_expectMark _ _).bind (fun _ =>
    Stays.bind stays_variableName (fun right => (stays_eatWord "BY").choose ?_ (stays_pure _))))
  refine Stays.bind stays_plainAttribute (fun a => ?_)
  exact (stays_eatMark .comma).choose (Stays.bind stays_plainAttribute (fun _ => stays_pure _))
    ((stays_pure a).bind (fun _ => stays_pure _))

theorem stays_sortCommand : Stays span sortCommand :=
  (stays_optionalVariable _).bind (fun _ => (stays_expectWord _).bind (fun _ =>
    Stays.bind stays_sortKey (fun _ => stays_pure _)))

theorem stays_aggregation : Stays span aggregation := by
  refine Stays.place (fun offset held => (stays_word _).bind (fun name => ?_))
  split
  · exact stays_failAt held _
  · rename_i func _
    have named : ∀ attr : String, Stays span (do
        expectMark .rightParen "')'"
        let name ← if ← eatWord "AS" then variableName else pure (defaultAlias func attr)
        return Aggregation.mk func attr name) := fun attr =>
      (stays_expectMark _ _).bind (fun _ => (stays_eatWord "AS").choose
        (Stays.bind stays_variableName (fun _ => stays_pure _))
        ((stays_pure _).bind (fun _ => stays_pure _)))
    exact (stays_expectMark _ _).bind (fun _ => (stays_eatMark .star).choose
      ((stays_pure "*").bind named) (Stays.bind stays_plainAttribute named))

theorem stays_groupCommand : Stays span groupCommand := by
  refine (stays_optionalVariable _).bind (fun input => (stays_expectWord _).bind (fun _ =>
    (stays_commaSeparated stays_plainAttribute).bind (fun keys => ?_)))
  exact (stays_eatWord "WITH").choose
    ((stays_commaSeparated stays_aggregation).bind (fun _ => stays_pure _))
    ((stays_pure []).bind (fun _ => stays_pure _))

theorem stays_moduleName : Stays span moduleName := by
  refine Stays.bind stays_peek (fun next => ?_)
  split
  · exact stays_pass _
  · exact stays_pass _
  · split
    · exact stays_expected _
    · exact stays_pass _
  · exact stays_expected _

theorem stays_parameter : Stays span parameter := by
  refine (stays_word _).bind (fun key => (stays_expectMark _ _).bind (fun _ =>
    Stays.bind stays_peek (fun next => ?_)))
  split
  · split
    · exact stays_pass _
    · exact stays_pass _
  · exact Stays.bind stays_literal (fun _ => stays_pure _)

theorem stays_applyCommand : Stays span applyCommand := by
  refine Stays.bind stays_moduleName (fun module => (stays_expectWord _).bind (fun _ =>
    (stays_commaSeparated stays_variableName).bind (fun inputs => ?_)))
  exact (stays_eatWord "WITH").choose
    ((stays_commaSeparated stays_parameter).bind (fun _ => stays_pure _))
    ((stays_pure []).bind (fun _ => stays_pure _))

theorem stays_expression : Stays span expression := by
  refine Stays.bind stays_variableName (fun first => (stays_eatMark .plus).choose ?_
    (Stays.choose stays_atEnd (stays_pure _) (Stays.bind stays_peek (fun next => ?_))))
  · exact (stays_separated (stays_eatMark .plus) stays_variableName).bind (fun _ => stays_pure _)
  · split
    · exact (stays_clauses _ _).bind (fun _ => stays_pure _)
    · exact stays_expected _

theorem stays_displayCommand : Stays span displayCommand :=
  (stays_optionalVariable _).bind (fun _ => (stays_clauses _ _).bind (fun _ => stays_pure _))

theorem stays_targetName (due : String) : Stays span (targetName due) := by
  refine Stays.bind stays_peek (fun next => ?_)
  split
  · exact stays_pass _
  · exact stays_pass _
  · exact stays_expected due

theorem stays_saveCommand : Stays span saveCommand :=
  (stays_optionalVariable _).bind (fun _ => (stays_expectWord _).bind (fun _ =>
    (stays_targetName _).bind (fun _ => stays_pure _)))

theorem stays_loadCommand : Stays span loadCommand := by
  refine (stays_targetName _).bind (fun target => ?_)
  refine (stays_eatWord "AS").choose ?_ ((stays_pure none).bind (fun _ => stays_pure _))
  exact Stays.bind (Stays.map stays_entityTypeName) (fun _ => stays_pure _)

/-! Inline records. -/

/-- A line and all before it lie in their text. -/
theorem length_lines_le {cs line : List Char} {k : Nat}
    (found : (cs.splitOn '\n')[k]? = some line) :
    (((cs.splitOn '\n').map Text.byteLength).take k).foldr (fun before n => before + 1 + n) 0 +
      Text.byteLength line ≤ Text.byteLength cs := by
  induction cs generalizing k line with
  | nil =>
    cases k with
    | zero =>
      obtain rfl := Option.some.inj found
      exact Nat.le_refl _
    | succ k => cases found
  | cons c cs ih =>
    have split : (c :: cs).splitOn '\n' =
        if c == '\n' then [] :: cs.splitOn '\n' else (cs.splitOn '\n').modifyHead (c :: ·) :=
      List.splitOnP_cons_eq_if_modifyHead c cs
    obtain ⟨first, others, lines⟩ : ∃ first others, cs.splitOn '\n' = first :: others :=
      List.exists_cons_of_ne_nil (List.splitOnP_ne_nil (· == '\n') cs)
    rw [split] at found ⊢
    rw [Text.byteLength_cons]
    have size := Char.utf8Size_pos c
    split at found
    · rename_i breaks
      rw [if_pos breaks]
      cases k with
      | zero =>
        obtain rfl := Option.some.inj found
        exact Nat.zero_le _
      | succ k =>
        have later := ih found
        rw [List.map_cons, List.take_succ_cons, List.foldr_cons]
        have none : Text.byteLength [] = 0 := rfl
        omega
    · rename_i goes
      rw [if_neg goes, lines, List.modifyHead_cons]
      rw [lines] at ih
      rw [lines, List.modifyHead_cons] at found
      cases k with
      | zero =>
        obtain rfl := Option.some.inj found
        have later := ih (show (first :: others)[0]? = some first from rfl)
        rw [List.take_zero, List.foldr_nil] at later ⊢
        rw [Text.byteLength_cons]
        omega
      | succ k =>
        have later := ih (show (first :: others)[k + 1]? = some line from found)
        rw [List.map_cons, List.take_succ_cons, List.foldr_cons] at later ⊢
        rw [Text.byteLength_cons]
        omega

theorem faultByte_le (s : String) (fault : Json.Fault) :
    faultByte s fault ≤ Text.byteLength s.toList := by
  unfold faultByte
  split
  · exact Nat.le_refl _
  · rename_i p _
    dsimp only
    split
    · rename_i length found
      rw [List.getElem?_map, Option.map_eq_some_iff] at found
      obtain ⟨line, here, rfl⟩ := found
      have within := length_lines_le here
      omega
    · exact Nat.le_refl _

/-- Whether what is cut out of a source up to the end of a statement lies in the statement. -/
def CutsInside (source : String) (span : Span) : Prop :=
  ∀ offset, span.Holds offset →
    offset + Text.byteLength (Text.slice source offset span.stop).toList ≤ span.stop

theorem cutsInside {source : String} {front inner behind : List Char}
    (stands : Stands source span front inner behind) : CutsInside source span := by
  intro offset held
  have before : offset ≤ span.start + Text.byteLength inner := by
    rw [stands.start, ← stands.stop]
    exact held.2
  have short := Stands.length_filter_le before
  rw [stands.slice_eq held, Text.textOf, String.toList_ofList]
  rw [stands.start, ← stands.stop, ← stands.start] at short
  exact short

theorem stays_createCommand {source : String} (inside : CutsInside source span) :
    Stays span (createCommand source) := by
  refine Stays.bind stays_peek (fun next => ?_)
  split
  all_goals
    refine Stays.bind ?_ (fun entityType => (stays_atMark _).choose
      (Stays.place (fun start held => Stays.endPlace ?_)) (stays_expected _))
  case h_1.refine_1 => exact Stays.map stays_entityTypeName
  case h_2.refine_1 => exact stays_pure none
  all_goals
    have within := inside start held
    dsimp only
    generalize Text.slice source start span.stop = text at within ⊢
    cases Json.read text with
    | error fault =>
      have short := faultByte_le text fault
      exact stays_failAt ⟨Nat.le_add_right_of_le held.1, by omega⟩ _
    | ok value =>
      cases value with
      | arr records => exact Stays.bind stays_skipAll (fun _ => stays_pure _)
      | _ => exact stays_failAt held _

/-- Inline records are read alike from sources that have the same statement. -/
theorem alike_createCommand {source other : String}
    (same : ∀ offset, span.Holds offset →
      Text.slice source offset span.stop = Text.slice other offset span.stop) :
    Alike span (createCommand source) (createCommand other) := by
  refine Alike.bind stays_peek (fun next => ?_)
  split
  all_goals
    refine Alike.bind ?_ (fun entityType => Alike.choose (stays_atMark _)
      (Alike.place (fun start held => Alike.endPlace ?_)) (alike_refl _))
  case h_1.refine_1 => exact Stays.map stays_entityTypeName
  case h_2.refine_1 => exact stays_pure none
  all_goals
    dsimp only
    rw [same start held]
    exact alike_refl _

/-! Statements. -/

theorem stays_readOnly {assigned : Bool} {keyword : String} {command : Parse Command}
    (stays : Stays span command) : Stays span (readOnly assigned keyword command) := by
  refine Stays.place (fun offset held => ?_)
  split
  · exact stays_failAt held _
  · exact Stays.bind stays_skip (fun _ => stays)

theorem stays_command {source : String} (inside : CutsInside source span) (assigned : Bool) :
    Stays span (command source assigned) := by
  refine (stays_eatWord _).choose stays_getCommand ((stays_eatWord _).choose stays_findCommand
    ((stays_eatWord _).choose stays_joinCommand ((stays_eatWord _).choose stays_sortCommand
      ((stays_eatWord _).choose stays_groupCommand ((stays_eatWord _).choose stays_applyCommand
        ((stays_eatWord _).choose stays_loadCommand
          ((stays_eatWord _).choose (stays_createCommand inside)
            ((stays_atWord _).choose (stays_readOnly stays_displayCommand)
              ((stays_atWord _).choose (stays_readOnly (stays_optionalVariable []).map)
                ((stays_atWord _).choose (stays_readOnly stays_saveCommand) ?_))))))))))
  split
  · refine Stays.bind stays_peek (fun next => ?_)
    split
    · exact stays_expression
    · exact stays_expected _
  · exact stays_expected _

theorem alike_command {source other : String}
    (same : ∀ offset, span.Holds offset →
      Text.slice source offset span.stop = Text.slice other offset span.stop) (assigned : Bool) :
    Alike span (command source assigned) (command other assigned) := by
  refine Alike.choose (stays_eatWord _) (alike_refl _) (Alike.choose (stays_eatWord _)
    (alike_refl _) (Alike.choose (stays_eatWord _) (alike_refl _) (Alike.choose (stays_eatWord _)
      (alike_refl _) (Alike.choose (stays_eatWord _) (alike_refl _) (Alike.choose (stays_eatWord _)
        (alike_refl _) (Alike.choose (stays_eatWord _) (alike_refl _)
          (Alike.choose (stays_eatWord _) (alike_createCommand same) (alike_refl _))))))))

theorem stays_assignee : Stays span assignee := by
  refine Stays.bind stays_peek (fun next => Stays.bind stays_peekSecond (fun second => ?_))
  split
  · exact Stays.bind stays_variableName (fun _ => stays_pass _)
  · exact stays_pure none

/-- A statement fails inside of itself. -/
theorem stays_statement {source : String} (inside : CutsInside source span) :
    Stays span (statement source) :=
  Stays.bind stays_assignee (fun _ => (stays_command inside _).bind (fun _ =>
    Stays.choose stays_atEnd (stays_pure _) (stays_expected _)))

theorem alike_statement {source other : String}
    (same : ∀ offset, span.Holds offset →
      Text.slice source offset span.stop = Text.slice other offset span.stop) :
    Alike span (statement source) (statement other) :=
  Alike.bind stays_assignee (fun _ => (alike_command same _).before _)

end ThreatHunt.Command
