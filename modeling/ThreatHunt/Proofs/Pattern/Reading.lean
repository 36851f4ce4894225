import ThreatHunt.Pattern.Reading
import ThreatHunt.Proofs.Pattern.NormalText
import ThreatHunt.Proofs.Source.Steps

/-!
What the reader of patterns gives: names that are made of words, operands that go with their
operators, and no empty groups.
-/

namespace ThreatHunt

namespace Comparison

/-- A comparison as a statement writes it, where a reference may stand for a list. -/
structure Written (c : Comparison) : Prop where
  named : Named c.attr
  fits : Fits c.operator c.operand ∨ ∃ var attr, c.operand = .reference var attr

end Comparison

namespace Pattern

open Source Source.Parse Comparison

/-- What is read as the operand of an operator. -/
inductive Taken (op : Operator) : Operand → Prop where
  | reference (var attr : String) : Taken op (.reference var attr)
  | list (items : List Value) : op = .isIn ∨ op = .notIn → Taken op (.list items)
  | value (v : Value) : ¬(op = .isIn ∨ op = .notIn) → Taken op (.value v)

theorem gives_operator : Gives Worded operator (fun _ => True) Worded := by
  refine gives_peek.bind (fun next _ => ?_)
  have due : ∀ s : String, Gives Worded (expected s : Parse Operator) (fun _ => True) Worded :=
    gives_expected
  have passed : ∀ op : Operator, Gives Worded (do skip; return op) (fun _ => True) Worded :=
    fun op => gives_skip.bind (fun _ _ => gives_pure trivial)
  split
  · split
    · exact passed _
    · exact due _
  · split
    · exact passed _
    · refine (gives_eatWord "IS").bind (fun test _ => ?_)
      cases test with
      | true =>
        exact (gives_eatWord "NOT").bind (fun _ _ => (gives_expectWord "NULL").bind
          (fun _ _ => gives_pure trivial))
      | false =>
        refine (gives_eatWord "NOT").bind (fun negative _ => ?_)
        cases negative with
        | true =>
          refine gives_peek.bind (fun next _ => ?_)
          split
          · split
            · exact passed _
            · exact due _
          · exact due _
        | false => exact due _
  · exact due _

theorem gives_referenceVariable : Gives Worded referenceVariable (fun _ => True) Worded := by
  refine gives_peek.bind (fun next _ => gives_peekSecond.bind (fun second _ => ?_))
  split <;> exact gives_pure trivial

theorem gives_listItems : Gives Worded listItems (fun _ => True) Worded := by
  refine (gives_atMark .rightParen).bind (fun empty _ => ?_)
  cases empty with
  | true => exact gives_pure trivial
  | false =>
    exact (gives_separated (gives_eatMark .comma) gives_literal).mono (fun _ _ => trivial)

theorem gives_operand (op : Operator) : Gives Worded (operand op) (Taken op) Worded := by
  refine gives_referenceVariable.bind (fun var _ => ?_)
  split
  · exact gives_skip.bind (fun _ _ => gives_skip.bind (fun _ _ => (gives_word _).bind
      (fun _ _ => gives_pure (.reference _ _))))
  · by_cases member : op = .isIn ∨ op = .notIn
    · rw [if_pos member]
      exact (gives_expectMark _ _).bind (fun _ _ => gives_listItems.bind (fun items _ =>
        (gives_expectMark _ _).bind (fun _ _ => gives_pure (.list items member))))
    · rw [if_neg member]
      exact gives_literal.bind (fun v _ => gives_pure (.value v member))

/-- The operators that take one value are those that are left. -/
theorem takes_value {op : Operator} (test : ¬(op = .isNull ∨ op = .isNotNull))
    (member : ¬(op = .isIn ∨ op = .notIn)) : op.takes = .value := by
  cases op <;> first | rfl | exact absurd (by decide) test | exact absurd (by decide) member

theorem gives_comparisonOf (offset : Nat) (entityType : Option String) {attr : String}
    {op : Operator} {operand : Operand} (named : Named attr)
    (test : ¬(op = .isNull ∨ op = .isNotNull)) (taken : Taken op operand) :
    Gives Worded (comparisonOf offset entityType attr op operand) Comparison.Written Worded := by
  have pattern : ∀ other : Operand, (op.takesPattern = false →
      Fits op other ∨ ∃ var attr, other = .reference var attr) →
      Gives Worded (if op.takesPattern then failAt offset (.patternOperand op.sign)
        else return ⟨attr, entityType, op, other⟩) Comparison.Written Worded := by
    intro other fits
    by_cases takes : op.takesPattern = true
    · rw [if_pos takes]
      exact gives_failAt _ _
    · rw [if_neg takes]
      exact gives_pure ⟨named, fits (by simpa using takes)⟩
  cases taken with
  | reference var attr => exact pattern _ (fun _ => .inr ⟨var, attr, rfl⟩)
  | list items member =>
    refine pattern _ (fun _ => .inl (.list items ?_))
    rcases member with rfl | rfl <;> rfl
  | value v member =>
    have value := takes_value test member
    cases v with
    | null =>
      change Gives Worded (if op = .equal then _ else if op = .notEqual then _ else _) _ _
      split
      · exact gives_pure ⟨named, .inl (.nothing rfl)⟩
      · split
        · exact gives_pure ⟨named, .inl (.nothing rfl)⟩
        · exact gives_failAt _ _
    | str s => exact gives_pure ⟨named, .inl (.value (.str s) value (fun _ => ⟨s, rfl⟩))⟩
    | _ =>
      refine pattern _ (fun none => .inl (.value _ value (fun some => ?_)))
      rw [none] at some
      exact absurd some (by decide)

theorem gives_comparison : Gives Worded comparison Comparison.Written Worded := by
  refine gives_attributeName.bind (fun name named => gives_place.bind (fun offset _ =>
    gives_operator.bind (fun op _ => ?_)))
  by_cases test : op = .isNull ∨ op = .isNotNull
  · simp only [test, if_true]
    refine gives_pure ⟨named, .inl (.nothing ?_)⟩
    rcases test with rfl | rfl <;> rfl
  · simp only [test, if_false]
    exact (gives_operand op).bind (fun _ taken =>
      gives_comparisonOf offset name.1 named test taken)

theorem made_group {Good : Comparison → Prop} {make : List Pattern → Pattern}
    (makes : ∀ parts, parts ≠ [] → (∀ p ∈ parts, Made Good p) → Made Good (make parts))
    {parts : List Pattern} (some : parts ≠ []) (each : ∀ p ∈ parts, Made Good p) :
    Made Good (group make parts) := by
  unfold group
  split
  · exact each _ (List.mem_singleton_self _)
  · exact makes parts some each

theorem gives_disjunction {item : Parse Pattern}
    (gives : Gives Worded item (Made Comparison.Written) Worded) :
    Gives Worded (disjunction item) (Made Comparison.Written) Worded := by
  have conjunctions : Gives Worded (conjunction item) (Made Comparison.Written) Worded :=
    (gives_separated (gives_eatWord "AND") gives).bind (fun _ parts =>
      gives_pure (made_group (fun _ => .all) parts.1 parts.2))
  exact (gives_separated (gives_eatWord "OR") conjunctions).bind (fun _ parts =>
    gives_pure (made_group (fun _ => .any) parts.1 parts.2))

theorem gives_term (depth : Nat) : Gives Worded (term depth) (Made Comparison.Written) Worded := by
  have deep : Gives Worded (failTooDeep : Parse Pattern) (Made Comparison.Written) Worded :=
    gives_place.bind (fun _ _ => gives_failAt _ _)
  induction depth with
  | zero =>
    refine (gives_eatWord "NOT").bind (fun negative _ => ?_)
    cases negative with
    | true => exact deep
    | false =>
      refine (gives_eatMark .leftParen).bind (fun paren _ => ?_)
      cases paren with
      | true => exact deep
      | false =>
        refine (gives_eatMark .leftBracket).bind (fun bracket _ => ?_)
        cases bracket with
        | true => exact deep
        | false => exact gives_comparison.bind (fun _ good => gives_pure (.test good))
  | succ depth ih =>
    have inner := fun mark due => (gives_disjunction ih).bind (fun p made =>
      (gives_expectMark mark due).bind (fun _ _ => gives_pure (a := p) made))
    refine (gives_eatWord "NOT").bind (fun negative _ => ?_)
    cases negative with
    | true => exact ih.bind (fun _ made => gives_pure (.negation made))
    | false =>
      refine (gives_eatMark .leftParen).bind (fun paren _ => ?_)
      cases paren with
      | true => exact inner .rightParen _
      | false =>
        refine (gives_eatMark .leftBracket).bind (fun bracket _ => ?_)
        cases bracket with
        | true => exact inner .rightBracket _
        | false => exact gives_comparison.bind (fun _ good => gives_pure (.test good))

/-- Whatever a pattern is read from, its names are words and its operands go with their
operators. -/
theorem gives_reading : Gives Worded reading (Made Comparison.Written) Worded :=
  gives_disjunction (gives_term depthLimit)

end Pattern
end ThreatHunt
