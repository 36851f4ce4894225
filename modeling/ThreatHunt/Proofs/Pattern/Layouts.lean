import ThreatHunt.Command.Script
import ThreatHunt.Proofs.Pattern.Spelled
import ThreatHunt.Proofs.Source.Lexing

/-!
Patterns as texts. A layout is a pattern with its parentheses; the text of a layout is read as the
pattern that is laid out, unless its comparisons stand too deep inside of negations and parentheses.
-/

namespace ThreatHunt.Layout

open Source Source.Parse

/-! Layouts. -/

mutual

/-- A comparison, a negation, or anything in parentheses. -/
inductive Term where
  | test (comparison : Comparison)
  | negation (part : Term)
  | group (inner : Disjunction)

/-- Terms with `AND` between them. -/
inductive Conjunction where
  | one (part : Term)
  | and (first : Term) (rest : Conjunction)

/-- Conjunctions with `OR` between them. -/
inductive Disjunction where
  | one (part : Conjunction)
  | or (first : Conjunction) (rest : Disjunction)

end

mutual

/-- The pattern that is laid out. -/
def Term.pattern : Term → Pattern
  | .test c => .test c
  | .negation part => .negation part.pattern
  | .group inner => Pattern.group .any inner.parts

def Conjunction.parts : Conjunction → List Pattern
  | .one part => [part.pattern]
  | .and first rest => first.pattern :: rest.parts

def Disjunction.parts : Disjunction → List Pattern
  | .one part => [Pattern.group .all part.parts]
  | .or first rest => Pattern.group .all first.parts :: rest.parts

end

def Conjunction.pattern (c : Conjunction) : Pattern := Pattern.group .all c.parts

def Disjunction.pattern (d : Disjunction) : Pattern := Pattern.group .any d.parts

mutual

/-- The lexemes of a layout. -/
def Term.lexemes : Term → List Lexeme
  | .test c => c.lexemes
  | .negation part => .word "NOT" :: part.lexemes
  | .group inner => .mark .leftParen :: (inner.lexemes ++ [.mark .rightParen])

def Conjunction.lexemes : Conjunction → List Lexeme
  | .one part => part.lexemes
  | .and first rest => first.lexemes ++ .word "AND" :: rest.lexemes

def Disjunction.lexemes : Disjunction → List Lexeme
  | .one part => part.lexemes
  | .or first rest => first.lexemes ++ .word "OR" :: rest.lexemes

end

/-- The text of a layout. -/
def Disjunction.text (d : Disjunction) : String := String.ofList (write d.lexemes)

mutual

/-- How many negations and parentheses stand around a comparison, at most. -/
def Term.nesting : Term → Nat
  | .test _ => 0
  | .negation part => part.nesting + 1
  | .group inner => inner.nesting + 1

def Conjunction.nesting : Conjunction → Nat
  | .one part => part.nesting
  | .and first rest => max first.nesting rest.nesting

def Disjunction.nesting : Disjunction → Nat
  | .one part => part.nesting
  | .or first rest => max first.nesting rest.nesting

end

/-! Comparisons. -/

/-- A pattern of comparisons that can be written. -/
abbrev Writable (p : Pattern) : Prop := ∀ c ∈ p.comparisons, c.Printable

theorem comparisons_group {make : List Pattern → Pattern}
    (made : ∀ parts, (make parts).comparisons = Pattern.comparisonsOf parts)
    (parts : List Pattern) :
    (Pattern.group make parts).comparisons = Pattern.comparisonsOf parts := by
  unfold Pattern.group
  split
  · simp [Pattern.comparisonsOf]
  · exact made parts

theorem Conjunction.comparisons (c : Conjunction) :
    c.pattern.comparisons = Pattern.comparisonsOf c.parts :=
  comparisons_group (fun _ => rfl) c.parts

theorem Disjunction.comparisons (d : Disjunction) :
    d.pattern.comparisons = Pattern.comparisonsOf d.parts :=
  comparisons_group (fun _ => rfl) d.parts

theorem Conjunction.writable_and {first : Term} {rest : Conjunction} :
    Writable (Conjunction.and first rest).pattern ↔
      Writable first.pattern ∧ Writable rest.pattern := by
  rw [Writable, Conjunction.comparisons, Conjunction.parts, Pattern.comparisonsOf,
    ← rest.comparisons, List.forall_mem_append]

theorem Disjunction.writable_or {first : Conjunction} {rest : Disjunction} :
    Writable (Disjunction.or first rest).pattern ↔
      Writable first.pattern ∧ Writable rest.pattern := by
  rw [Writable, Disjunction.comparisons, Disjunction.parts, Pattern.comparisonsOf,
    ← rest.comparisons, List.forall_mem_append]
  rfl

/-! Legibility. -/

/-- What is legible behind anything can be written behind a keyword. -/
theorem legible_keyword {previous : Option Lexeme} {name : String} {front back : List Lexeme}
    (first : Legible previous front) (rest : ∀ previous, Legible previous back)
    (keyword : isIdentifier name = true) : Legible previous (front ++ .word name :: back) :=
  legible_append.2 ⟨first, (rest _).word keyword⟩

mutual

/-- The lexemes of a layout are legible behind any other. -/
theorem Term.legible (t : Term) (writable : Writable t.pattern) (previous : Option Lexeme) :
    Legible previous t.lexemes := by
  cases t with
  | test c => exact (writable c List.mem_cons_self).legible previous
  | negation part => exact (part.legible writable _).word (by decide)
  | group inner =>
    have ends : ∀ previous, Legible previous [.mark .rightParen] := fun _ =>
      Legible.mark trivial (by decide)
    exact (legible_append.2 ⟨inner.legible writable _, ends _⟩).mark (by decide)

theorem Conjunction.legible (c : Conjunction) (writable : Writable c.pattern)
    (previous : Option Lexeme) : Legible previous c.lexemes := by
  cases c with
  | one part => exact part.legible writable previous
  | and first rest =>
    have each := Conjunction.writable_and.1 writable
    exact legible_keyword (first.legible each.1 previous) (rest.legible each.2) (by decide)

theorem Disjunction.legible (d : Disjunction) (writable : Writable d.pattern)
    (previous : Option Lexeme) : Legible previous d.lexemes := by
  cases d with
  | one part => exact part.legible writable previous
  | or first rest =>
    have each := Disjunction.writable_or.1 writable
    exact legible_keyword (first.legible each.1 previous) (rest.legible each.2) (by decide)

end

/-! Reading. -/

section Joined

variable {depth : Nat} {ls tail : List Lexeme}

theorem length_lt_append (front : List Lexeme) (l : Lexeme) (back : List Lexeme) :
    back.length < (front ++ l :: back).length := by
  rw [List.length_append, List.length_cons]
  omega

theorem Conjunction.consumes_of_list {c : Conjunction}
    (list : ConsumesList (eatWord "AND") (Pattern.term depth) ls c.parts tail) :
    Consumes (Pattern.conjunction (Pattern.term depth)) ls c.pattern tail :=
  list.separated.bind (consumes_pure (Pattern.group .all c.parts) tail)

theorem Disjunction.consumes_of_list {d : Disjunction}
    (list : ConsumesList (eatWord "OR") (Pattern.conjunction (Pattern.term depth)) ls d.parts
      tail) :
    Consumes (Pattern.disjunction (Pattern.term depth)) ls d.pattern tail :=
  list.separated.bind (consumes_pure (Pattern.group .any d.parts) tail)

theorem consumes_test {c : Comparison} (printable : c.Printable) (depth : Nat)
    (tail : List Lexeme) :
    Consumes (Pattern.term depth) (c.lexemes ++ tail) (Pattern.test c) tail := by
  have head : (c.lexemes ++ tail).head? = some (.word c.leading) := by
    rw [List.head?_append, c.head_lexemes, Option.some_or]
  have keyword : NotNext "NOT" (c.lexemes ++ tail) := by
    rw [NotNext, head]
    rintro _ ⟨⟩
    exact printable.leading
  have mark : ∀ m : Mark, (c.lexemes ++ tail).head? ≠ some (.mark m) := by
    intro m same
    rw [head] at same
    exact Lexeme.noConfusion (Option.some.inj same)
  rw [Pattern.term.eq_def]
  exact (consumes_eatWord_of_notNext keyword).bind ((consumes_eatMark_of_ne (mark _)).bind
    ((consumes_eatMark_of_ne (mark _)).bind ((printable.consumes tail).bind
      (consumes_pure (Pattern.test c) tail))))

end Joined

mutual

/-- A layout is read where its comparisons are not too deep. -/
theorem Term.consumes (t : Term) (writable : Writable t.pattern) {depth : Nat}
    (fits : t.nesting ≤ depth) (tail : List Lexeme) :
    Consumes (Pattern.term depth) (t.lexemes ++ tail) t.pattern tail := by
  cases t with
  | test c => exact consumes_test (writable c List.mem_cons_self) depth tail
  | negation part =>
    cases depth with
    | zero => exact absurd fits (Nat.not_succ_le_zero _)
    | succ depth =>
      have inner := part.consumes writable (Nat.le_of_succ_le_succ fits) tail
      exact (consumes_eatWord rfl).bind (inner.bind (consumes_pure _ tail))
  | group inner =>
    cases depth with
    | zero => exact absurd fits (Nat.not_succ_le_zero _)
    | succ depth =>
      -- The closing parenthesis ends the lists of both kinds.
      have closed : ∀ name, NotNext name (.mark .rightParen :: tail) :=
        fun name => notNext_cons rfl tail
      have list := inner.consumes writable (Nat.le_of_succ_le_succ fits) (closed _) (closed _)
      have read := Disjunction.consumes_of_list list
      rw [Term.lexemes, List.cons_append, List.append_assoc]
      exact (consumes_eatWord_of_notNext (notNext_cons rfl _)).bind
        ((consumes_eatMark .leftParen _).bind (read.bind
          ((consumes_expectMark .rightParen _ tail).bind (consumes_pure inner.pattern tail))))

theorem Conjunction.consumes (c : Conjunction) (writable : Writable c.pattern) {depth : Nat}
    (fits : c.nesting ≤ depth) {tail : List Lexeme} (stop : NotNext "AND" tail) :
    ConsumesList (eatWord "AND") (Pattern.term depth) (c.lexemes ++ tail) c.parts tail := by
  cases c with
  | one part =>
    exact consumesList_one (part.consumes writable fits tail) (consumes_eatWord_of_notNext stop)
  | and first rest =>
    have each := Conjunction.writable_and.1 writable
    have both := Nat.max_le.1 fits
    have later := rest.consumes each.2 both.2 stop
    rw [Conjunction.lexemes, List.append_assoc]
    exact later.cons (first.consumes each.1 both.1 _) (consumes_eatWord rfl)
      (length_lt_append _ _ _)

theorem Disjunction.consumes (d : Disjunction) (writable : Writable d.pattern) {depth : Nat}
    (fits : d.nesting ≤ depth) {tail : List Lexeme} (and : NotNext "AND" tail)
    (or : NotNext "OR" tail) :
    ConsumesList (eatWord "OR") (Pattern.conjunction (Pattern.term depth)) (d.lexemes ++ tail)
      d.parts tail := by
  cases d with
  | one part =>
    have read := Conjunction.consumes_of_list (part.consumes writable fits and)
    exact consumesList_one read (consumes_eatWord_of_notNext or)
  | or first rest =>
    have each := Disjunction.writable_or.1 writable
    have both := Nat.max_le.1 fits
    have later := rest.consumes each.2 both.2 and or
    have apart : NotNext "AND" (.word "OR" :: (rest.lexemes ++ tail)) := notNext_cons rfl _
    have read := Conjunction.consumes_of_list (first.consumes each.1 both.1 apart)
    rw [Disjunction.lexemes, List.append_assoc]
    exact later.cons read (consumes_eatWord rfl) (length_lt_append _ _ _)

end

/-! Depth. -/

theorem rejects_failTooDeep {α : Type} (ls : List Lexeme) :
    Rejects (Pattern.failTooDeep : Parse α) ls (.tooDeep Pattern.depthLimit) :=
  rejects_failAt

mutual

/-- A layout is rejected where a comparison is too deep. -/
theorem Term.rejects (t : Term) (writable : Writable t.pattern) {depth : Nat}
    (deep : depth < t.nesting) (tail : List Lexeme) :
    Rejects (Pattern.term depth) (t.lexemes ++ tail) (.tooDeep Pattern.depthLimit) := by
  cases t with
  | test c => exact absurd deep (Nat.not_lt_zero _)
  | negation part =>
    cases depth with
    | zero => exact (consumes_eatWord rfl).rejects (rejects_failTooDeep _)
    | succ depth =>
      have inner := part.rejects writable (Nat.lt_of_succ_lt_succ deep) tail
      exact (consumes_eatWord rfl).rejects inner.bind
  | group inner =>
    rw [Term.lexemes, List.cons_append, List.append_assoc]
    cases depth with
    | zero =>
      exact (consumes_eatWord_of_notNext (notNext_cons rfl _)).rejects
        ((consumes_eatMark .leftParen _).rejects (rejects_failTooDeep _))
    | succ depth =>
      have list := inner.rejects writable (Nat.lt_of_succ_lt_succ deep) (.mark .rightParen :: tail)
      exact (consumes_eatWord_of_notNext (notNext_cons rfl _)).rejects
        ((consumes_eatMark .leftParen _).rejects list.separated.bind.bind)

theorem Conjunction.rejects (c : Conjunction) (writable : Writable c.pattern) {depth : Nat}
    (deep : depth < c.nesting) (tail : List Lexeme) :
    RejectsList (eatWord "AND") (Pattern.term depth) (c.lexemes ++ tail)
      (.tooDeep Pattern.depthLimit) := by
  cases c with
  | one part => exact rejectsList_first (part.rejects writable deep tail)
  | and first rest =>
    have each := Conjunction.writable_and.1 writable
    rw [Conjunction.lexemes, List.append_assoc]
    -- The first part that is too deep is where reading stops; those before it are read.
    by_cases fits : first.nesting ≤ depth
    · have beyond : depth < rest.nesting := by
        rw [Conjunction.nesting] at deep
        omega
      have later := rest.rejects each.2 beyond tail
      exact later.cons (first.consumes each.1 fits _) (consumes_eatWord rfl)
        (length_lt_append _ _ _)
    · exact rejectsList_first (first.rejects each.1 (Nat.lt_of_not_le fits) _)

theorem Disjunction.rejects (d : Disjunction) (writable : Writable d.pattern) {depth : Nat}
    (deep : depth < d.nesting) (tail : List Lexeme) :
    RejectsList (eatWord "OR") (Pattern.conjunction (Pattern.term depth)) (d.lexemes ++ tail)
      (.tooDeep Pattern.depthLimit) := by
  cases d with
  | one part => exact rejectsList_first (part.rejects writable deep tail).separated.bind
  | or first rest =>
    have each := Disjunction.writable_or.1 writable
    rw [Disjunction.lexemes, List.append_assoc]
    by_cases fits : first.nesting ≤ depth
    · have beyond : depth < rest.nesting := by
        rw [Disjunction.nesting] at deep
        omega
      have later := rest.rejects each.2 beyond tail
      have apart : NotNext "AND" (.word "OR" :: (rest.lexemes ++ tail)) := notNext_cons rfl _
      have read := Conjunction.consumes_of_list (first.consumes each.1 fits apart)
      exact later.cons read (consumes_eatWord rfl) (length_lt_append _ _ _)
    · have failed := first.rejects each.1 (Nat.lt_of_not_le fits)
      exact rejectsList_first (failed _).separated.bind

end

/-! Whole texts. -/

theorem Disjunction.readingAll (d : Disjunction) (writable : Writable d.pattern) :
    (d.nesting ≤ Pattern.depthLimit → Consumes Pattern.readingAll d.lexemes d.pattern []) ∧
      (Pattern.depthLimit < d.nesting →
        Rejects Pattern.readingAll d.lexemes (.tooDeep Pattern.depthLimit)) := by
  constructor
  · intro fits
    have list := d.consumes writable fits (notNext_nil "AND") (notNext_nil "OR")
    rw [List.append_nil] at list
    exact (Disjunction.consumes_of_list list).bind
      ((consumes_atEnd []).bind (consumes_pure d.pattern []))
  · intro deep
    have failed := d.rejects writable deep []
    rw [List.append_nil] at failed
    exact failed.separated.bind.bind

/-- The text of a layout is read as the pattern that is laid out, or its depth is reported. -/
theorem Disjunction.readPattern (d : Disjunction) (writable : Writable d.pattern) :
    (d.nesting ≤ Pattern.depthLimit → Script.readPattern d.text = .ok d.pattern) ∧
      (Pattern.depthLimit < d.nesting → ∃ offset, Script.readPattern d.text =
        .error (HuntError.ofMisread d.text ⟨offset, .tooDeep Pattern.depthLimit⟩)) := by
  obtain ⟨plain, tokens, lexed, lexemes⟩ := lex_write (d.legible writable none)
  have source : Script.readPattern d.text =
      (Pattern.read d.text).mapError (HuntError.ofMisread d.text) := by
    unfold Disjunction.text
    rw [Script.readPattern, plain]
  have both := d.readingAll writable
  constructor
  · intro fits
    obtain ⟨left, read, -⟩ := both.1 fits (Text.byteLength (write d.lexemes)) tokens lexemes
    rw [source, Disjunction.text, Pattern.read, String.toList_ofList, lexed]
    change Except.mapError _ (Except.bind (Pattern.readingAll _ tokens) _) = _
    rw [read]
    rfl
  · intro deep
    obtain ⟨offset, failed⟩ := both.2 deep (Text.byteLength (write d.lexemes)) tokens lexemes
    rw [source, Disjunction.text, Pattern.read, String.toList_ofList, lexed]
    change ∃ offset, Except.mapError _ (Except.bind (Pattern.readingAll _ tokens) _) = _
    rw [failed]
    exact ⟨offset, rfl⟩

end ThreatHunt.Layout
