import ThreatHunt.Proofs.Source.Steps

/-!
Steps of reading on known lexemes. Wherever its tokens start, a step takes certain lexemes from the
front and leaves the others, or it fails with a certain fault; one rule for each way of joining
steps.
-/

namespace ThreatHunt.Source.Parse

variable {α β : Type} {a : α} {b : β} {ls more rest : List Lexeme} {l : Lexeme} {fault : Fault}
  {step : Parse α} {next : α → Parse β}

/-- A step gives a result and leaves lexemes. -/
def Consumes (step : Parse α) (ls : List Lexeme) (a : α) (rest : List Lexeme) : Prop :=
  ∀ stop tokens, tokens.map Token.lexeme = ls →
    ∃ left, step stop tokens = .ok (a, left) ∧ left.map Token.lexeme = rest

/-- A step fails with a fault. -/
def Rejects (step : Parse α) (ls : List Lexeme) (fault : Fault) : Prop :=
  ∀ stop tokens, tokens.map Token.lexeme = ls → ∃ offset, step stop tokens = .error ⟨offset, fault⟩

theorem consumes_pure (a : α) (ls : List Lexeme) : Consumes (pure a) ls a ls :=
  fun _ tokens lexemes => ⟨tokens, rfl, lexemes⟩

theorem Consumes.bind (first : Consumes step ls a more) (second : Consumes (next a) more b rest) :
    Consumes (step >>= next) ls b rest := by
  intro stop tokens lexemes
  obtain ⟨left, taken, others⟩ := first stop tokens lexemes
  obtain ⟨last, finished, remain⟩ := second stop left others
  refine ⟨last, ?_, remain⟩
  unfold Bind.bind Monad.toBind instMonad
  dsimp only
  rw [taken]
  exact finished

theorem Consumes.rejects (first : Consumes step ls a more) (second : Rejects (next a) more fault) :
    Rejects (step >>= next) ls fault := by
  intro stop tokens lexemes
  obtain ⟨left, taken, others⟩ := first stop tokens lexemes
  obtain ⟨offset, failed⟩ := second stop left others
  refine ⟨offset, ?_⟩
  unfold Bind.bind Monad.toBind instMonad
  dsimp only
  rw [taken]
  exact failed

theorem Rejects.bind (first : Rejects step ls fault) : Rejects (step >>= next) ls fault := by
  intro stop tokens lexemes
  obtain ⟨offset, failed⟩ := first stop tokens lexemes
  refine ⟨offset, ?_⟩
  unfold Bind.bind Monad.toBind instMonad
  dsimp only
  rw [failed]

/-! Steps that look. -/

theorem consumes_peek (ls : List Lexeme) : Consumes peek ls ls.head? ls := by
  intro stop tokens lexemes
  refine ⟨tokens, ?_, lexemes⟩
  rw [peek, ← lexemes, List.head?_map]

theorem consumes_peekSecond (ls : List Lexeme) : Consumes peekSecond ls (ls.drop 1).head? ls := by
  intro stop tokens lexemes
  refine ⟨tokens, ?_, lexemes⟩
  rw [peekSecond, ← lexemes, ← List.map_drop, List.head?_map]

/-- Where a token starts makes no difference to what is taken. -/
theorem Consumes.place {next : Nat → Parse β} (each : ∀ offset, Consumes (next offset) ls b rest) :
    Consumes (place >>= next) ls b rest := by
  intro stop tokens lexemes
  exact each _ stop tokens lexemes

theorem rejects_failAt {fault : Fault} :
    Rejects (do let offset ← place; failAt offset fault : Parse α) ls fault :=
  fun _ _ _ => ⟨_, rfl⟩

theorem consumes_atEnd (ls : List Lexeme) : Consumes atEnd ls ls.isEmpty ls := by
  intro stop tokens lexemes
  refine ⟨tokens, ?_, lexemes⟩
  rw [atEnd, ← lexemes, List.isEmpty_map]

/-! Steps that pass tokens. -/

theorem consumes_skip (l : Lexeme) (ls : List Lexeme) : Consumes skip (l :: ls) () ls := by
  intro stop tokens lexemes
  refine ⟨tokens.drop 1, rfl, ?_⟩
  rw [List.map_drop, lexemes, List.drop_one, List.tail_cons]

/-- What comes next is passed where a test of it holds. -/
theorem Consumes.eat {test : Parse Bool} (holds : Consumes test (l :: ls) true (l :: ls)) :
    Consumes (do
      if ← test then
        skip
        return true
      else return false) (l :: ls) true ls :=
  holds.bind ((consumes_skip l ls).bind (consumes_pure true ls))

theorem Consumes.leave {test : Parse Bool} (fails : Consumes test ls false ls) :
    Consumes (do
      if ← test then
        skip
        return true
      else return false) ls false ls :=
  fails.bind (consumes_pure false ls)

/-- Whether a keyword does not come next. -/
def NotNext (name : String) (ls : List Lexeme) : Prop := ∀ l ∈ ls.head?, l.isWord name = false

theorem notNext_nil (name : String) : NotNext name [] := by
  intro l member
  cases member

theorem notNext_cons {name : String} (other : l.isWord name = false) (ls : List Lexeme) :
    NotNext name (l :: ls) := by
  intro next member
  rw [← Option.some.inj member]
  exact other

theorem consumes_eatWord {name : String} (same : l.isWord name = true) :
    Consumes (eatWord name) (l :: ls) true ls := by
  apply Consumes.eat
  apply (consumes_peek (l :: ls)).bind
  rw [List.head?_cons, Option.map_some, same]
  exact consumes_pure true _

theorem consumes_eatWord_of_notNext {name : String} (other : NotNext name ls) :
    Consumes (eatWord name) ls false ls := by
  apply Consumes.leave
  apply (consumes_peek ls).bind
  have fails : (ls.head?.map (Lexeme.isWord name)).getD false = false := by
    cases next : ls.head? with
    | none => rfl
    | some l => exact other l next
  rw [fails]
  exact consumes_pure false _

theorem consumes_atMark (mark : Mark) (ls : List Lexeme) :
    Consumes (atMark mark) (.mark mark :: ls) true (.mark mark :: ls) := by
  apply (consumes_peek _).bind
  rw [List.head?_cons, beq_self_eq_true]
  exact consumes_pure true _

theorem consumes_eatMark (mark : Mark) (ls : List Lexeme) :
    Consumes (eatMark mark) (.mark mark :: ls) true ls :=
  (consumes_atMark mark ls).eat

theorem consumes_atMark_of_ne {mark : Mark} (other : ls.head? ≠ some (.mark mark)) :
    Consumes (atMark mark) ls false ls := by
  apply (consumes_peek ls).bind
  rw [beq_eq_false_iff_ne.2 other]
  exact consumes_pure false _

theorem consumes_eatMark_of_ne {mark : Mark} (other : ls.head? ≠ some (.mark mark)) :
    Consumes (eatMark mark) ls false ls :=
  (consumes_atMark_of_ne other).leave

theorem consumes_expectWord {name : String} (same : l.isWord name = true) :
    Consumes (expectWord name) (l :: ls) () ls :=
  (consumes_eatWord same).bind (consumes_pure () ls)

theorem consumes_expectMark (mark : Mark) (due : String) (ls : List Lexeme) :
    Consumes (expectMark mark due) (.mark mark :: ls) () ls :=
  (consumes_eatMark mark ls).bind (consumes_pure () ls)

theorem consumes_word (due s : String) (ls : List Lexeme) :
    Consumes (word due) (.word s :: ls) s ls :=
  (consumes_peek _).bind ((consumes_skip _ ls).bind (consumes_pure s ls))

/-! Lists. -/

/-- Items with separators between them are taken, whatever the fuel that is enough for them. -/
def ConsumesList (separator : Parse Bool) (item : Parse α) (ls : List Lexeme) (as : List α)
    (rest : List Lexeme) : Prop :=
  ∀ fuel, ls.length < fuel → Consumes (separatedFrom separator item fuel) ls as rest

/-- One of the items fails with a fault. -/
def RejectsList (separator : Parse Bool) (item : Parse α) (ls : List Lexeme) (fault : Fault) :
    Prop :=
  ∀ fuel, ls.length < fuel → Rejects (separatedFrom separator item fuel) ls fault

section Separated

variable {separator : Parse Bool} {item : Parse α} {as : List α} {others : List Lexeme}

theorem consumesList_one (only : Consumes item ls a rest)
    (stop : Consumes separator rest false rest) : ConsumesList separator item ls [a] rest := by
  intro fuel enough
  cases fuel with
  | zero => exact absurd enough (Nat.not_lt_zero _)
  | succ fuel => exact only.bind (stop.bind (consumes_pure [a] rest))

theorem ConsumesList.cons (later : ConsumesList separator item others as rest)
    (first : Consumes item ls a more) (next : Consumes separator more true others)
    (shorter : others.length < ls.length) : ConsumesList separator item ls (a :: as) rest := by
  intro fuel enough
  cases fuel with
  | zero => exact absurd enough (Nat.not_lt_zero _)
  | succ fuel =>
    have left : others.length < fuel := by omega
    exact first.bind (next.bind ((later fuel left).bind (consumes_pure (a :: as) rest)))

theorem rejectsList_first (first : Rejects item ls fault) :
    RejectsList separator item ls fault := by
  intro fuel enough
  cases fuel with
  | zero => exact absurd enough (Nat.not_lt_zero _)
  | succ fuel => exact first.bind

theorem RejectsList.cons (later : RejectsList separator item others fault)
    (first : Consumes item ls a more) (next : Consumes separator more true others)
    (shorter : others.length < ls.length) : RejectsList separator item ls fault := by
  intro fuel enough
  cases fuel with
  | zero => exact absurd enough (Nat.not_lt_zero _)
  | succ fuel =>
    have left : others.length < fuel := by omega
    exact first.rejects (next.rejects ((later fuel left).bind))

theorem ConsumesList.separated (taken : ConsumesList separator item ls as rest) :
    Consumes (separated separator item) ls as rest := by
  intro stop tokens lexemes
  have length : ls.length = tokens.length := by rw [← lexemes, List.length_map]
  have enough : ls.length < tokens.length + 1 := by omega
  exact taken _ enough stop tokens lexemes

theorem RejectsList.separated (failed : RejectsList separator item ls fault) :
    Rejects (separated separator item) ls fault := by
  intro stop tokens lexemes
  have length : ls.length = tokens.length := by rw [← lexemes, List.length_map]
  have enough : ls.length < tokens.length + 1 := by omega
  exact failed _ enough stop tokens lexemes

end Separated

/-! Names and values. -/

theorem dottedRest_of_ne {tokens : List Token}
    (other : (tokens.map Token.lexeme).head? ≠ some (.mark .dot)) (name : String) :
    dottedRest name tokens = (name, tokens) := by
  rw [dottedRest.eq_2]
  rintro _ _ _ _ rfl
  exact other rfl

theorem consumes_dotted (entityType : Option String) (name : String)
    (other : ls.head? ≠ some (.mark .dot)) :
    Consumes (fun _ tokens =>
      let (name, rest) := dottedRest name tokens
      .ok ((entityType, name), rest)) ls (entityType, name) ls := by
  intro stop tokens lexemes
  have plain := dottedRest_of_ne (lexemes ▸ other) name
  refine ⟨tokens, ?_, lexemes⟩
  dsimp only
  rw [plain]

theorem consumes_attributeName (name : String) (colon : ls.head? ≠ some (.mark .colon))
    (dot : ls.head? ≠ some (.mark .dot)) :
    Consumes attributeName (.word name :: ls) (none, name) ls :=
  (consumes_word _ name ls).bind ((consumes_eatMark_of_ne colon).bind
    ((consumes_pure (none, name) ls).bind (consumes_dotted none name dot)))

theorem consumes_attributeName_typed (entityType name : String)
    (dot : ls.head? ≠ some (.mark .dot)) :
    Consumes attributeName (.word entityType :: .mark .colon :: .word name :: ls)
      (some entityType, name) ls :=
  (consumes_word _ entityType _).bind ((consumes_eatMark .colon _).bind
    ((consumes_word _ name ls).bind ((consumes_pure (some entityType, name) ls).bind
      (consumes_dotted (some entityType) name dot))))

theorem consumes_literal_text (s : String) (ls : List Lexeme) :
    Consumes literal (.text s :: ls) (.str s) ls :=
  Consumes.place (fun _ => (consumes_peek _).bind ((consumes_skip _ ls).bind (consumes_pure _ ls)))

theorem consumes_literal_number {s : String} {v : Value} (value : numberValue? s = some v)
    (ls : List Lexeme) : Consumes literal (.number s :: ls) v ls := by
  apply Consumes.place
  intro offset
  apply (consumes_peek _).bind
  simp only [List.head?_cons, value]
  exact (consumes_skip _ ls).bind (consumes_pure v ls)

theorem consumes_literal_word {s : String} {v : Value} (value : wordValue? s = some v)
    (ls : List Lexeme) : Consumes literal (.word s :: ls) v ls := by
  apply Consumes.place
  intro offset
  apply (consumes_peek _).bind
  simp only [List.head?_cons, value]
  exact (consumes_skip _ ls).bind (consumes_pure v ls)

end ThreatHunt.Source.Parse
