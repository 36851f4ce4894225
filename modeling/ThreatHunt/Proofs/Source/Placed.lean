import ThreatHunt.Source.Parse

/-!
Where faults are placed. A step of reading that is given tokens of a statement fails at a byte of
the statement or at its end, or else leaves some of the tokens; one rule for each way of joining
steps.
-/

namespace ThreatHunt.Source

/-- Whether a byte is one of a statement, or the one behind it. -/
def Span.Holds (span : Span) (offset : Nat) : Prop := span.start ≤ offset ∧ offset ≤ span.stop

/-- Tokens of a statement. -/
structure Placed (span : Span) (tokens : List Token) : Prop where
  order : span.start ≤ span.stop
  each : ∀ t ∈ tokens, span.Holds t.offset

theorem Placed.stop {span : Span} {tokens : List Token} (placed : Placed span tokens) :
    span.Holds span.stop := ⟨placed.order, Nat.le_refl _⟩

theorem Placed.suffix {span : Span} {tokens rest : List Token} (placed : Placed span tokens)
    (left : rest <:+ tokens) : Placed span rest :=
  ⟨placed.order, fun t member => placed.each t (left.subset member)⟩

/-- The place of the next token is one of the statement. -/
theorem Placed.next {span : Span} {tokens : List Token} (placed : Placed span tokens) :
    span.Holds ((tokens.head?.map Token.offset).getD span.stop) := by
  cases tokens with
  | nil => exact placed.stop
  | cons t tokens => exact placed.each t List.mem_cons_self

namespace Parse

variable {α β : Type} {span : Span} {step test : Parse α} {next : α → Parse β}

/-- A step stays in its statement: it fails at a byte of it, or leaves some of its tokens. -/
def Stays (span : Span) (step : Parse α) : Prop :=
  ∀ tokens, Placed span tokens →
    (∀ misread, step span.stop tokens = .error misread → span.Holds misread.offset) ∧
      ∀ a rest, step span.stop tokens = .ok (a, rest) → rest <:+ tokens

/-- What follows a step that succeeds begins where the step ends. -/
theorem bind_of_ok {stop : Nat} {tokens rest : List Token} {a : α}
    (taken : step stop tokens = .ok (a, rest)) :
    (step >>= next) stop tokens = next a stop rest := by
  unfold Bind.bind Monad.toBind instMonad
  dsimp only
  rw [taken]

theorem stays_pure (a : α) : Stays span (pure a) := by
  intro tokens _
  refine ⟨nofun, ?_⟩
  rintro _ _ ⟨⟩
  exact List.suffix_refl _

theorem Stays.bind (first : Stays span step) (second : ∀ a, Stays span (next a)) :
    Stays span (step >>= next) := by
  intro tokens placed
  obtain ⟨fails, leaves⟩ := first tokens placed
  unfold Bind.bind Monad.toBind instMonad
  dsimp only
  cases taken : step span.stop tokens with
  | error misread =>
    refine ⟨?_, nofun⟩
    rintro _ ⟨⟩
    exact fails misread taken
  | ok made =>
    have left := leaves made.1 made.2 taken
    obtain ⟨later, others⟩ := second made.1 made.2 (placed.suffix left)
    exact ⟨later, fun a rest given => (others a rest given).trans left⟩

theorem Stays.map {f : α → β} (stays : Stays span step) : Stays span (f <$> step) :=
  stays.bind (fun a => stays_pure (f a))

/-- A step that only looks. -/
theorem stays_of_looks (look : Nat → List Token → α) :
    Stays span (fun stop tokens => .ok (look stop tokens, tokens)) := by
  intro tokens _
  refine ⟨nofun, ?_⟩
  rintro _ _ ⟨⟩
  exact List.suffix_refl _

theorem stays_peek : Stays span peek :=
  stays_of_looks (fun _ tokens => tokens.head?.map Token.lexeme)

theorem stays_peekSecond : Stays span peekSecond :=
  stays_of_looks (fun _ tokens => (tokens.drop 1).head?.map Token.lexeme)

theorem stays_atEnd : Stays span atEnd := stays_of_looks (fun _ tokens => tokens.isEmpty)

theorem stays_skip : Stays span skip := by
  intro tokens _
  refine ⟨nofun, ?_⟩
  rintro _ _ ⟨⟩
  exact List.drop_suffix 1 tokens

theorem stays_skipAll : Stays span skipAll := by
  intro tokens _
  refine ⟨nofun, ?_⟩
  rintro _ _ ⟨⟩
  exact List.nil_suffix

/-- The place of the next token may be one of a fault. -/
theorem Stays.place {next : Nat → Parse β}
    (each : ∀ offset, span.Holds offset → Stays span (next offset)) :
    Stays span (place >>= next) :=
  fun tokens placed => each _ placed.next tokens placed

/-- The end of a statement is known. -/
theorem Stays.endPlace {next : Nat → Parse β} (stays : Stays span (next span.stop)) :
    Stays span (endPlace >>= next) := stays

theorem stays_failAt {offset : Nat} (held : span.Holds offset) (fault : Fault) :
    Stays span (failAt offset fault : Parse α) := by
  intro tokens _
  refine ⟨?_, nofun⟩
  rintro _ ⟨⟩
  exact held

theorem stays_expected (due : String) : Stays span (expected due : Parse α) := by
  intro tokens placed
  cases tokens with
  | nil =>
    refine ⟨?_, nofun⟩
    rintro _ ⟨⟩
    exact placed.stop
  | cons t tokens =>
    refine ⟨?_, nofun⟩
    rintro _ ⟨⟩
    exact placed.each t List.mem_cons_self

/-- A step that is chosen by a test. -/
theorem Stays.choose {test : Parse Bool} {yes no : Parse β} (tested : Stays span test)
    (first : Stays span yes) (second : Stays span no) :
    Stays span (do if ← test then yes else no) := by
  refine tested.bind (fun holds => ?_)
  cases holds with
  | true => exact first
  | false => exact second

/-- Passes what comes next if a test of it holds. -/
theorem Stays.eat {test : Parse Bool} (tested : Stays span test) :
    Stays span (do
      if ← test then
        skip
        return true
      else return false) :=
  tested.choose (Stays.bind stays_skip (fun _ => stays_pure true)) (stays_pure false)

theorem stays_atWord (name : String) : Stays span (atWord name) :=
  Stays.bind stays_peek (fun _ => stays_pure _)

theorem stays_eatWord (name : String) : Stays span (eatWord name) := (stays_atWord name).eat

theorem stays_expectWord (name : String) : Stays span (expectWord name) :=
  (stays_eatWord name).choose (stays_pure _) (stays_expected name)

theorem stays_atMark (mark : Mark) : Stays span (atMark mark) :=
  Stays.bind stays_peek (fun _ => stays_pure _)

theorem stays_eatMark (mark : Mark) : Stays span (eatMark mark) := (stays_atMark mark).eat

theorem stays_expectMark (mark : Mark) (due : String) : Stays span (expectMark mark due) :=
  (stays_eatMark mark).choose (stays_pure _) (stays_expected due)

/-- Passes a token and gives what was seen in it. -/
theorem stays_pass (a : α) : Stays span (do skip; return a : Parse α) :=
  Stays.bind stays_skip (fun _ => stays_pure a)

theorem stays_word (due : String) : Stays span (word due) := by
  refine Stays.bind stays_peek (fun next => ?_)
  split
  · exact stays_pass _
  · exact stays_expected due

theorem stays_separatedFrom {separator : Parse Bool} {item : Parse α}
    (separates : Stays span separator) (each : Stays span item) (fuel : Nat) :
    Stays span (separatedFrom separator item fuel) := by
  induction fuel with
  | zero => exact stays_pure []
  | succ fuel ih =>
    exact each.bind (fun first => separates.choose (ih.bind (fun _ => stays_pure _)) (stays_pure _))

theorem stays_separated {separator : Parse Bool} {item : Parse α}
    (separates : Stays span separator) (each : Stays span item) :
    Stays span (separated separator item) :=
  fun tokens placed => stays_separatedFrom separates each (tokens.length + 1) tokens placed

theorem stays_commaSeparated {item : Parse α} (each : Stays span item) :
    Stays span (commaSeparated item) := stays_separated (stays_eatMark .comma) each

theorem suffix_dottedRest (name : String) (tokens : List Token) :
    (dottedRest name tokens).2 <:+ tokens := by
  induction name, tokens using dottedRest.induct with
  | case1 name o part o' rest ih =>
    rw [dottedRest]
    exact (ih.trans (List.suffix_cons _ rest)).trans (List.suffix_cons _ _)
  | case2 name tokens other =>
    exact ⟨[], by rw [dottedRest.eq_2 _ _ other, List.nil_append]⟩

theorem stays_attributeName : Stays span attributeName := by
  have dotted : ∀ (entityType : Option String) (name : String), Stays span (fun _ tokens =>
      .ok ((entityType, (dottedRest name tokens).1), (dottedRest name tokens).2) :
        Parse (Option String × String)) := by
    intro entityType name tokens _
    refine ⟨nofun, ?_⟩
    rintro _ _ ⟨⟩
    exact suffix_dottedRest name tokens
  refine (stays_word _).bind (fun first => (stays_eatMark .colon).bind (fun colon => ?_))
  cases colon with
  | true => exact (stays_word _).bind (fun name => dotted (some first) name)
  | false => exact dotted none first

theorem stays_count (due : String) : Stays span (count due) := by
  refine Stays.place (fun offset held => Stays.bind stays_peek (fun next => ?_))
  split
  · refine Stays.bind stays_skip (fun _ => ?_)
    split
    · exact stays_pure _
    · exact stays_failAt held _
  · exact stays_expected due

theorem stays_literal : Stays span literal := by
  refine Stays.place (fun offset held => Stays.bind stays_peek (fun next => ?_))
  split
  · exact stays_pass _
  · split
    · exact stays_pass _
    · exact stays_failAt held _
  · split
    · exact stays_pass _
    · exact stays_failAt held _
  · split
    · exact stays_pass _
    · exact stays_expected _
  · exact stays_expected _

/-! Steps that do the same in one statement. -/

section Alike

variable {step' : Parse α} {next' : α → Parse β} {yes yes' no no' : Parse β}

/-- Two steps do the same with tokens of a statement. -/
def Alike (span : Span) (step step' : Parse α) : Prop :=
  ∀ tokens, Placed span tokens → step span.stop tokens = step' span.stop tokens

theorem alike_refl (step : Parse α) : Alike span step step := fun _ _ => rfl

theorem Alike.bind (stays : Stays span step) (each : ∀ a, Alike span (next a) (next' a)) :
    Alike span (step >>= next) (step >>= next') := by
  intro tokens placed
  obtain ⟨-, leaves⟩ := stays tokens placed
  unfold Bind.bind Monad.toBind instMonad
  dsimp only
  cases taken : step span.stop tokens with
  | error misread => rfl
  | ok made => exact each made.1 made.2 (placed.suffix (leaves made.1 made.2 taken))

theorem Alike.before (first : Alike span step step') (next : α → Parse β) :
    Alike span (step >>= next) (step' >>= next) := by
  intro tokens placed
  unfold Bind.bind Monad.toBind instMonad
  dsimp only
  rw [first tokens placed]

theorem Alike.place {next next' : Nat → Parse β}
    (each : ∀ offset, span.Holds offset → Alike span (next offset) (next' offset)) :
    Alike span (place >>= next) (place >>= next') :=
  fun tokens placed => each _ placed.next tokens placed

theorem Alike.endPlace {next next' : Nat → Parse β}
    (same : Alike span (next span.stop) (next' span.stop)) :
    Alike span (endPlace >>= next) (endPlace >>= next') := same

theorem Alike.choose {test : Parse Bool} (tested : Stays span test) (first : Alike span yes yes')
    (second : Alike span no no') :
    Alike span (do if ← test then yes else no) (do if ← test then yes' else no') := by
  refine Alike.bind tested (fun holds => ?_)
  cases holds with
  | true => exact first
  | false => exact second

end Alike

end Parse
end ThreatHunt.Source
