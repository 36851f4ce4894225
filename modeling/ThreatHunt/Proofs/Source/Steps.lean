import ThreatHunt.Source.Parse
import ThreatHunt.Proofs.Source.Words

/-!
What steps of reading give. A step is said to give something before tokens of one kind and to leave
tokens of another; one rule for each way of joining steps.
-/

namespace ThreatHunt.Source.Parse

variable {α β : Type}

/-- All lists of tokens. -/
def Any (_ : List Token) : Prop := True

/-- If a step succeeds, it gives a result with a property and leaves tokens of a kind. -/
def Gives (Before : List Token → Prop) (step : Parse α) (Result : α → Prop)
    (After : List Token → Prop) : Prop :=
  ∀ stop tokens a rest, Before tokens → step stop tokens = .ok (a, rest) → Result a ∧ After rest

variable {Before Between After : List Token → Prop} {Result : α → Prop} {Final : β → Prop}

theorem gives_pure {a : α} (holds : Result a) : Gives Before (pure a) Result Before := by
  intro stop tokens b rest before read
  obtain ⟨rfl, rfl⟩ := Prod.mk.inj (Except.ok.inj read)
  exact ⟨holds, before⟩

theorem gives_failAt (offset : Nat) (fault : Fault) :
    Gives Before (failAt offset fault : Parse α) Result After :=
  fun _ _ _ _ _ read => nomatch read

theorem gives_expected (due : String) : Gives Before (expected due : Parse α) Result After := by
  intro stop tokens a rest _ read
  cases tokens <;> nomatch read

/-- Whatever a step does, nothing is claimed. -/
theorem gives_any (step : Parse α) : Gives Before step (fun _ => True) Any :=
  fun _ _ _ _ _ _ => ⟨trivial, trivial⟩

theorem Gives.bind {step : Parse α} {next : α → Parse β} (first : Gives Before step Result Between)
    (second : ∀ a, Result a → Gives Between (next a) Final After) :
    Gives Before (step >>= next) Final After := by
  intro stop tokens b rest before read
  unfold Bind.bind Monad.toBind instMonad at read
  dsimp only at read
  cases begun : step stop tokens with
  | error misread =>
    rw [begun] at read
    cases read
  | ok made =>
    rw [begun] at read
    obtain ⟨holds, between⟩ := first stop tokens made.1 made.2 before begun
    exact second made.1 holds stop made.2 b rest between read

/-- What the last step gives does not depend on the first where nothing is asked of tokens. -/
theorem gives_after {step : Parse α} {next : α → Parse β}
    (second : ∀ a, Gives Any (next a) Final After) : Gives Before (step >>= next) Final After :=
  (gives_any step).bind (fun a _ => second a)

theorem Gives.mono {step : Parse α} {Weaker : α → Prop} (given : Gives Before step Result After)
    (weaker : ∀ a, Result a → Weaker a) : Gives Before step Weaker After :=
  fun stop tokens a rest before read =>
    let ⟨holds, after⟩ := given stop tokens a rest before read
    ⟨weaker a holds, after⟩

theorem Gives.forget {step : Parse α} (given : Gives Any step Result Any) :
    Gives Before step Result Any :=
  fun stop tokens a rest _ read => given stop tokens a rest trivial read

theorem Gives.map {step : Parse α} {f : α → β} (given : Gives Before step (fun a => Final (f a)) After)
    : Gives Before (f <$> step) Final After :=
  given.bind (fun _ holds => gives_pure holds)

/-- A step that only looks. -/
theorem gives_peek : Gives Worded peek (fun next => ∀ s, next = some (.word s) → Named s) Worded := by
  intro stop tokens next rest worded read
  obtain ⟨rfl, rfl⟩ := Prod.mk.inj (Except.ok.inj read)
  refine ⟨fun s word => ?_, worded⟩
  obtain ⟨t, head, lexeme⟩ := Option.map_eq_some_iff.1 word
  exact worded t (List.mem_of_mem_head? head) s lexeme

/-! Steps that leave tokens whose words are names. -/

theorem gives_peekSecond : Gives Worded peekSecond (fun _ => True) Worded := by
  intro stop tokens next rest worded read
  obtain ⟨_, rfl⟩ := Prod.mk.inj (Except.ok.inj read)
  exact ⟨trivial, worded⟩

theorem gives_skip : Gives Worded skip (fun _ => True) Worded := by
  intro stop tokens a rest worded read
  obtain ⟨_, rfl⟩ := Prod.mk.inj (Except.ok.inj read)
  exact ⟨trivial, fun t member => worded t (List.mem_of_mem_drop member)⟩

theorem gives_place : Gives Worded place (fun _ => True) Worded := by
  intro stop tokens a rest worded read
  obtain ⟨_, rfl⟩ := Prod.mk.inj (Except.ok.inj read)
  exact ⟨trivial, worded⟩

/-- Passes what comes next if a test of it holds. -/
theorem gives_eat {test : Parse Bool} (tested : Gives Worded test (fun _ => True) Worded) :
    Gives Worded (do
      if ← test then
        skip
        return true
      else return false) (fun _ => True) Worded := by
  refine tested.bind (fun b _ => ?_)
  cases b with
  | true => exact gives_skip.bind (fun _ _ => gives_pure trivial)
  | false => exact gives_pure trivial

theorem gives_atWord (name : String) : Gives Worded (atWord name) (fun _ => True) Worded :=
  gives_peek.bind (fun _ _ => gives_pure trivial)

theorem gives_eatWord (name : String) : Gives Worded (eatWord name) (fun _ => True) Worded :=
  gives_eat (gives_atWord name)

theorem gives_atMark (mark : Mark) : Gives Worded (atMark mark) (fun _ => True) Worded :=
  gives_peek.bind (fun _ _ => gives_pure trivial)

theorem gives_eatMark (mark : Mark) : Gives Worded (eatMark mark) (fun _ => True) Worded :=
  gives_eat (gives_atMark mark)

theorem gives_expectWord (name : String) : Gives Worded (expectWord name) (fun _ => True) Worded := by
  refine (gives_eatWord name).bind (fun b _ => ?_)
  cases b with
  | true => exact gives_pure trivial
  | false => exact gives_expected name

theorem gives_expectMark (mark : Mark) (due : String) :
    Gives Worded (expectMark mark due) (fun _ => True) Worded := by
  refine (gives_eatMark mark).bind (fun b _ => ?_)
  cases b with
  | true => exact gives_pure trivial
  | false => exact gives_expected due

/-- A word is a name. -/
theorem gives_word (due : String) : Gives Worded (word due) Named Worded := by
  refine gives_peek.bind (fun next named => ?_)
  split
  · rename_i s
    exact gives_skip.bind (fun _ _ => gives_pure (named s rfl))
  · exact gives_expected due

/-- What all items have, each item of a list has. -/
theorem gives_separatedFrom {separator : Parse Bool} {item : Parse α}
    (separates : Gives Worded separator (fun _ => True) Worded)
    (each : Gives Worded item Result Worded) (fuel : Nat) :
    Gives Worded (separatedFrom separator item fuel) (fun as => ∀ a ∈ as, Result a) Worded := by
  induction fuel with
  | zero => exact gives_pure (fun _ member => absurd member List.not_mem_nil)
  | succ fuel ih =>
    refine each.bind (fun first holds => separates.bind (fun more _ => ?_))
    cases more with
    | true =>
      refine ih.bind (fun others rest => gives_pure (fun a member => ?_))
      rcases List.mem_cons.1 member with rfl | later
      · exact holds
      · exact rest a later
    | false =>
      refine gives_pure (fun a member => ?_)
      rw [List.mem_singleton.1 member]
      exact holds

theorem gives_separated {separator : Parse Bool} {item : Parse α}
    (separates : Gives Worded separator (fun _ => True) Worded)
    (each : Gives Worded item Result Worded) :
    Gives Worded (separated separator item) (fun as => as ≠ [] ∧ ∀ a ∈ as, Result a) Worded := by
  intro stop tokens as rest worded read
  obtain ⟨all, after⟩ := gives_separatedFrom separates each _ stop tokens as rest worded read
  refine ⟨⟨?_, all⟩, after⟩
  -- There is fuel for the first item, which is in the list.
  have some : Gives Any (separatedFrom separator item (tokens.length + 1)) (· ≠ []) Any := by
    refine (gives_any item).bind (fun first _ => (gives_any separator).bind (fun more _ => ?_))
    cases more with
    | true => exact (gives_any _).bind (fun _ _ => gives_pure (List.cons_ne_nil _ _))
    | false => exact gives_pure (List.cons_ne_nil _ _)
  exact (some stop tokens as rest trivial read).1

theorem gives_dottedRest (name : String) (tokens : List Token) (named : Named name)
    (worded : Worded tokens) :
    Named (dottedRest name tokens).1 ∧ Worded (dottedRest name tokens).2 := by
  induction name, tokens using dottedRest.induct with
  | case1 name o part o' rest ih =>
    rw [dottedRest]
    have word := worded ⟨.word part, o'⟩ (by simp) part rfl
    exact ih (named.dotted word) (fun t member => worded t (by simp [member]))
  | case2 name tokens other =>
    rw [dottedRest.eq_2 _ _ other]
    exact ⟨named, worded⟩

/-- The name of an attribute is a name. -/
theorem gives_attributeName : Gives Worded attributeName (fun a => Named a.2) Worded := by
  refine (gives_word _).bind (fun first named => ?_)
  have dotted : ∀ (entityType : Option String) (name : String), Named name →
      Gives Worded (fun _ tokens =>
        .ok ((entityType, (dottedRest name tokens).1), (dottedRest name tokens).2) :
          Parse (Option String × String)) (fun a => Named a.2) Worded := by
    intro entityType name named stop tokens a rest worded read
    obtain ⟨rfl, rfl⟩ := Prod.mk.inj (Except.ok.inj read)
    exact gives_dottedRest name tokens named worded
  refine (gives_eatMark .colon).bind (fun colon _ => ?_)
  cases colon with
  | true => exact (gives_word _).bind (fun name named => dotted (some first) name named)
  | false => exact dotted none first named

theorem gives_literal : Gives Worded literal (fun _ => True) Worded := by
  refine gives_place.bind (fun offset _ => gives_peek.bind (fun next _ => ?_))
  have passed : ∀ v : Value, Gives Worded (do skip; return v) (fun _ => True) Worded :=
    fun v => gives_skip.bind (fun _ _ => gives_pure trivial)
  split
  · exact passed _
  · split
    · exact passed _
    · exact gives_failAt _ _
  · split
    · exact passed _
    · exact gives_failAt _ _
  · split
    · exact passed _
    · exact gives_expected _
  · exact gives_expected _

end ThreatHunt.Source.Parse
