import ThreatHunt.Proofs.Hunt.Reachable

/-!
Failures and their reasons. Some errors tell of states that no statement should reach: a pattern
whose references were not replaced, and lineage that is not there. They never come up, since each
pattern that is evaluated was resolved before, and all that is bound is derived from nodes that are
there.
-/

namespace ThreatHunt

open Outcome

/-- Whether an error tells of a state that no statement should reach. -/
def HuntError.IsInternal : HuntError → Prop
  | .internal _ => True
  | _ => False

/-- Whether a computation fails only for reasons that lie in a statement or in what it works on. -/
def Explained {α : Type} (x : Except HuntError α) : Prop := ∀ e, x = .error e → ¬e.IsInternal

section

variable {α β : Type}

theorem explained_ok (a : α) : Explained (.ok a) := fun _ failed => by cases failed

theorem explained_error {e : HuntError} (told : ¬e.IsInternal) :
    Explained (.error e : Except HuntError α) :=
  fun _ same => Except.error.inj same ▸ told

theorem Explained.bind {x : Except HuntError α} {f : α → Except HuntError β} (first : Explained x)
    (rest : ∀ a, Explained (f a)) : Explained (x >>= f) :=
  fails_bind first rest

theorem Explained.map {x : Except HuntError α} (first : Explained x) (f : α → β) :
    Explained (f <$> x) :=
  fails_map first

theorem Explained.guard {c : Prop} [Decidable c] {thrown : HuntError} {f : α → Except HuntError β}
    {x : Except HuntError β} (told : ¬thrown.IsInternal) (rest : Explained x) :
    Explained (if c then (throw thrown : Except HuntError α) >>= f else x) :=
  fails_guard told rest

theorem explained_of_ite {c : Prop} [Decidable c] {x y : Except HuntError α} (yes : Explained x)
    (no : Explained y) : Explained (if c then x else y) := by
  split
  · exact yes
  · exact no

end

theorem explained_of_clause {α : Type} {x : Except HuntError α}
    (fails : ∀ e, x = .error e → e.OfClause) : Explained x := by
  intro e failed
  cases fails e failed <;> exact not_false

/-! The checks of patterns, schemas and declarations. -/

theorem Pattern.explained_checkKinds (schema : Schema) (p : Pattern) :
    Explained (p.checkKinds schema) :=
  explained_of_clause (Scene.checkKinds?_fails schema (some p))

theorem Pattern.explained_checkKinds? (schema : Schema) (p : Option Pattern) :
    Explained (Pattern.checkKinds? schema p) :=
  explained_of_clause (Scene.checkKinds?_fails schema p)

theorem Schema.explained_checkAttributes (schema : Schema) (attrs : List String)
    (clause : String) : Explained (schema.checkAttributes attrs clause) :=
  explained_of_clause (schema.checkAttributes_fails attrs clause)

theorem Aggregation.explained_check (schema : Schema) (a : Aggregation) :
    Explained (a.check schema) := by
  unfold check
  apply explained_of_ite
  · apply explained_of_ite
    · exact explained_error not_false
    · split
      · exact explained_of_ite (explained_error not_false) (explained_ok ())
      · exact explained_ok ()
  · exact explained_ok ()

theorem Aggregation.explained_checkAll (schema : Schema) (as : List Aggregation) :
    Explained (Aggregation.checkAll schema as) :=
  (schema.explained_checkAttributes _ _).bind (fun _ =>
    fails_forM (fun a _ => a.explained_check schema))

theorem InputSpec.explained_checkAttribute (module variableName : String) (schema : Schema)
    (wanted : String × Option Kind) :
    Explained (InputSpec.checkAttribute module variableName schema wanted) := by
  unfold checkAttribute
  split
  · exact explained_error not_false
  · exact explained_ok ()
  · exact explained_of_ite (explained_ok ()) (explained_error not_false)

theorem InputSpec.explained_checkType (spec : InputSpec) (module variableName : String)
    (schema : Schema) : Explained (spec.checkType module variableName schema) := by
  unfold checkType
  split
  · exact explained_of_ite (explained_ok ()) (explained_error not_false)
  · exact explained_ok ()

theorem InputSpec.explained_checkAll (spec : InputSpec) (module : String)
    (tables : List (String × Table)) : Explained (spec.checkAll module tables) := by
  unfold checkAll
  apply Explained.bind
  · exact explained_of_ite (explained_error not_false) (explained_ok ())
  · intro _
    apply fails_forM
    intro t _
    apply Explained.bind (spec.explained_checkType module t.1 t.2.schema)
    intro _
    exact fails_forM (fun wanted _ => explained_checkAttribute module t.1 t.2.schema wanted)

namespace Scene

variable {s : Scene}

theorem explained_resolve (vs : Variables) (name : String) : Explained (vs.resolve name) :=
  explained_of_clause (Scene.resolve_fails vs name)

theorem explained_operand (name : Option String) : Explained (s.operand name) :=
  explained_of_clause (operand_fails name)

theorem explained_tableOf (v : Variable) : Explained (s.tableOf v) :=
  explained_of_clause (tableOf_fails v)

/-- What starts with the table of an operand is explained if what follows is. -/
theorem explained_operandTable {α : Type} {input : Option String}
    {f : Variable → Table → Except HuntError α} (rest : ∀ v t, Explained (f v t)) :
    Explained (s.operand input >>= fun v => s.tableOf v >>= f v) := by
  apply (explained_operand input).bind
  intro v
  exact (explained_tableOf v).bind (rest v)

theorem explained_checkLimit (limit : Option Nat) : Explained (checkLimit limit) :=
  explained_of_clause (checkLimit_fails limit)

theorem explained_window (span : Option TimeSpan) : Explained (s.window span) :=
  explained_of_clause (window_fails span)

theorem explained_checkRelation (relation : String) : Explained (s.checkRelation relation) :=
  explained_of_ite (explained_ok ()) (explained_error not_false)

theorem explained_checkConnects (relation source target : String) :
    Explained (s.checkConnects relation source target) :=
  explained_of_ite (explained_error not_false) (explained_ok ())

theorem explained_openBundle (opened : List Connector) (uri : String) :
    Explained (s.openBundle opened uri) := by
  unfold openBundle
  split
  · exact explained_ok _
  · split
    · exact explained_ok _
    · exact explained_error not_false

theorem explained_addSource (entityType : String) (found : Sources) (source : Source) :
    Explained (s.addSource entityType found source) := by
  cases source with
  | uri u =>
    unfold addSource
    dsimp only
    split
    · exact explained_ok _
    · apply explained_of_ite
      · exact (explained_openBundle found.opened u).bind (fun _ => explained_ok _)
      · exact explained_error not_false
  | named name =>
    unfold addSource
    dsimp only
    split
    · exact explained_ok _
    · split
      · exact explained_of_ite (explained_ok _) (explained_error not_false)
      · exact explained_error not_false

theorem explained_checkSupport (entityType : String) (connectors : List Connector) :
    Explained (checkSupport entityType connectors) := by
  unfold checkSupport
  split
  · exact explained_error not_false
  · exact explained_ok ()

theorem explained_sourcesOf (entityType : String) (named : List Source) :
    Explained (s.sourcesOf entityType named) := by
  unfold sourcesOf
  apply explained_of_ite (explained_ok _)
  apply Explained.bind (fails_foldlM (fun found source _ => explained_addSource _ found source) _)
  intro found
  exact (explained_checkSupport entityType found.connectors).bind (fun _ => explained_ok _)

theorem explained_preparePattern (entityType : String) (pattern : Option Pattern) :
    Explained (s.preparePattern entityType pattern) :=
  explained_of_clause (preparePattern_fails entityType pattern)

theorem explained_variablePart (p : Option Pattern) (w : Option Window) (v : Variable) :
    Explained (s.variablePart p w v) :=
  (explained_tableOf v).bind (fun t =>
    (Pattern.explained_checkKinds? t.schema p).bind (fun _ => explained_ok _))

theorem explained_mergeOperands (first : String) (head : Option Table) (inputs : List String) :
    Explained (s.mergeOperands first head inputs) := by
  induction inputs generalizing head with
  | nil => exact explained_ok _
  | cons name rest ih =>
    unfold mergeOperands
    apply Explained.bind (explained_operand _)
    intro v
    have others : Explained (do
        let t ← s.tableOf v
        let others ← s.mergeOperands first (head.orElse (fun _ => some t)) rest
        return (v, t) :: others) :=
      (explained_tableOf v).bind (fun t => (ih _).bind (fun _ => explained_ok _))
    split
    · exact Explained.guard not_false others
    · exact others

theorem explained_moduleOperands (inputs : List String) : Explained (s.moduleOperands inputs) :=
  fails_mapM (fun _ _ => explained_operandTable (fun _ _ => explained_ok _))

/-! Patterns without references. -/

theorem resolved_of_resolveComparison {c d : Comparison} (made : s.resolveComparison c = .ok d) :
    ∀ var attr, d.operand ≠ .reference var attr := by
  cases resolveComparison_eq_ok.1 made with
  | plain plain => exact plain
  | reference =>
    intro var attr same
    cases same

theorem resolved_of_preparePattern {entityType : String} {pattern : Option Pattern} {p : Pattern}
    (prepared : s.preparePattern entityType pattern = .ok (some p)) : p.references = [] := by
  cases pattern with
  | none => cases prepared
  | some written =>
    obtain ⟨_, _, made, resolved, same⟩ := preparePattern_eq_ok.1 prepared
    obtain rfl := Option.some.inj same
    rw [Pattern.references_eq_nil_iff]
    intro d member
    obtain ⟨c, _, replaced⟩ := exists_of_forall₂ (written.comparisons_mapM resolved) member
    exact resolved_of_resolveComparison replaced

end Scene
end ThreatHunt
