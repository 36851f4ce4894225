import ThreatHunt.Pattern.Match
import ThreatHunt.Proofs.Outcome

/-!
References in patterns. Replacing the comparisons of a pattern one by one gives one with just the
new comparisons, and a pattern without references is refused for its types, its literals and its
texts alone.
-/

namespace ThreatHunt.Pattern

open Outcome

variable {p q : Pattern} {f : Comparison → Except HuntError Comparison} {Kept : HuntError → Prop}

theorem mem_references {var attr : String} :
    (var, attr) ∈ p.references ↔ ∃ c ∈ p.comparisons, c.operand = .reference var attr := by
  unfold references
  rw [List.mem_filterMap]
  constructor
  · rintro ⟨c, member, named⟩
    refine ⟨c, member, ?_⟩
    split at named
    · rename_i operand
      simp only [Option.some.injEq, Prod.mk.injEq] at named
      rw [operand, named.1, named.2]
    · cases named
  · rintro ⟨c, member, operand⟩
    exact ⟨c, member, by simp [operand]⟩

theorem references_eq_nil_iff :
    p.references = [] ↔ ∀ c ∈ p.comparisons, ∀ var attr, c.operand ≠ .reference var attr := by
  constructor
  · intro none c member var attr operand
    have there := mem_references.2 ⟨c, member, operand⟩
    rw [none] at there
    exact List.not_mem_nil there
  · intro all
    apply List.eq_nil_iff_forall_not_mem.2
    rintro ⟨var, attr⟩ there
    obtain ⟨c, member, operand⟩ := mem_references.1 there
    exact all c member var attr operand

mutual

/-- Replacing goes through the comparisons of a pattern in their order. -/
theorem comparisons_mapM : (p : Pattern) → {q : Pattern} → p.mapM f = .ok q →
    List.Forall₂ (fun c d => f c = .ok d) p.comparisons q.comparisons
  | .all parts, _, mapped => by
    obtain ⟨made, inner, rfl⟩ := map_eq_ok.1 mapped
    exact comparisonsOf_mapPartsM parts inner
  | .any parts, _, mapped => by
    obtain ⟨made, inner, rfl⟩ := map_eq_ok.1 mapped
    exact comparisonsOf_mapPartsM parts inner
  | .negation part, _, mapped => by
    obtain ⟨made, inner, rfl⟩ := map_eq_ok.1 mapped
    change List.Forall₂ _ part.comparisons made.comparisons
    exact comparisons_mapM part inner
  | .test c, _, mapped => by
    obtain ⟨d, inner, rfl⟩ := map_eq_ok.1 mapped
    exact .cons inner .nil

theorem comparisonsOf_mapPartsM : (parts : List Pattern) → {made : List Pattern} →
    mapPartsM f parts = .ok made →
    List.Forall₂ (fun c d => f c = .ok d) (comparisonsOf parts) (comparisonsOf made)
  | [], _, mapped => by
    rw [← Except.ok.inj mapped]
    exact .nil
  | part :: rest, _, mapped => by
    obtain ⟨first, head, later⟩ := bind_eq_ok.1 mapped
    obtain ⟨others, tail, same⟩ := bind_eq_ok.1 later
    rw [← Except.ok.inj same]
    exact List.rel_append (comparisons_mapM part head) (comparisonsOf_mapPartsM rest tail)

end

mutual

/-- Replacing looks at nothing but the comparisons of a pattern. -/
theorem mapM_congr {g : Comparison → Except HuntError Comparison} :
    (p : Pattern) → (∀ c ∈ p.comparisons, f c = g c) → p.mapM f = p.mapM g
  | .all parts, each => congrArg (Except.map Pattern.all) (mapPartsM_congr parts each)
  | .any parts, each => congrArg (Except.map Pattern.any) (mapPartsM_congr parts each)
  | .negation part, each => congrArg (Except.map Pattern.negation) (mapM_congr part each)
  | .test c, each => congrArg (Except.map Pattern.test) (each c (List.mem_singleton_self c))

theorem mapPartsM_congr {g : Comparison → Except HuntError Comparison} :
    (parts : List Pattern) → (∀ c ∈ comparisonsOf parts, f c = g c) →
      mapPartsM f parts = mapPartsM g parts
  | [], _ => rfl
  | part :: rest, each =>
    bind_congr_ok (mapM_congr part (fun c here => each c (List.mem_append_left _ here)))
      (fun _ _ => bind_congr_ok
        (mapPartsM_congr rest (fun c later => each c (List.mem_append_right _ later)))
        (fun _ _ => rfl))

end

mutual

/-- Replacing fails as it does for a single comparison. -/
theorem mapM_fails (each : ∀ c e, f c = .error e → Kept e) :
    (p : Pattern) → ∀ e, p.mapM f = .error e → Kept e
  | .all parts => fails_map (mapPartsM_fails each parts)
  | .any parts => fails_map (mapPartsM_fails each parts)
  | .negation part => fails_map (mapM_fails each part)
  | .test c => fails_map (each c)

theorem mapPartsM_fails (each : ∀ c e, f c = .error e → Kept e) :
    (parts : List Pattern) → ∀ e, mapPartsM f parts = .error e → Kept e
  | [] => fun _ failed => by cases failed
  | part :: rest =>
    fails_bind (mapM_fails each part) (fun _ =>
      fails_bind (mapPartsM_fails each rest) (fun _ _ failed => by cases failed))

end

/-- A comparison is refused for the size of its pattern, for its expression, or for a reference. -/
theorem fault?_eq_some {c : Comparison} {e : HuntError} (fault : c.fault? = some e) :
    (∃ text limit, e = .senseless (.largePattern text limit)) ∨
      (∃ text, e = .senseless (.invalidExpression text)) ∨
      ∃ var attr, c.operand = .reference var attr ∧
        e = .internal (.unresolvedReference var attr) := by
  unfold Comparison.fault? at fault
  split at fault
  case h_5 =>
    rename_i operand
    exact .inr (.inr ⟨_, _, operand, (Option.some.inj fault).symm⟩)
  case h_6 => nomatch fault
  case h_1 | h_2 =>
    split at fault
    · nomatch fault
    · exact .inl ⟨_, _, (Option.some.inj fault).symm⟩
  case h_3 | h_4 =>
    split at fault
    · nomatch fault
    · exact .inr (.inl ⟨_, (Option.some.inj fault).symm⟩)

/-- A comparison without a reference is refused for its text alone. -/
theorem fault?_of_resolved {c : Comparison} (resolved : ∀ var attr, c.operand ≠ .reference var attr)
    {e : HuntError} (fault : c.fault? = some e) : ∃ cause, e = .senseless cause := by
  rcases fault?_eq_some fault with ⟨_, _, large⟩ | ⟨_, invalid⟩ | ⟨var, attr, reference, _⟩
  · exact ⟨_, large⟩
  · exact ⟨_, invalid⟩
  · exact absurd reference (resolved var attr)

/-- A pattern without references is refused for its texts alone. -/
theorem check_of_resolved (resolved : p.references = []) {e : HuntError}
    (failed : p.check = .error e) : ∃ cause, e = .senseless cause := by
  unfold check at failed
  split at failed
  · rename_i error found
    obtain ⟨c, member, fault⟩ := List.exists_of_findSome?_eq_some found
    rw [← Except.error.inj failed]
    exact fault?_of_resolved (references_eq_nil_iff.1 resolved c member) fault
  · cases failed

/-! What a pattern is refused for before it is evaluated: a type that it names, or the kind of the
literal in a comparison by order. -/

theorem checkTypes_fails {entityType : String} {e : HuntError}
    (failed : p.checkTypes entityType = .error e) :
    ∃ written attr, e = .senseless (.foreignPrefix written attr entityType) := by
  unfold checkTypes at failed
  dsimp only at failed
  split at failed
  · rename_i error found
    obtain ⟨c, -, fault⟩ := List.exists_of_findSome?_eq_some found
    rw [← Except.error.inj failed]
    split at fault
    · split at fault
      · nomatch fault
      · exact ⟨_, _, (Option.some.inj fault).symm⟩
    · nomatch fault
  · nomatch failed

theorem checkKinds_fails {schema : Schema} {e : HuntError}
    (failed : p.checkKinds schema = .error e) :
    (∃ written attr, e = .senseless (.foreignPrefix written attr schema.entityType)) ∨
      ∃ c ∈ p.comparisons, ∃ kind literal, c.operator.isOrdering = true ∧
        schema.kindOf? c.attr = some kind ∧ c.operand = .value literal ∧
        ordersWith kind literal = false ∧ e = .typeMismatch (.ordering c.attr kind literal) := by
  unfold checkKinds at failed
  cases types : p.checkTypes schema.entityType with
  | error error =>
    rw [types] at failed
    exact .inl (Except.error.inj failed ▸ checkTypes_fails types)
  | ok =>
    rw [types] at failed
    dsimp only [bind, Except.bind] at failed
    split at failed
    · rename_i error found
      obtain ⟨c, member, fault⟩ := List.exists_of_findSome?_eq_some found
      obtain rfl := Except.error.inj failed
      -- Only a comparison by order of a column with a literal can be the one that was found.
      split at fault
      · nomatch fault
      · rename_i ordering
        split at fault
        · rename_i kind literal column operand
          split at fault
          · nomatch fault
          · rename_i unordered
            exact .inr ⟨c, member, kind, literal, by simpa using ordering, column, operand,
              by simpa using unordered, (Option.some.inj fault).symm⟩
        · nomatch fault
    · nomatch failed

end ThreatHunt.Pattern
