import ThreatHunt.Proofs.Pattern.Resolved
import ThreatHunt.Proofs.Storage.Tables
import ThreatHunt.Proofs.Table.Typing
import ThreatHunt.Proofs.Table.Unrepeated

/-!
Patterns that are refused for kinds. A comparison by order is refused where its literal has no order
with any value that the column takes, so it holds for no row that keeps to the schema. The one
exception is a row that holds nothing under a column `id`: a comparison reads its row identifier,
which is a text whatever the column declares.
-/

namespace ThreatHunt

open Pattern (ordersWith)

variable {kind : Kind} {v literal : Value} {o : Ordering} {op : Operator} {c : Comparison}
  {e : Entity} {schema : Schema} {p : Pattern} {cause : TypeMismatch}

/-! What has an order with a value of a kind. -/

namespace Value

theorem ordersWith_of_number {x : Binary64} (number : v.number? = some x)
    (compared : v.compare? literal = some o) : ordersWith .int literal = true := by
  cases literal with
  | int i => rfl
  | float y => rfl
  | str s =>
    cases read : readNumber? s with
    | some y => simp [ordersWith, str?, read]
    | none =>
      cases v with
      | int i => simp [compare?, read] at compared
      | float x => simp [compare?, read] at compared
      | _ => nomatch number
  | _ =>
    cases v with
    | int i => nomatch compared
    | float x => nomatch compared
    | _ => nomatch number

theorem ordersWith_of_text {s : String} (compared : (Value.str s).compare? literal = some o) :
    ordersWith .str literal = true := by
  cases literal with
  | bool b => nomatch compared
  | list items => nomatch compared
  | _ => rfl

theorem ordersWith_of_time {t : Instant} (compared : (Value.time t).compare? literal = some o) :
    ordersWith .time literal = true := by
  cases literal with
  | time u => rfl
  | str s =>
    cases read : Instant.read? s with
    | some u => simp [ordersWith, str?, read]
    | none => simp [compare?, read] at compared
  | _ => nomatch compared

/-- Every column takes into its order what has an order with one of its values. -/
theorem ordersWith_of_compare? (below : v.kind ≤ kind) (compared : v.compare? literal = some o) :
    ordersWith kind literal = true := by
  rcases below with null | rfl | ⟨int, rfl⟩ | rfl
  · cases v with
    | null => cases literal <;> nomatch compared
    | _ => nomatch null
  · cases v with
    | int i => exact ordersWith_of_number rfl compared
    | float x => exact ordersWith_of_number rfl compared
    | str s => exact ordersWith_of_text compared
    | time t => exact ordersWith_of_time compared
    | _ => rfl
  · cases v with
    | int i => exact ordersWith_of_number rfl compared
    | _ => nomatch int
  · rfl

/-- A list stands under columns only whose kinds are ordered with everything. -/
theorem ordersWith_of_list (below : Kind.list ≤ kind) : ordersWith kind literal = true := by
  rcases below with null | rfl | ⟨int, _⟩ | rfl
  · nomatch null
  · rfl
  · nomatch int
  · rfl

end Value

namespace Comparison

theorem compared_of_relates (ordering : op.isOrdering = true)
    (related : relates op v literal = true) : ∃ o, v.compare? literal = some o := by
  cases compared : v.compare? literal with
  | some o => exact ⟨o, rfl⟩
  | none =>
    cases op with
    | less | lessEqual | greater | greaterEqual => simp [relates, compared] at related
    | _ => nomatch ordering

theorem admits_ordering (ordering : c.operator.isOrdering = true) :
    c.admits e = (!(e.valueOf c.attr).isNull && match e.valueOf c.attr with
      | .list items => items.any (holdsOf c.operator c.operand)
      | v => holdsOf c.operator c.operand v) := by
  unfold admits
  cases operator : c.operator with
  | less | lessEqual | greater | greaterEqual =>
    cases e.valueOf c.attr <;> simp [Operator.positive, Value.isNull]
  | _ =>
    rw [operator] at ordering
    cases ordering

/-- A comparison by order that holds for a row has a literal that its column takes. -/
theorem ordersWith_of_admits (ordering : c.operator.isOrdering = true)
    (operand : c.operand = .value literal) (below : (e.valueOf c.attr).kind ≤ kind)
    (admitted : c.admits e = true) : ordersWith kind literal = true := by
  rw [admits_ordering ordering, operand] at admitted
  generalize e.valueOf c.attr = v at below admitted
  obtain ⟨-, holds⟩ := Bool.and_eq_true_iff.1 admitted
  cases v with
  | list items => exact Value.ordersWith_of_list below
  | _ =>
    obtain ⟨o, compared⟩ := compared_of_relates ordering holds
    exact Value.ordersWith_of_compare? below compared

end Comparison

/-- Whether the attributes of a row are among those of a schema, each with a value of the kind that
is declared for it or of one below. -/
def Entity.KeepsTo (schema : Schema) (e : Entity) : Prop :=
  ∀ name value, e.attributes.find? name = some value →
    ∃ kind, schema.kindOf? name = some kind ∧ value.kind ≤ kind

/-- Whether a comparison reads a row identifier under a column that declares another kind. -/
structure ReadsIdentifier (schema : Schema) (attr : String) (e : Entity) : Prop where
  named : attr = "id"
  declared : ∃ kind, schema.kindOf? "id" = some kind ∧ kind ≠ .str
  missing : e.attributes.contains "id" = false

/-- A row with a value under each column, as the store holds it, is never read so. -/
theorem Entity.Fills.not_readsIdentifier {attr : String} (fills : e.Fills schema) :
    ¬ReadsIdentifier schema attr e := by
  rintro ⟨rfl, ⟨kind, column, other⟩, missing⟩
  have named : "id" ∈ schema.names := by
    rw [← Schema.column?_isSome]
    cases found : schema.column? "id" with
    | some c => rfl
    | none =>
      rw [Schema.kindOf?, found] at column
      exact absurd (Option.some.inj column).symm other
  exact absurd ((fills "id" named).symm.trans missing) (by decide)

/-- What a comparison reads from a row that keeps to the schema is of a kind that is declared. -/
theorem Entity.KeepsTo.kind_valueOf {attr : String} (keeps : e.KeepsTo schema)
    (column : schema.kindOf? attr = some kind) (own : ¬ReadsIdentifier schema attr e) :
    (e.valueOf attr).kind ≤ kind := by
  unfold valueOf
  cases found : e.attributes.find? attr with
  | some v =>
    obtain ⟨declared, same, below⟩ := keeps attr v found
    obtain rfl := Option.some.inj (column.symm.trans same)
    exact below
  | none =>
    by_cases named : attr = "id"
    · subst named
      by_contra above
      apply own
      refine ⟨rfl, ⟨kind, column, ?_⟩, ?_⟩
      · rintro rfl
        exact above (le_refl Kind.str)
      · rw [Dict.contains, found]
        rfl
    · simp only [beq_iff_eq, named, if_false]
      exact bot_le (a := kind)

namespace Pattern

/-- A pattern is refused for the kind of the literal in one of its comparisons by order. -/
theorem exists_unordered (refused : p.checkKinds schema = .error (.typeMismatch cause)) :
    ∃ c ∈ p.comparisons, ∃ kind literal, c.operator.isOrdering = true ∧
      schema.kindOf? c.attr = some kind ∧ c.operand = .value literal ∧
      ordersWith kind literal = false ∧ cause = .ordering c.attr kind literal := by
  rcases checkKinds_fails refused with ⟨_, _, foreign⟩ |
    ⟨c, member, kind, literal, ordering, column, operand, unordered, same⟩
  · nomatch foreign
  · exact ⟨c, member, kind, literal, ordering, column, operand, unordered,
      HuntError.typeMismatch.inj same⟩

/-- A pattern that is refused for kinds has a comparison by order that holds for no row that keeps
to the schema, unless it reads a row identifier under a column of another kind. -/
theorem hopeless_of_checkKinds (refused : p.checkKinds schema = .error (.typeMismatch cause)) :
    ∃ c ∈ p.comparisons, c.operator.isOrdering = true ∧
      ∀ e : Entity, e.KeepsTo schema → ¬ReadsIdentifier schema c.attr e → c.admits e = false := by
  obtain ⟨c, member, kind, literal, ordering, column, operand, unordered, -⟩ :=
    exists_unordered refused
  refine ⟨c, member, ordering, fun e keeps own => ?_⟩
  by_contra admitted
  have taken := Comparison.ordersWith_of_admits ordering operand (keeps.kind_valueOf column own)
    (Bool.not_eq_false _ ▸ admitted)
  exact absurd (taken.symm.trans unordered) (by decide)

/-- A negation around a comparison of process numbers with a word. -/
def notLowShell : Pattern :=
  .negation (.all [.test ⟨"name", none, .equal, .value (.str "cmd")⟩,
    .test ⟨"pid", none, .less, .value (.str "low")⟩])

theorem hopeless_of_checkKinds_negated :
    notLowShell.checkKinds ⟨"process", [⟨"name", .str⟩, ⟨"pid", .int⟩]⟩ =
      .error (.typeMismatch (.ordering "pid" .int (.str "low"))) ∧
    ∃ c ∈ notLowShell.comparisons, c.operator.isOrdering = true ∧
      ∀ e : Entity, e.KeepsTo ⟨"process", [⟨"name", .str⟩, ⟨"pid", .int⟩]⟩ →
        ¬ReadsIdentifier ⟨"process", [⟨"name", .str⟩, ⟨"pid", .int⟩]⟩ c.attr e →
        c.admits e = false := by
  have refused : notLowShell.checkKinds ⟨"process", [⟨"name", .str⟩, ⟨"pid", .int⟩]⟩ =
      .error (.typeMismatch (.ordering "pid" .int (.str "low"))) := rfl
  exact ⟨refused, hopeless_of_checkKinds refused⟩

/-- A row identifier is compared with the literal that a column `id` of integers refuses. -/
theorem checkKinds_refuses_identifiers :
    ¬∀ (p : Pattern) (schema : Schema) (cause : TypeMismatch),
      p.checkKinds schema = .error (.typeMismatch cause) →
        ∃ c ∈ p.comparisons, c.operator.isOrdering = true ∧
          ∀ e : Entity, e.KeepsTo schema → c.admits e = false := by
  intro hopeless
  obtain ⟨c, member, -, fails⟩ := hopeless (.test ⟨"id", none, .greater, .value (.str "abb")⟩)
    ⟨"process", [⟨"id", .int⟩]⟩ (.ordering "id" .int (.str "abb")) rfl
  obtain rfl := List.mem_singleton.1 member
  have empty : Entity.KeepsTo ⟨"process", [⟨"id", .int⟩]⟩ ⟨"abc", Dict.empty⟩ := nofun
  exact absurd (fails ⟨"abc", Dict.empty⟩ empty) (by decide)

end Pattern
end ThreatHunt
