import ThreatHunt.Pattern.Reading
import ThreatHunt.Proofs.Pattern.Comparisons
import ThreatHunt.Proofs.Source.Consuming
import ThreatHunt.Proofs.Source.Written

/-!
Comparisons as lexemes. A comparison of names that are words and literals that a source can write is
read again from its lexemes, whatever stands behind them.
-/

namespace ThreatHunt

open Source Source.Parse

/-! Operators. -/

/-- The lexemes of an operator. -/
def Operator.lexemes : Operator → List Lexeme
  | .equal => [.mark .equal]
  | .notEqual => [.mark .notEqual]
  | .less => [.mark .less]
  | .lessEqual => [.mark .lessEqual]
  | .greater => [.mark .greater]
  | .greaterEqual => [.mark .greaterEqual]
  | .like => [.word "LIKE"]
  | .notLike => [.word "NOT", .word "LIKE"]
  | .matches => [.word "MATCHES"]
  | .notMatches => [.word "NOT", .word "MATCHES"]
  | .isIn => [.word "IN"]
  | .notIn => [.word "NOT", .word "IN"]
  | .isNull => [.word "IS", .word "NULL"]
  | .isNotNull => [.word "IS", .word "NOT", .word "NULL"]

/-- An operator is written as its sign. -/
theorem Operator.write_lexemes (op : Operator) : String.ofList (write op.lexemes) = op.sign := by
  cases op <;> rfl

theorem Operator.takes_eq_nothing {op : Operator} :
    op.takes = .nothing ↔ op = .isNull ∨ op = .isNotNull := by
  cases op <;> simp [Operator.takes]

theorem Operator.head_lexemes (op : Operator) (ls : List Lexeme) :
    (op.lexemes ++ ls).head? ≠ some (.mark .colon) ∧
      (op.lexemes ++ ls).head? ≠ some (.mark .dot) := by
  cases op <;> simp [Operator.lexemes]

theorem Operator.legible_lexemes (op : Operator) (previous : Option Lexeme) :
    Legible previous op.lexemes := by
  have none : ∀ l, Legible (some l) [] := fun _ => trivial
  cases op with
  | equal | notEqual | less | lessEqual | greater | greaterEqual =>
    exact (none _).mark (by decide)
  | like | «matches» | isIn => exact (none _).word (by decide)
  | notLike | notMatches | notIn | isNull => exact ((none _).word (by decide)).word (by decide)
  | isNotNull => exact (((none _).word (by decide)).word (by decide)).word (by decide)

namespace Pattern

variable {op : Operator} {ls : List Lexeme}

theorem consumes_operatorSign {m : Mark} (sign : signOperator? m = some op) (ls : List Lexeme) :
    Consumes operator (.mark m :: ls) op ls := by
  apply (consumes_peek _).bind
  simp only [List.head?_cons, sign]
  exact (consumes_skip _ ls).bind (consumes_pure op ls)

theorem consumes_operatorWord {s : String} (names : wordOperator? s = some op)
    (ls : List Lexeme) : Consumes operator (.word s :: ls) op ls := by
  apply (consumes_peek _).bind
  simp only [List.head?_cons, names]
  exact (consumes_skip _ ls).bind (consumes_pure op ls)

theorem consumes_operatorNot {s : String} (names : wordOperator? s = some op)
    (ls : List Lexeme) : Consumes operator (.word "NOT" :: .word s :: ls) (negated op) ls := by
  apply (consumes_peek _).bind
  apply (consumes_eatWord_of_notNext (notNext_cons rfl _)).bind
  apply (consumes_eatWord rfl).bind
  apply (consumes_peek _).bind
  simp only [List.head?_cons, names]
  exact (consumes_skip _ ls).bind (consumes_pure _ ls)

/-- An operator is read from its lexemes. -/
theorem consumes_operator (op : Operator) (ls : List Lexeme) :
    Consumes operator (op.lexemes ++ ls) op ls := by
  have plain : NotNext "NOT" (.word "NULL" :: ls) := notNext_cons rfl ls
  cases op with
  | equal | notEqual | less | lessEqual | greater | greaterEqual =>
    exact consumes_operatorSign rfl ls
  | like | «matches» | isIn => exact consumes_operatorWord rfl ls
  | notLike => exact consumes_operatorNot (s := "LIKE") rfl ls
  | notMatches => exact consumes_operatorNot (s := "MATCHES") rfl ls
  | notIn => exact consumes_operatorNot (s := "IN") rfl ls
  | isNull =>
    exact (consumes_peek _).bind ((consumes_eatWord rfl).bind
      ((consumes_eatWord_of_notNext plain).bind
        ((consumes_expectWord rfl).bind (consumes_pure _ ls))))
  | isNotNull =>
    exact (consumes_peek _).bind ((consumes_eatWord rfl).bind
      ((consumes_eatWord rfl).bind ((consumes_expectWord rfl).bind (consumes_pure _ ls))))

end Pattern

/-! Values. -/

namespace Value

/-- The lexeme of a literal. -/
def lexeme : Value → Lexeme
  | .str s => .text s
  | .int i => .number (Text.ofInt i)
  | .bool true => .word "TRUE"
  | .bool false => .word "FALSE"
  | _ => .word "NULL"

/-- A text, an integer of 64 bits, a truth value or null. -/
inductive Printable : Value → Prop where
  | str (s : String) : Printable (.str s)
  | int {i : Int} : Text.fitsInt64 i = true → Printable (.int i)
  | bool (b : Bool) : Printable (.bool b)
  | null : Printable .null

variable {v : Value}

theorem Printable.plain (printable : v.Printable) : v.lexeme.Plain := by
  cases printable with
  | str s => exact trivial
  | int fits => exact isInteger_ofInt _
  | bool b => cases b <;> exact rfl
  | null => exact rfl

theorem lexeme_ne_mark (v : Value) (m : Mark) : v.lexeme ≠ .mark m := by
  unfold lexeme
  split <;> exact Lexeme.noConfusion

/-- A literal is read from its lexeme. -/
theorem Printable.consumes (printable : v.Printable) (ls : List Lexeme) :
    Consumes Parse.literal (v.lexeme :: ls) v ls := by
  cases printable with
  | str s => exact consumes_literal_text s ls
  | int fits =>
    apply consumes_literal_number
    rw [numberValue?, readInt64?_ofInt fits]
  | bool b =>
    cases b with
    | true => exact consumes_literal_word (s := "TRUE") rfl ls
    | false => exact consumes_literal_word (s := "FALSE") rfl ls
  | null => exact consumes_literal_word (s := "NULL") rfl ls

/-- The word of a literal is not the variable of a reference. -/
theorem Printable.wordValue (printable : v.Printable) {s : String} (word : v.lexeme = .word s) :
    (wordValue? s).isSome = true := by
  cases printable with
  | str s => exact absurd word Lexeme.noConfusion
  | int fits => exact absurd word Lexeme.noConfusion
  | bool b => cases b <;> (obtain rfl := Lexeme.word.inj word; rfl)
  | null =>
    obtain rfl := Lexeme.word.inj word
    rfl

end Value

/-! Operands. -/

namespace Operand

/-- The lexemes of an operand. -/
def lexemes : Operand → List Lexeme
  | .value v => [v.lexeme]
  | .list items =>
    .mark .leftParen ::
      ((items.map Value.lexeme).intersperse (.mark .comma) ++ [.mark .rightParen])
  | .reference var attr => [.word var, .mark .dot, .word attr]
  | .absent => []

/-- An operand that can be written behind an operator. -/
inductive Printable (op : Operator) : Operand → Prop where
  | absent : op.takes = .nothing → Printable op .absent
  | text (s : String) : op.takes = .value → Printable op (.value (.str s))
  | value {v : Value} : op.takes = .value → op.takesPattern = false → v.Printable → v ≠ .null →
      Printable op (.value v)
  | list {items : List Value} : op.takes = .list → (∀ v ∈ items, v.Printable) →
      Printable op (.list items)
  | reference {var attr : String} : op.takes ≠ .nothing → op.takesPattern = false →
      isIdentifier var = true → isIdentifier attr = true → wordValue? var = none →
      Printable op (.reference var attr)

variable {op : Operator} {operand : Operand} {items : List Value}

theorem Printable.eq_absent (printable : Printable op operand) (nothing : op.takes = .nothing) :
    operand = .absent := by
  cases printable with
  | absent => rfl
  | text s takes => exact absurd (nothing.symm.trans takes) (by decide)
  | value takes => exact absurd (nothing.symm.trans takes) (by decide)
  | list takes => exact absurd (nothing.symm.trans takes) (by decide)
  | reference takes => exact absurd nothing takes

/-- Items are legible behind an opening parenthesis or a comma. -/
theorem legible_items {m : Mark} (opens : (Lexeme.mark m).endsOperand = false)
    (each : ∀ v ∈ items, v.Printable) :
    Legible (some (.mark m))
      ((items.map Value.lexeme).intersperse (.mark .comma) ++ [.mark .rightParen]) := by
  induction items generalizing m with
  | nil => exact ⟨trivial, follows_mark opens _, trivial⟩
  | cons v items ih =>
    have plain := (each v List.mem_cons_self).plain
    have later := fun w member => each w (List.mem_cons_of_mem _ member)
    cases items with
    | nil =>
      have ends : Legible (some (.mark .rightParen)) [] := trivial
      exact ⟨plain, follows_mark opens _, ends.mark (by decide)⟩
    | cons w items =>
      have rest := ih (show (Lexeme.mark .comma).endsOperand = false from rfl) later
      exact ⟨plain, follows_mark opens _, rest.mark (by decide)⟩

/-- An operand is legible behind the lexemes of its operator. -/
theorem Printable.legible (printable : Printable op operand) (previous : Option Lexeme) :
    Legible (op.lexemes.getLast?.or previous) operand.lexemes := by
  have none : ∀ {l}, Legible (some l) [] := trivial
  cases printable with
  | absent nothing => exact trivial
  | text s takes => exact none.text
  | value takes plain printable some =>
    have sign : ∃ m, op.lexemes.getLast?.or previous = Option.some (.mark m) ∧
        (Lexeme.mark m).endsOperand = false := by
      cases op <;>
        first
        | exact ⟨_, rfl, rfl⟩
        | exact absurd takes (by decide)
        | exact absurd plain (by decide)
    obtain ⟨m, last, opens⟩ := sign
    rw [last]
    exact ⟨printable.plain, follows_mark opens _, trivial⟩
  | list takes each => exact (legible_items rfl each).mark (by decide)
  | reference takes plain var attr free =>
    exact ((none.word attr).dot).word var

end Operand

namespace Pattern

variable {op : Operator} {operand : Operand} {items : List Value} {ls : List Lexeme}

theorem consumes_referenceVariable {var : String} (free : wordValue? var = none)
    (ls : List Lexeme) :
    Consumes referenceVariable (.word var :: .mark .dot :: ls) (some var)
      (.word var :: .mark .dot :: ls) := by
  apply (consumes_peek _).bind
  apply (consumes_peekSecond _).bind
  simp only [List.head?_cons, List.drop_one, List.tail_cons, free]
  exact consumes_pure _ _

theorem consumes_referenceVariable_none
    (value : ∀ s, ls.head? = some (.word s) → (wordValue? s).isSome = true) :
    Consumes referenceVariable ls none ls := by
  apply (consumes_peek _).bind
  apply (consumes_peekSecond _).bind
  split
  · rename_i s word _
    rw [if_pos (value s word)]
    exact consumes_pure _ _
  · exact consumes_pure _ _

/-- The items of a list are read up to the closing parenthesis. -/
theorem consumes_listItems (each : ∀ v ∈ items, v.Printable) (ls : List Lexeme) :
    Consumes listItems ((items.map Value.lexeme).intersperse (.mark .comma) ++
      .mark .rightParen :: ls) items (.mark .rightParen :: ls) := by
  have list : ∀ v rest, (∀ w ∈ v :: rest, w.Printable) →
      ConsumesList (eatMark .comma) Parse.literal
        (((v :: rest).map Value.lexeme).intersperse (.mark .comma) ++ .mark .rightParen :: ls)
        (v :: rest) (.mark .rightParen :: ls) := by
    intro v rest each
    induction rest generalizing v with
    | nil =>
      have stop : (Lexeme.mark .rightParen :: ls).head? ≠ some (.mark .comma) := by simp
      have only := (each v List.mem_cons_self).consumes (.mark .rightParen :: ls)
      exact consumesList_one only (consumes_eatMark_of_ne stop)
    | cons w rest ih =>
      have later := ih w (fun u member => each u (List.mem_cons_of_mem _ member))
      have shorter : ∀ us : List Lexeme, us.length < (v.lexeme :: .mark .comma :: us).length := by
        intro us
        rw [List.length_cons, List.length_cons]
        omega
      exact later.cons ((each v List.mem_cons_self).consumes _) (consumes_eatMark .comma _)
        (shorter _)
  cases items with
  | nil => exact (consumes_atMark .rightParen ls).bind (consumes_pure [] _)
  | cons v rest =>
    have other : (((v :: rest).map Value.lexeme).intersperse (.mark .comma) ++
        .mark .rightParen :: ls).head? ≠ some (.mark .rightParen) := by
      cases rest <;> simpa using v.lexeme_ne_mark _
    exact (consumes_atMark_of_ne other).bind (list v rest each).separated

/-- An operand is read from its lexemes. -/
theorem consumes_operand (printable : Operand.Printable op operand) (some : op.takes ≠ .nothing)
    (ls : List Lexeme) : Consumes (Pattern.operand op) (operand.lexemes ++ ls) operand ls := by
  have value : ∀ v : Value, v.Printable → op.takes = .value →
      Consumes (Pattern.operand op) (v.lexeme :: ls) (.value v) ls := by
    intro v printable takes
    have member : ¬(op = .isIn ∨ op = .notIn) := by
      rintro (rfl | rfl) <;> exact absurd takes (by decide)
    have known : ∀ s, (v.lexeme :: ls).head? = Option.some (.word s) →
        (wordValue? s).isSome = true :=
      fun s word => printable.wordValue (Option.some.inj word)
    apply (consumes_referenceVariable_none known).bind
    rw [if_neg member]
    exact (printable.consumes ls).bind (consumes_pure _ ls)
  cases printable with
  | absent nothing => exact absurd nothing some
  | text s takes => exact value _ (.str s) takes
  | value takes _ printable _ => exact value _ printable takes
  | @list items takes each =>
    have member : op = .isIn ∨ op = .notIn := by
      cases op <;> first | exact .inl rfl | exact .inr rfl | exact absurd takes (by decide)
    have parts : (Operand.list items).lexemes ++ ls = .mark .leftParen ::
        ((items.map Value.lexeme).intersperse (.mark .comma) ++ .mark .rightParen :: ls) := by
      simp [Operand.lexemes]
    have known : ∀ (ls : List Lexeme) s, (Lexeme.mark .leftParen :: ls).head? =
        Option.some (.word s) → (wordValue? s).isSome = true :=
      fun _ _ word => absurd (Option.some.inj word) Lexeme.noConfusion
    rw [parts]
    apply (consumes_referenceVariable_none (known _)).bind
    rw [if_pos member]
    exact (consumes_expectMark .leftParen _ _).bind ((consumes_listItems each ls).bind
      ((consumes_expectMark .rightParen _ ls).bind (consumes_pure _ ls)))
  | reference takes plain var attr free =>
    exact (consumes_referenceVariable free _).bind ((consumes_skip _ _).bind
      ((consumes_skip _ _).bind ((consumes_word _ _ ls).bind (consumes_pure _ ls))))

theorem consumes_comparisonOf (printable : Operand.Printable op operand)
    (some : op.takes ≠ .nothing) (offset : Nat) (entityType : Option String) (attr : String)
    (ls : List Lexeme) :
    Consumes (comparisonOf offset entityType attr op operand) ls
      ⟨attr, entityType, op, operand⟩ ls := by
  have other : ∀ operand : Operand, op.takesPattern = false →
      Consumes (if op.takesPattern then failAt offset (.patternOperand op.sign)
        else return ⟨attr, entityType, op, operand⟩) ls
          (⟨attr, entityType, op, operand⟩ : Comparison) ls := by
    intro operand plain
    rw [plain]
    exact consumes_pure _ ls
  cases printable with
  | absent nothing => exact absurd nothing some
  | text s takes => exact consumes_pure _ ls
  | value takes plain printable known =>
    cases printable with
    | str s => exact consumes_pure _ ls
    | int fits => exact other _ plain
    | bool b => exact other _ plain
    | null => exact absurd rfl known
  | list takes each =>
    apply other
    cases op <;> first | rfl | exact absurd takes (by decide)
  | reference takes plain => exact other _ plain

end Pattern

/-! Comparisons. -/

namespace Comparison

/-- The lexemes of a comparison. -/
def lexemes (c : Comparison) : List Lexeme :=
  match c.entityType with
  | none => .word c.attr :: (c.operator.lexemes ++ c.operand.lexemes)
  | some entityType =>
    .word entityType :: .mark .colon :: .word c.attr ::
      (c.operator.lexemes ++ c.operand.lexemes)

/-- The word that a comparison begins with. -/
def leading (c : Comparison) : String := c.entityType.getD c.attr

/-- A comparison that can be written: its names are words, and the first is not taken for a
negation. -/
structure Printable (c : Comparison) : Prop where
  attr : isIdentifier c.attr = true
  entityType : ∀ name ∈ c.entityType, isIdentifier name = true
  leading : Text.sameWord c.leading "NOT" = false
  operand : Operand.Printable c.operator c.operand

variable {c : Comparison}

theorem head_lexemes (c : Comparison) : c.lexemes.head? = some (.word c.leading) := by
  unfold lexemes leading
  split <;> simp_all

theorem Printable.legible (printable : c.Printable) (previous : Option Lexeme) :
    Legible previous c.lexemes := by
  have tail : ∀ previous, Legible previous (c.operator.lexemes ++ c.operand.lexemes) :=
    fun previous => legible_append.2
      ⟨c.operator.legible_lexemes previous, printable.operand.legible previous⟩
  unfold lexemes
  split
  · exact (tail _).word printable.attr
  · rename_i entityType typed
    exact (((tail _).word printable.attr).mark (by decide)).word
      (printable.entityType entityType typed)

theorem consumes_name (c : Comparison) (ls : List Lexeme) :
    Consumes attributeName (c.lexemes ++ ls) (c.entityType, c.attr)
      (c.operator.lexemes ++ (c.operand.lexemes ++ ls)) := by
  have other := c.operator.head_lexemes (c.operand.lexemes ++ ls)
  unfold lexemes
  split
  · rename_i untyped
    rw [untyped, List.cons_append, List.append_assoc]
    exact consumes_attributeName c.attr other.1 other.2
  · rename_i entityType typed
    rw [typed, List.cons_append, List.cons_append, List.cons_append, List.append_assoc]
    exact consumes_attributeName_typed entityType c.attr other.2

/-- A comparison is read from its lexemes. -/
theorem Printable.consumes (printable : c.Printable) (ls : List Lexeme) :
    Consumes Pattern.comparison (c.lexemes ++ ls) c ls := by
  apply (c.consumes_name ls).bind
  apply Consumes.place
  intro offset
  apply (Pattern.consumes_operator c.operator _).bind
  have fits := printable.operand
  by_cases nothing : c.operator.takes = .nothing
  · have absent := fits.eq_absent nothing
    rw [if_pos (Operator.takes_eq_nothing.1 nothing), absent]
    have whole : c = ⟨c.attr, c.entityType, c.operator, .absent⟩ := by rw [← absent]
    exact whole ▸ consumes_pure c ls
  · rw [if_neg (fun test => nothing (Operator.takes_eq_nothing.2 test))]
    exact (Pattern.consumes_operand fits nothing ls).bind
      (Pattern.consumes_comparisonOf fits nothing offset c.entityType c.attr ls)

end Comparison
end ThreatHunt
