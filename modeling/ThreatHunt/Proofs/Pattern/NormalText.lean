import ThreatHunt.Proofs.Outcome
import ThreatHunt.Proofs.Pattern.Comparisons

/-!
Normal texts can be read back in one way, up to comparisons that are confused: patterns with one
normal text match the same entities.
-/

namespace ThreatHunt.Pattern

open ThreatHunt.Splits Comparison

/-- A pattern without empty groups whose comparisons are good ones. -/
inductive Made (Good : Comparison → Prop) : Pattern → Prop where
  | all {parts : List Pattern} : parts ≠ [] → (∀ p ∈ parts, Made Good p) → Made Good (.all parts)
  | any {parts : List Pattern} : parts ≠ [] → (∀ p ∈ parts, Made Good p) → Made Good (.any parts)
  | negation {part : Pattern} : Made Good part → Made Good (.negation part)
  | test {c : Comparison} : Good c → Made Good (.test c)

/-- A pattern of a statement with all references resolved. -/
abbrev Settled (p : Pattern) : Prop := Made Comparison.Settled p

/-- A group of parts of which all or any must hold. -/
def grouped (every : Bool) (parts : List Pattern) : Pattern :=
  if every then .all parts else .any parts

def separator (every : Bool) : String := if every then " AND " else " OR "

/-- The sorted texts of the parts of a group. -/
def partsTexts (parts : List Pattern) : List (List Char) :=
  (sortedTexts (parts.map normalText)).map String.toList

variable {p q part : Pattern} {parts : List Pattern} {every : Bool} {e : Entity}

theorem normalTexts_eq (parts : List Pattern) : normalTexts parts = parts.map normalText := by
  induction parts with
  | nil => rfl
  | cons part parts ih => rw [normalTexts, ih, List.map_cons]

theorem normalText_grouped :
    (grouped every parts).normalText = joinParts (separator every) (parts.map normalText) := by
  cases every <;> simp [grouped, separator, normalText, normalTexts_eq]

theorem admitsAll_eq (e : Entity) (parts : List Pattern) :
    admitsAll e parts = parts.all (admits e) := by
  induction parts with
  | nil => rfl
  | cons part parts ih => rw [admitsAll, ih, List.all_cons]

theorem admitsAny_eq (e : Entity) (parts : List Pattern) :
    admitsAny e parts = parts.any (admits e) := by
  induction parts with
  | nil => rfl
  | cons part parts ih => rw [admitsAny, ih, List.any_cons]

theorem admits_grouped : admits e (grouped every parts) =
    if every then parts.all (admits e) else parts.any (admits e) := by
  cases every <;> simp [grouped, admits, admitsAll_eq, admitsAny_eq]

theorem mem_comparisonsOf {c : Comparison} :
    c ∈ comparisonsOf parts ↔ ∃ p ∈ parts, c ∈ p.comparisons := by
  induction parts with
  | nil => simp [comparisonsOf]
  | cons part parts ih => simp [comparisonsOf, ih]

theorem mem_comparisons_grouped {c : Comparison} :
    c ∈ (grouped every parts).comparisons ↔ ∃ p ∈ parts, c ∈ p.comparisons := by
  cases every <;> simp [grouped, comparisons, mem_comparisonsOf]

theorem sizeOf_grouped (every : Bool) (member : part ∈ parts) :
    sizeOf part < sizeOf (grouped every parts) := by
  have smaller := List.sizeOf_lt_of_mem member
  cases every
  · simp only [grouped, Bool.false_eq_true, if_false, any.sizeOf_spec]
    omega
  · simp only [grouped, if_true, all.sizeOf_spec]
    omega

theorem Settled.grouped (every : Bool) (some : parts ≠ []) (each : ∀ part ∈ parts, part.Settled) :
    (grouped every parts).Settled := by
  cases every
  · exact .any some each
  · exact .all some each

/-- Groups of both kinds at once. -/
@[elab_as_elim]
theorem Settled.rec_grouped {motive : (p : Pattern) → p.Settled → Prop}
    (group : ∀ (every : Bool) (parts : List Pattern) (some : parts ≠ [])
      (each : ∀ part ∈ parts, part.Settled), (∀ part member, motive part (each part member)) →
      motive (Pattern.grouped every parts) (.grouped every some each))
    (negation : ∀ (part : Pattern) (settled : part.Settled), motive part settled →
      motive (.negation part) (.negation settled))
    (test : ∀ (c : Comparison) (settled : c.Settled), motive (.test c) (.test settled))
    {p : Pattern} (settled : p.Settled) : motive p settled := by
  induction settled with
  | all some each ih => exact group true _ some each ih
  | any some each ih => exact group false _ some each ih
  | negation settled ih => exact negation _ settled ih
  | test settled => exact test _ settled

/-- A group whose parts have one text has that text; else its text is in parentheses. -/
theorem normalText_cases (every : Bool) (some : parts ≠ []) :
    (∀ part ∈ parts, part.normalText = (grouped every parts).normalText) ∨
      (∃ first second others, partsTexts parts = first :: second :: others) ∧
        (grouped every parts).normalText.toList =
          '(' :: ((separator every).toList.intercalate (partsTexts parts) ++ [')']) := by
  have text : (grouped every parts).normalText = _ := normalText_grouped
  rw [joinParts] at text
  split at text
  · rename_i one sorted
    refine .inl (fun part member => ?_)
    have there := mem_sortedTexts.2 (List.mem_map_of_mem (f := normalText) member)
    rw [sorted] at there
    rw [text, List.mem_singleton.1 there]
  · rename_i several
    refine .inr ⟨?_, by simp [text, partsTexts]⟩
    unfold partsTexts
    match sorted : sortedTexts (parts.map normalText) with
    | [] =>
      obtain ⟨part, member⟩ := List.exists_mem_of_ne_nil parts some
      have there := mem_sortedTexts.2 (List.mem_map_of_mem (f := normalText) member)
      rw [sorted] at there
      exact absurd there List.not_mem_nil
    | [one] => exact absurd sorted (several one)
    | first :: second :: others => exact ⟨_, _, _, rfl⟩

theorem mem_partsTexts {t : List Char} (member : t ∈ partsTexts parts) :
    ∃ part ∈ parts, t = part.normalText.toList := by
  obtain ⟨s, sorted, rfl⟩ := List.mem_map.1 member
  obtain ⟨part, there, rfl⟩ := List.mem_map.1 (mem_sortedTexts.1 sorted)
  exact ⟨part, there, rfl⟩

theorem partsTexts_mem (member : part ∈ parts) : part.normalText.toList ∈ partsTexts parts :=
  List.mem_map_of_mem (mem_sortedTexts.2 (List.mem_map_of_mem member))

theorem separates_separator (every : Bool) : Separates (separator every).toList := by
  cases every
  · exact ⟨plain_of_all rfl, ' ', ['O', 'R', ' '], rfl, by decide, by decide⟩
  · exact ⟨plain_of_all rfl, ' ', ['A', 'N', 'D', ' '], rfl, by decide, by decide⟩

theorem normalText_negation : (negation part).normalText.toList =
    'N' :: 'O' :: 'T' :: ' ' :: part.normalText.toList := by
  simp [normalText]

/-- Normal texts may stand in groups. -/
theorem Settled.item (settled : p.Settled) : Item p.normalText.toList := by
  induction settled using Settled.rec_grouped with
  | group every parts some each items =>
    rcases normalText_cases every some with texts | ⟨_, text⟩
    · obtain ⟨part, member⟩ := List.exists_mem_of_ne_nil parts some
      rw [← texts part member]
      exact items part member
    · have inner : ∀ t ∈ partsTexts parts, Item t := by
        intro t member
        obtain ⟨part, there, rfl⟩ := mem_partsTexts member
        exact items part there
      rw [text]
      refine ⟨?_, '(', _, rfl, by decide⟩
      have front : Balanced ['('] := balanced_of_plain (plain_of_all rfl)
      exact front.append ((balanced_intercalate (separates_separator every) inner).append
        (balanced_of_plain (plain_of_all rfl)))
  | negation part settled item =>
    rw [normalText_negation]
    have front : Balanced ['N', 'O', 'T', ' '] := balanced_of_plain (plain_of_all rfl)
    exact ⟨front.append item.balanced, 'N', _, rfl, by decide⟩
  | test c settled => exact settled.item

/-- How a text with something behind it begins. -/
inductive Front (p : Pattern) (t rest : List Char) : Prop where
  | paren (more : List Char) : t = '(' :: more → Front p t rest
  | test (c : Comparison) : c.Settled → c ∈ p.comparisons → t = c.text.toList ++ rest →
      Front p t rest
  | negation (part : Pattern) : part.Settled →
      t = 'N' :: 'O' :: 'T' :: ' ' :: (part.normalText.toList ++ rest) → Front p t rest

theorem Settled.front (settled : p.Settled) (rest : List Char) :
    Front p (p.normalText.toList ++ rest) rest := by
  induction settled using Settled.rec_grouped with
  | group every parts some each fronts =>
    rcases normalText_cases every some with texts | ⟨_, text⟩
    · obtain ⟨part, member⟩ := List.exists_mem_of_ne_nil parts some
      rw [← texts part member]
      rcases fronts part member with ⟨more, paren⟩ | ⟨c, settled, there, same⟩ |
        ⟨inner, settled, same⟩
      · exact .paren more paren
      · exact .test c settled (mem_comparisons_grouped.2 ⟨part, member, there⟩) same
      · exact .negation inner settled same
    · exact .paren _ (by rw [text, List.cons_append])
  | negation part settled _ => exact .negation part settled (by rw [normalText_negation]; rfl)
  | test c settled => exact .test c settled (List.mem_singleton_self c) rfl

/-! A negation and a comparison: both may begin with the word `NOT`. -/

/-- The operators that a `NOT` may stand before. -/
def IsWord (op : Operator) : Prop := op = .like ∨ op = .matches ∨ op = .isIn

/-- What follows such an operator cannot follow the name of an attribute. -/
theorem word_operand {op : Operator} {operand : Operand} (word : IsWord op)
    (fits : Fits op operand) :
    ∃ c more, operandText operand = ' ' :: c :: more ∧ (c = '\'' ∨ c = '(') := by
  cases fits with
  | nothing takes => rcases word with rfl | rfl | rfl <;> exact absurd takes (by decide)
  | list items takes => exact ⟨'(', _, rfl, .inr rfl⟩
  | value v takes text =>
    have pattern : op.takesPattern = true := by
      rcases word with rfl | rfl | rfl
      · rfl
      · rfl
      · exact absurd takes (by decide)
    obtain ⟨s, rfl⟩ := text pattern
    refine ⟨'\'', body s.toList ++ ['\''], ?_, .inl rfl⟩
    rw [operandText, Value.literal, quotedText_toList]

theorem text_ne_word (settled : p.Settled) {op : Operator} {operand : Operand} (word : IsWord op)
    (fits : Fits op operand) (rest rest' : List Char) :
    p.normalText.toList ++ rest ≠ op.sign.toList ++ (operandText operand ++ rest') := by
  intro same
  obtain ⟨c, more, text, opening⟩ := word_operand word fits
  rw [text] at same
  rcases settled.front rest with ⟨tail, paren⟩ | ⟨d, settled, _, test⟩ | ⟨inner, _, negation⟩
  · rw [paren] at same
    rcases word with rfl | rfl | rfl <;> exact absurd (List.cons.inj same).1 (by decide)
  · rw [test, settled.text_eq, List.append_assoc, List.cons_append] at same
    have blank : ' ' ∉ op.sign.toList := by rcases word with rfl | rfl | rfl <;> decide
    have tail := (Digits.cut_injective (fun member => settled.named.ne member (by decide) rfl) blank
      same).2
    have head : (d.operator.sign.toList.head?.any fun first => first != '\'' && first != '(') = true
      := by cases d.operator <;> decide
    cases sign : d.operator.sign.toList with
    | nil =>
      rw [sign] at head
      exact absurd head (by decide)
    | cons first others =>
      rw [sign] at head tail
      rw [List.head?_cons, (List.cons.inj tail).1] at head
      rcases opening with rfl | rfl <;> exact absurd head (by decide)
  · rw [negation] at same
    rcases word with rfl | rfl | rfl <;> exact absurd (List.cons.inj same).1 (by decide)

/-- The comparison whose sign is a negated one and that reads like the negation of another. -/
def Mistaken (c d : Comparison) : Prop :=
  d.attr = "NOT" ∧ c.operator.sign = "NOT " ++ d.operator.sign ∧
    operandText c.operand = operandText d.operand

/-- How the sign of an operator begins. -/
inductive Sign (op : Operator) : Prop where
  | word : IsWord op → Sign op
  | negated (base : Operator) : IsWord base → op.sign = "NOT " ++ base.sign →
      (∀ operand, Fits op operand → Fits base operand) → Sign op
  | null (rest : List Char) : op.sign.toList = 'I' :: 'S' :: ' ' :: rest →
      (rest = ['N', 'U', 'L', 'L'] ∨ rest = ['N', 'O', 'T', ' ', 'N', 'U', 'L', 'L']) → Sign op
  | symbol (first : Char) (more : List Char) : op.sign.toList = first :: more →
      isNameChar first = false → first ≠ '(' → Sign op

theorem fits_negated (op base : Operator) (takes : op.takes = base.takes)
    (pattern : op.takesPattern = base.takesPattern) {operand : Operand} (fits : Fits op operand) :
    Fits base operand := by
  cases fits with
  | nothing nothing => exact .nothing (takes ▸ nothing)
  | list items list => exact .list items (takes ▸ list)
  | value v value text =>
    exact .value v (takes ▸ value) (fun pattern' => text (pattern.trans pattern'))

theorem sign_cases : ∀ op : Operator, Sign op
  | .like => .word (.inl rfl)
  | .matches => .word (.inr (.inl rfl))
  | .isIn => .word (.inr (.inr rfl))
  | .notLike => .negated .like (.inl rfl) rfl (fun _ => fits_negated .notLike .like rfl rfl)
  | .notMatches => .negated .matches (.inr (.inl rfl)) rfl
    (fun _ => fits_negated .notMatches .matches rfl rfl)
  | .notIn => .negated .isIn (.inr (.inr rfl)) rfl (fun _ => fits_negated .notIn .isIn rfl rfl)
  | .isNull => .null _ rfl (.inl rfl)
  | .isNotNull => .null _ rfl (.inr rfl)
  | .equal => .symbol '=' _ rfl (by decide) (by decide)
  | .notEqual => .symbol '!' _ rfl (by decide) (by decide)
  | .less => .symbol '<' _ rfl (by decide) (by decide)
  | .lessEqual => .symbol '<' _ rfl (by decide) (by decide)
  | .greater => .symbol '>' _ rfl (by decide) (by decide)
  | .greaterEqual => .symbol '>' _ rfl (by decide) (by decide)

theorem text_ne_negated (settled : p.Settled) {op base : Operator} {operand : Operand}
    (word : IsWord base) (sign : op.sign = "NOT " ++ base.sign) (fits : Fits base operand)
    (clear : ∀ d ∈ p.comparisons, d.attr = "NOT" → d.operator = base →
      operandText d.operand ≠ operandText operand)
    {rest rest' : List Char} (after : Rest rest) (after' : Rest rest') :
    p.normalText.toList ++ rest ≠ op.sign.toList ++ (operandText operand ++ rest') := by
  intro same
  rw [sign, String.toList_append, List.append_assoc] at same
  rcases settled.front rest with ⟨tail, paren⟩ | ⟨d, settled, there, test⟩ |
    ⟨inner, settled, negation⟩
  · rw [paren] at same
    exact absurd (List.cons.inj same).1 (by decide)
  · rw [test, settled.text_eq, List.append_assoc, List.cons_append, List.append_assoc] at same
    obtain ⟨attr, tail⟩ := Digits.cut_injective
      (fun member => settled.named.ne member (by decide) rfl)
      (show ' ' ∉ ['N', 'O', 'T'] by decide) same
    obtain ⟨ops, tail⟩ := Operator.sign_append_injective (ends_operand after)
      (ends_operand after') tail
    have operands := (apart_operand settled.fits (ops ▸ fits) rest rest' after after' tail).1
    exact clear d there (String.toList_inj.1 attr) ops operands
  · rw [negation] at same
    have tail : "NOT ".toList ++ (inner.normalText.toList ++ rest) =
      "NOT ".toList ++ (base.sign.toList ++ (operandText operand ++ rest')) := same
    exact text_ne_word settled word fits rest rest' (List.append_cancel_left tail)

theorem text_ne_null (settled : p.Settled) {op : Operator} {more : List Char}
    (sign : op.sign.toList = 'I' :: 'S' :: ' ' :: more)
    (null : more = ['N', 'U', 'L', 'L'] ∨ more = ['N', 'O', 'T', ' ', 'N', 'U', 'L', 'L'])
    (rest t : List Char) : p.normalText.toList ++ rest ≠ op.sign.toList ++ t := by
  intro same
  rw [sign] at same
  rcases settled.front rest with ⟨tail, paren⟩ | ⟨d, settled, _, test⟩ | ⟨inner, _, negation⟩
  · rw [paren] at same
    exact absurd (List.cons.inj same).1 (by decide)
  · rw [test, settled.text_eq, List.append_assoc, List.cons_append, List.append_assoc] at same
    have tail := (Digits.cut_injective (fun member => settled.named.ne member (by decide) rfl)
      (show ' ' ∉ ['I', 'S'] by decide) same).2
    rcases null with rfl | rfl <;> cases op : d.operator <;> rw [op] at tail <;>
      simp [Operator.sign] at tail
  · rw [negation] at same
    exact absurd (List.cons.inj same).1 (by decide)

theorem text_ne_symbol (settled : p.Settled) {first : Char} (symbol : isNameChar first = false)
    (notParen : first ≠ '(') (rest t : List Char) : p.normalText.toList ++ rest ≠ first :: t := by
  intro same
  rcases settled.front rest with ⟨tail, paren⟩ | ⟨d, settled, _, test⟩ | ⟨inner, _, negation⟩
  · rw [paren] at same
    exact notParen (List.cons.inj same).1.symm
  · obtain ⟨head, others, start, name⟩ := settled.starts
    rw [test, start] at same
    rw [(List.cons.inj same).1, symbol] at name
    exact absurd name (by decide)
  · rw [negation] at same
    rw [← (List.cons.inj same).1] at symbol
    exact absurd symbol (by decide)

/-- A pattern does not read like what follows the name of an attribute. -/
theorem text_ne_sign (settled : p.Settled) {c : Comparison} (fits : Fits c.operator c.operand)
    (clear : ∀ d ∈ p.comparisons, ¬Mistaken c d) {rest rest' : List Char} (after : Rest rest)
    (after' : Rest rest') :
    p.normalText.toList ++ rest ≠ c.operator.sign.toList ++ (operandText c.operand ++ rest') := by
  rcases sign_cases c.operator with word | ⟨base, word, sign, move⟩ | ⟨more, sign, null⟩ |
    ⟨first, more, sign, symbol, notParen⟩
  · exact text_ne_word settled word fits rest rest'
  · refine text_ne_negated settled word sign (move _ fits) ?_ after after'
    intro d there attr ops operands
    exact clear d there ⟨attr, ops ▸ sign, operands.symm⟩
  · exact text_ne_null settled sign null rest _
  · rw [sign, List.cons_append]
    exact text_ne_symbol settled symbol notParen rest _

/-- A negation does not read like a comparison. -/
theorem negation_ne_test (settled : p.Settled) {c : Comparison} (settled' : c.Settled)
    (clear : ∀ d ∈ p.comparisons, c.attr = "NOT" → ¬Mistaken c d) {rest rest' : List Char}
    (after : Rest rest) (after' : Rest rest') :
    (negation p).normalText.toList ++ rest ≠ c.text.toList ++ rest' := by
  intro same
  simp only [normalText_negation, settled'.text_eq, List.append_assoc, List.cons_append] at same
  obtain ⟨attr, tail⟩ := Digits.cut_injective (show ' ' ∉ ['N', 'O', 'T'] by decide)
    (fun member => settled'.named.ne member (by decide) rfl) same
  have named : c.attr = "NOT" := String.toList_inj.1 attr.symm
  exact text_ne_sign settled settled'.fits (fun d there => clear d there named) after after' tail

/-! Reading normal texts back. -/

/-- No comparison of the one pattern is confused with one of the other. -/
def Clear (p q : Pattern) : Prop :=
  ∀ c ∈ p.comparisons, ∀ d ∈ q.comparisons, ¬Comparison.Confusable c d

theorem confusable_symm {c d : Comparison} (confused : Comparison.Confusable c d) :
    Comparison.Confusable d c := by
  cases confused with
  | operands attrs ops there here value =>
    refine .operands attrs.symm ops.symm here there ?_
    rw [← ops]
    obtain ⟨u, told⟩ := value.told
    refine ⟨value.alike.symm, ?_, u, told.symm⟩
    cases value.looks <;> constructor
  | negated attr attr' sign operands => exact .negates attr' attr sign operands.symm
  | negates attr attr' sign operands => exact .negated attr' attr sign operands.symm

theorem Clear.symm (clear : Clear p q) : Clear q p :=
  fun d here c there confused => clear c there d here (confusable_symm confused)

theorem Clear.of_mem (clear : Clear (grouped every parts) q) (member : part ∈ parts) :
    Clear part q :=
  fun c there => clear c (mem_comparisons_grouped.2 ⟨part, member, there⟩)

theorem not_mistaken {c d : Comparison} (clear : ¬Comparison.Confusable d c)
    (attr : c.attr = "NOT") : ¬Mistaken c d :=
  fun ⟨attr', sign, operands⟩ => clear (.negates attr' attr sign operands.symm)

/-- What can be told from a normal text with something behind it. -/
structure Told (p q : Pattern) (rest rest' : List Char) : Prop where
  admits : ∀ e, admits e p = admits e q
  text : p.normalText = q.normalText
  rests : rest = rest'

theorem Told.symm {rest rest' : List Char} (told : Told p q rest rest') : Told q p rest' rest :=
  ⟨fun e => (told.admits e).symm, told.text.symm, told.rests.symm⟩

/-- A group of parts that match the same entities matches just these. -/
theorem admits_grouped_of_same {b : Bool} (some : parts ≠ [])
    (same : ∀ part ∈ parts, admits e part = b) : admits e (grouped every parts) = b := by
  obtain ⟨part, member⟩ := List.exists_mem_of_ne_nil parts some
  rw [admits_grouped]
  cases b with
  | true =>
    have all : parts.all (admits e) = true := List.all_eq_true.2 same
    have any : parts.any (admits e) = true := List.any_eq_true.2 ⟨part, member, same part member⟩
    rw [all, any, ite_self]
  | false =>
    have all : parts.all (admits e) = false :=
      List.all_eq_false.2 ⟨part, member, by simp [same part member]⟩
    have any : parts.any (admits e) = false :=
      List.any_eq_false.2 (fun part member => by simp [same part member])
    rw [all, any, ite_self]

/-- Groups whose parts match the same entities match the same. -/
theorem admits_grouped_congr {qs : List Pattern}
    (left : ∀ part ∈ parts, ∃ q ∈ qs, admits e part = admits e q)
    (right : ∀ q ∈ qs, ∃ part ∈ parts, admits e part = admits e q) :
    admits e (grouped every parts) = admits e (grouped every qs) := by
  rw [admits_grouped, admits_grouped]
  cases every with
  | true =>
    simp only [if_true]
    rw [Bool.eq_iff_iff, List.all_eq_true, List.all_eq_true]
    constructor
    · intro all q here
      obtain ⟨part, there, same⟩ := right q here
      exact same ▸ all part there
    · intro all part there
      obtain ⟨q, here, same⟩ := left part there
      exact same ▸ all q here
  | false =>
    simp only [Bool.false_eq_true, if_false]
    rw [Bool.eq_iff_iff, List.any_eq_true, List.any_eq_true]
    constructor
    · rintro ⟨part, there, holds⟩
      obtain ⟨q, here, same⟩ := left part there
      exact ⟨q, here, same ▸ holds⟩
    · rintro ⟨q, here, holds⟩
      obtain ⟨part, there, same⟩ := right q here
      exact ⟨part, there, same ▸ holds⟩

/-- What a pattern is, as its text shows it. -/
inductive View (p : Pattern) : Prop where
  /-- A group whose parts have one text. -/
  | narrow (every : Bool) (parts : List Pattern) : p = grouped every parts → parts ≠ [] →
      (∀ part ∈ parts, part.Settled) → (∀ part ∈ parts, part.normalText = p.normalText) → View p
  /-- A group with several texts. -/
  | wide (every : Bool) (parts : List Pattern) : p = grouped every parts →
      (∀ part ∈ parts, part.Settled) →
      (∃ first second others, partsTexts parts = first :: second :: others) →
      p.normalText.toList =
        '(' :: ((separator every).toList.intercalate (partsTexts parts) ++ [')']) → View p
  | negation (part : Pattern) : p = .negation part → part.Settled → View p
  | test (c : Comparison) : p = .test c → c.Settled → View p

theorem Settled.view (settled : p.Settled) : View p := by
  induction settled using Settled.rec_grouped with
  | group every parts some each _ =>
    rcases normalText_cases every some with texts | ⟨several, text⟩
    · exact .narrow every parts rfl some each texts
    · exact .wide every parts rfl each several text
  | negation part settled _ => exact .negation part rfl settled
  | test c settled => exact .test c rfl settled

section

variable {rest rest' : List Char} {qs : List Pattern} {every' : Bool}

/-- A group whose parts have one text is read back as each of them. -/
theorem told_narrow (some : parts ≠ [])
    (texts : ∀ part ∈ parts, part.normalText = (grouped every parts).normalText)
    (each : ∀ part ∈ parts, Told part q rest rest') : Told (grouped every parts) q rest rest' := by
  obtain ⟨part, member⟩ := List.exists_mem_of_ne_nil parts some
  refine ⟨fun e => ?_, ?_, (each part member).rests⟩
  · exact admits_grouped_of_same some (fun part member => (each part member).admits e)
  · rw [← texts part member, (each part member).text]

theorem separator_injective {t u : List Char}
    (same : (separator every).toList ++ t = (separator every').toList ++ u) : every = every' := by
  cases every <;> cases every'
  · rfl
  · exact absurd (List.cons.inj (List.cons.inj same).2).1 (by decide)
  · exact absurd (List.cons.inj (List.cons.inj same).2).1 (by decide)
  · rfl

theorem partsTexts_item (each : ∀ part ∈ parts, part.Settled) : ∀ t ∈ partsTexts parts, Item t := by
  intro t member
  obtain ⟨part, there, rfl⟩ := mem_partsTexts member
  exact (each part there).item

/-- The first of several texts ends where that of another group does, so the separators behind them
are the same. -/
theorem every_injective {ts us : List (List Char)} (items : ∀ t ∈ ts, Item t)
    (items' : ∀ u ∈ us, Item u) (apart : ∀ t ∈ ts, ∀ u ∈ us, Apart t u)
    (several : ∃ first second others, ts = first :: second :: others)
    (several' : ∃ first second others, us = first :: second :: others)
    (after : Rest rest) (after' : Rest rest')
    (same : (separator every).toList.intercalate ts ++ ([')'] ++ rest) =
      (separator every').toList.intercalate us ++ ([')'] ++ rest')) : every = every' := by
  obtain ⟨first, second, others, rfl⟩ := several
  obtain ⟨first', second', others', rfl⟩ := several'
  simp only [List.singleton_append, intercalate_paren] at same
  have tail := (apart first (List.mem_cons_self ..) first' (List.mem_cons_self ..) _ _
    (rest_behind (separates_separator every)
      (fun t member => items t (List.mem_cons_of_mem _ member)) after)
    (rest_behind (separates_separator every')
      (fun t member => items' t (List.mem_cons_of_mem _ member)) after') same).2
  exact separator_injective tail

/-- Groups with several texts are read back part by part. -/
theorem told_wide (each : ∀ part ∈ parts, part.Settled) (each' : ∀ q ∈ qs, q.Settled)
    (several : ∃ first second others, partsTexts parts = first :: second :: others)
    (several' : ∃ first second others, partsTexts qs = first :: second :: others)
    (text : (grouped every parts).normalText.toList =
      '(' :: ((separator every).toList.intercalate (partsTexts parts) ++ [')']))
    (text' : (grouped every' qs).normalText.toList =
      '(' :: ((separator every').toList.intercalate (partsTexts qs) ++ [')']))
    (told : ∀ part ∈ parts, ∀ q ∈ qs, ∀ rest rest', Rest rest → Rest rest' →
      part.normalText.toList ++ rest = q.normalText.toList ++ rest' → Told part q rest rest')
    (after : Rest rest) (after' : Rest rest')
    (same : (grouped every parts).normalText.toList ++ rest =
      (grouped every' qs).normalText.toList ++ rest') :
    Told (grouped every parts) (grouped every' qs) rest rest' := by
  have apart : ∀ t ∈ partsTexts parts, ∀ u ∈ partsTexts qs, Apart t u := by
    intro t member u member' rest rest' after after' same
    obtain ⟨part, there, rfl⟩ := mem_partsTexts member
    obtain ⟨q, here, rfl⟩ := mem_partsTexts member'
    have both := told part there q here rest rest' after after' same
    exact ⟨by rw [both.text], both.rests⟩
  rw [text, text', List.cons_append, List.cons_append, List.append_assoc, List.append_assoc] at same
  have inner := (List.cons.inj same).2
  obtain rfl := every_injective (partsTexts_item each) (partsTexts_item each') apart several
    several' after after' inner
  obtain ⟨texts, rests⟩ := intercalate_injective (separates_separator every) (partsTexts_item each)
    (partsTexts_item each') apart after after' inner
  refine ⟨fun e => admits_grouped_congr (fun part there => ?_) (fun q here => ?_), ?_, rests⟩
  · have member := partsTexts_mem there
    rw [texts] at member
    obtain ⟨q, here, alike⟩ := mem_partsTexts member
    exact ⟨q, here, (told part there q here [] [] rest_nil rest_nil (by rw [alike])).admits e⟩
  · have member := partsTexts_mem here
    rw [← texts] at member
    obtain ⟨part, there, alike⟩ := mem_partsTexts member
    exact ⟨part, there, (told part there q here [] [] rest_nil rest_nil (by rw [alike])).admits e⟩
  · exact String.toList_inj.1 (by rw [text, text', texts])

end

theorem name_ne_paren {t rest more : List Char}
    (starts : ∃ c more, t = c :: more ∧ isNameChar c = true) : t ++ rest ≠ '(' :: more := by
  obtain ⟨c, others, rfl, name⟩ := starts
  intro same
  rw [(List.cons.inj same).1] at name
  exact absurd name (by decide)

/-- A normal text can be read back in one way: where it ends and what it matches can be told from
it, whatever follows. -/
theorem told {rest rest' : List Char} (settled : p.Settled) (settled' : q.Settled)
    (clear : Clear p q) (after : Rest rest) (after' : Rest rest')
    (same : p.normalText.toList ++ rest = q.normalText.toList ++ rest') : Told p q rest rest' := by
  induction size : sizeOf p + sizeOf q using Nat.strongRecOn generalizing p q rest rest' with
  | ind n ih =>
    rcases settled.view with ⟨every, parts, rfl, some, each, texts⟩ |
      ⟨every, parts, rfl, each, several, text⟩ | ⟨part, rfl, inner⟩ | ⟨c, rfl, inner⟩
    · refine told_narrow some texts (fun part member => ?_)
      have less := sizeOf_grouped every member
      refine ih _ ?_ (each part member) settled' (clear.of_mem member) after after' ?_ rfl
      · omega
      · rw [texts part member, same]
    all_goals
      rcases settled'.view with ⟨every', qs, rfl, some', each', texts'⟩ |
        ⟨every', qs, rfl, each', several', text'⟩ | ⟨part', rfl, inner'⟩ | ⟨d, rfl, inner'⟩
    case wide.narrow | negation.narrow | test.narrow =>
      refine (told_narrow some' texts' (fun q member => ?_)).symm
      have less := sizeOf_grouped every' member
      refine ih _ ?_ (each' q member) settled (clear.symm.of_mem member) after' after ?_ rfl
      · omega
      · rw [texts' q member, same]
    case wide.wide =>
      refine told_wide each each' several several' text text' ?_ after after' same
      intro part member q member' rest rest' after after' same
      have less := sizeOf_grouped every member
      have less' := sizeOf_grouped every' member'
      refine ih _ ?_ (each part member) (each' q member')
        ((clear.of_mem member).symm.of_mem member').symm after after' same rfl
      omega
    case negation.negation =>
      simp only [normalText_negation, List.cons_append, List.cons.injEq, true_and] at same
      simp only [negation.sizeOf_spec] at size
      have told := ih _ (by omega) inner inner' clear after after' same rfl
      refine ⟨fun e => ?_, ?_, told.rests⟩
      · rw [admits, admits, told.admits e]
      · rw [normalText, normalText, told.text]
    case test.test =>
      obtain ⟨attrs, ops, operands, rests⟩ := inner.apart inner' after after' same
      have calm := clear c (List.mem_singleton_self c) d (List.mem_singleton_self d)
      refine ⟨fun e => admits_eq inner inner' attrs ops operands calm e, ?_, rests⟩
      subst rests
      exact String.toList_inj.1 (List.append_cancel_right same)
    case negation.test =>
      refine absurd same (negation_ne_test inner inner' (fun c there attr => ?_) after after')
      exact not_mistaken (clear c there d (List.mem_singleton_self d)) attr
    case test.negation =>
      refine absurd same.symm (negation_ne_test inner' inner (fun d there attr => ?_) after' after)
      exact not_mistaken (clear.symm d there c (List.mem_singleton_self c)) attr
    case wide.negation =>
      rw [text] at same
      exact absurd same.symm (name_ne_paren ⟨'N', _, normalText_negation, by decide⟩)
    case wide.test =>
      rw [text] at same
      exact absurd same.symm (name_ne_paren inner'.starts)
    case negation.wide =>
      rw [text'] at same
      exact absurd same (name_ne_paren ⟨'N', _, normalText_negation, by decide⟩)
    case test.wide =>
      rw [text'] at same
      exact absurd same (name_ne_paren inner.starts)

/-! Replacing the comparisons of a pattern. -/

section

variable {ε : Type} {f : Comparison → Except ε Comparison} {Good Better : Comparison → Prop}

theorem made_of_mapPartsM {parts made : List Pattern}
    (each : ∀ p ∈ parts, ∀ q, p.mapM f = .ok q → Made Better q)
    (mapped : mapPartsM f parts = .ok made) :
    (∀ q ∈ made, Made Better q) ∧ made.length = parts.length := by
  induction parts generalizing made with
  | nil =>
    rw [← Except.ok.inj mapped]
    exact ⟨fun _ member => absurd member List.not_mem_nil, rfl⟩
  | cons part parts ih =>
    obtain ⟨first, head, rest⟩ := Outcome.bind_eq_ok.1 mapped
    obtain ⟨others, later, rest⟩ := Outcome.bind_eq_ok.1 rest
    obtain rfl := Except.ok.inj rest
    obtain ⟨good, size⟩ := ih (fun p member => each p (List.mem_cons_of_mem _ member)) later
    refine ⟨fun q member => ?_, congrArg (· + 1) size⟩
    rcases List.mem_cons.1 member with rfl | member
    · exact each part (List.mem_cons_self ..) _ head
    · exact good q member

theorem made_of_mapM (step : ∀ c d, Good c → f c = .ok d → Better d) {p q : Pattern}
    (made : Made Good p) (mapped : p.mapM f = .ok q) : Made Better q := by
  have some : ∀ {parts others : List Pattern}, parts ≠ [] → others.length = parts.length →
      others ≠ [] := by
    intro parts others nonempty size none
    rw [none] at size
    exact nonempty (List.eq_nil_of_length_eq_zero size.symm)
  induction made generalizing q with
  | all nonempty each ih =>
    obtain ⟨parts, inner, rfl⟩ := Outcome.map_eq_ok.1 mapped
    obtain ⟨good, size⟩ := made_of_mapPartsM (fun p member q => ih p member) inner
    exact .all (some nonempty size) good
  | any nonempty each ih =>
    obtain ⟨parts, inner, rfl⟩ := Outcome.map_eq_ok.1 mapped
    obtain ⟨good, size⟩ := made_of_mapPartsM (fun p member q => ih p member) inner
    exact .any (some nonempty size) good
  | negation _ ih =>
    obtain ⟨part, inner, rfl⟩ := Outcome.map_eq_ok.1 mapped
    exact .negation (ih inner)
  | test good =>
    obtain ⟨d, inner, rfl⟩ := Outcome.map_eq_ok.1 mapped
    exact .test (step _ d good inner)

end

end ThreatHunt.Pattern
