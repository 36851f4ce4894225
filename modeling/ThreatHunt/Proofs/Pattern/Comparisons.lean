import Mathlib.Data.List.Sort
import ThreatHunt.Pattern.Match
import ThreatHunt.Pattern.Text
import ThreatHunt.Proofs.Source.Words
import ThreatHunt.Proofs.Value.Literals

/-!
Texts of comparisons: what is compared and how can be told from the text, and the operand up to
values that are written alike.
-/

namespace ThreatHunt

/-! The sorted texts of a group or a list, each once. -/

theorem mem_foldr_distinct {texts : List String} {s : String} :
    s ∈ texts.foldr (fun s rest => if rest.head? = some s then rest else s :: rest) [] ↔
      s ∈ texts := by
  induction texts with
  | nil => exact Iff.rfl
  | cons t texts ih =>
    rw [List.foldr_cons, List.mem_cons]
    split
    · rename_i repeated
      rw [ih]
      refine ⟨.inr, fun either => either.elim (fun same => ?_) id⟩
      subst same
      exact ih.1 (List.mem_of_mem_head? repeated)
    · rw [List.mem_cons, ih]

theorem mem_sortedTexts {texts : List String} {s : String} : s ∈ sortedTexts texts ↔ s ∈ texts := by
  unfold sortedTexts
  rw [mem_foldr_distinct, List.mem_mergeSort]

/-- Of sorted texts one of each is kept. -/
theorem pairwise_foldr_distinct {texts : List String} (sorted : texts.Pairwise (· ≤ ·)) :
    (texts.foldr (fun s rest => if rest.head? = some s then rest else s :: rest) []).Pairwise
      (· < ·) := by
  induction texts with
  | nil => exact .nil
  | cons t texts ih =>
    obtain ⟨least, sorted⟩ := List.pairwise_cons.1 sorted
    have later := ih sorted
    rw [List.foldr_cons]
    split
    · exact later
    · rename_i new
      refine List.pairwise_cons.2 ⟨fun s member => ?_, later⟩
      refine String.not_le.1 (fun above => ?_)
      obtain rfl := String.le_antisymm above (least s (mem_foldr_distinct.1 member))
      -- Of the texts that are kept only the first may be the least one.
      obtain ⟨u, kept, made⟩ := List.exists_cons_of_ne_nil (List.ne_nil_of_mem member)
      rw [made] at later new member
      rcases List.mem_cons.1 member with rfl | behind
      · exact new rfl
      · have below : u < s := (List.pairwise_cons.1 later).1 _ behind
        have there : u ∈ texts := mem_foldr_distinct.1 (made ▸ List.mem_cons_self ..)
        exact String.not_lt.2 (least u there) below

theorem pairwise_sortedTexts (texts : List String) : (sortedTexts texts).Pairwise (· < ·) := by
  have order : ∀ {a b : String}, (!decide (b < a)) = true ↔ a ≤ b := by
    intro a b
    rw [Bool.not_eq_true', decide_eq_false_iff_not, String.not_lt]
  refine pairwise_foldr_distinct ((List.pairwise_mergeSort ?_ ?_ texts).imp order.1)
  · exact fun a b c below above => order.2 (String.le_trans (order.1 below) (order.1 above))
  · intro a b
    rw [Bool.or_eq_true, order, order]
    exact String.le_total a b

/-- Sorted texts do not depend on the order or the number of the texts. -/
theorem sortedTexts_eq_iff {texts texts' : List String} :
    sortedTexts texts = sortedTexts texts' ↔ ∀ s, s ∈ texts ↔ s ∈ texts' := by
  refine ⟨fun same s => by rw [← mem_sortedTexts, same, mem_sortedTexts], fun same => ?_⟩
  have irrefl : Std.Irrefl (α := String) (· < ·) := ⟨String.lt_irrefl⟩
  have antisymm : Std.Antisymm (α := String) (· < ·) :=
    ⟨fun _ _ below above => absurd above (String.lt_asymm below)⟩
  refine (pairwise_sortedTexts texts).eq_of_mem_iff (pairwise_sortedTexts texts') (fun s => ?_)
  rw [mem_sortedTexts, mem_sortedTexts, same]

open ThreatHunt.Splits

/-! Signs of operators. -/

namespace Operator

theorem mem_all (op : Operator) : op ∈ all := by
  cases op <;> decide

/-- No sign goes on where another may end. -/
theorem sign_unlike : ∀ op ∈ all, ∀ op' ∈ all,
    op.sign.toList <+: op'.sign.toList → op = op' ∨
      (op'.sign.toList.drop op.sign.toList.length).head?.any (fun c => !decide (IsStop c)) := by
  decide

/-- An operator can be told from its sign where a stop follows it. -/
theorem sign_append_injective {op op' : Operator} {t t' : List Char}
    (ends : ∀ c ∈ t.head?, IsStop c) (ends' : ∀ c ∈ t'.head?, IsStop c)
    (same : op.sign.toList ++ t = op'.sign.toList ++ t') : op = op' ∧ t = t' := by
  have sides : ∀ {op op' : Operator} {t t' : List Char}, (∀ c ∈ t.head?, IsStop c) →
      op.sign.toList ++ t = op'.sign.toList ++ t' → op.sign.toList <+: op'.sign.toList →
      op = op' := by
    rintro op op' t t' ends same ⟨more, longer⟩
    rcases sign_unlike op (mem_all op) op' (mem_all op') ⟨more, longer⟩ with equal | goesOn
    · exact equal
    · obtain ⟨c, head, free⟩ := (Option.any_eq_true _ _).1 goesOn
      rw [← longer, List.drop_left] at head
      rw [← longer, List.append_assoc, List.append_cancel_left_eq] at same
      refine absurd (ends c ?_) (by simpa using free)
      rw [same, List.head?_append, head, Option.some_or]
      rfl
  have equal : op = op' := by
    rcases List.append_eq_append_iff.1 same with ⟨more, longer, _⟩ | ⟨more, longer, _⟩
    · exact sides ends same ⟨more, longer.symm⟩
    · exact (sides ends' same.symm ⟨more, longer.symm⟩).symm
  subst equal
  exact ⟨rfl, List.append_cancel_left same⟩

theorem sign_plain (op : Operator) : ∀ c ∈ op.sign.toList, IsPlain c := by
  cases op <;> exact plain_of_all rfl

end Operator

/-! Comparisons as they come from statements, with all references resolved. -/

/-- The kinds of operands. -/
inductive Takes where
  | nothing
  | list
  | value
  deriving DecidableEq

/-- The kind of operand that goes with an operator. -/
def Operator.takes : Operator → Takes
  | .isNull | .isNotNull => .nothing
  | .isIn | .notIn => .list
  | _ => .value

/-- The operand of an operator that holds one value. -/
def Operator.alone (op : Operator) (v : Value) : Operand :=
  if op.takes = .list then .list [v] else .value v

/-- The checks for null are not written as negations. -/
theorem Operator.takes_of_negated {op op' : Operator} (sign : op.sign = "NOT " ++ op'.sign) :
    op.takes ≠ .nothing ∧ op'.takes ≠ .nothing := by
  cases op <;> cases op' <;> first | exact absurd sign (by decide) | decide

namespace Comparison

/-- An operand that goes with an operator: patterns of texts are texts. -/
inductive Fits (op : Operator) : Operand → Prop where
  | nothing : op.takes = .nothing → Fits op .absent
  | list (items : List Value) : op.takes = .list → Fits op (.list items)
  | value (v : Value) : op.takes = .value → (op.takesPattern = true → ∃ s, v = .str s) →
      Fits op (.value v)

/-- A comparison of a statement without references. -/
structure Settled (c : Comparison) : Prop where
  named : Named c.attr
  fits : Fits c.operator c.operand

/-- The text of an operand with the blank before it. -/
def operandText : Operand → List Char
  | .list items => ' ' :: '(' :: ([',', ' '].intercalate
      ((sortedTexts (items.map Value.literal)).map String.toList) ++ [')'])
  | .value v => ' ' :: v.literal.toList
  | .reference var attr => ' ' :: (var ++ "." ++ attr).toList
  | .absent => []

variable {c d : Comparison}

theorem Settled.text_eq (settled : c.Settled) : c.text.toList =
    c.attr.toList ++ ' ' :: (c.operator.sign.toList ++ operandText c.operand) := by
  obtain ⟨attr, entityType, op, operand⟩ := c
  obtain ⟨_, fits⟩ := settled
  dsimp only at fits ⊢
  cases fits with
  | nothing takes => cases op <;> simp [text, operandText]
  | list items takes =>
    cases op <;> first | exact absurd takes (by decide) | simp [text, operandText]
  | value v takes _ =>
    cases op <;> first | exact absurd takes (by decide) | simp [text, operandText]

theorem Settled.starts (settled : c.Settled) :
    ∃ first more, c.text.toList = first :: more ∧ isNameChar first = true := by
  cases name : c.attr.toList with
  | nil => exact absurd name settled.named.some
  | cons first more =>
    have text := settled.text_eq
    rw [name, List.cons_append] at text
    exact ⟨first, _, text, settled.named.chars first (by rw [name]; exact List.mem_cons_self ..)⟩

theorem ends_operand {operand : Operand} {rest : List Char} (after : Rest rest) :
    ∀ c ∈ (operandText operand ++ rest).head?, IsStop c := by
  intro c member
  cases operand with
  | absent => exact after.stops c member
  | list items => exact .inl (Option.some.inj member).symm
  | value v => exact .inl (Option.some.inj member).symm
  | reference var attr => exact .inl (Option.some.inj member).symm

/-- The literals of the items of an operand. -/
theorem item_of_sorted {items : List Value} {t : List Char}
    (member : t ∈ (sortedTexts (items.map Value.literal)).map String.toList) :
    ∃ v ∈ items, t = v.literal.toList := by
  obtain ⟨s, sorted, rfl⟩ := List.mem_map.1 member
  obtain ⟨v, there, rfl⟩ := List.mem_map.1 (mem_sortedTexts.1 sorted)
  exact ⟨v, there, rfl⟩

theorem balanced_operand {op : Operator} {operand : Operand} (fits : Fits op operand) :
    Balanced (operandText operand) := by
  cases fits with
  | nothing _ => exact fun _ outside => outside
  | list items _ =>
    have inner : Balanced ([',', ' '].intercalate
        ((sortedTexts (items.map Value.literal)).map String.toList)) := by
      refine balanced_intercalate Value.separates_comma (fun t member => ?_)
      obtain ⟨v, _, rfl⟩ := item_of_sorted member
      exact Value.item_literal v
    have front : Balanced [' ', '('] := balanced_of_plain (plain_of_all rfl)
    exact front.append (inner.append (balanced_of_plain (plain_of_all rfl)))
  | value v _ _ =>
    have blank : Balanced [' '] := balanced_of_plain (plain_of_all rfl)
    exact blank.append (Value.item_literal v).balanced

/-- The text of a comparison may stand in a group. -/
theorem Settled.item (settled : c.Settled) : Item c.text.toList := by
  obtain ⟨first, more, start, name⟩ := settled.starts
  refine ⟨?_, first, more, start, fun paren => absurd (paren ▸ name) (by decide)⟩
  have attr : Balanced c.attr.toList := balanced_of_plain (fun _ member =>
    ⟨settled.named.ne member (by decide), settled.named.ne member (by decide)⟩)
  have blank : Balanced [' '] := balanced_of_plain (plain_of_all rfl)
  have sign : Balanced c.operator.sign.toList := balanced_of_plain c.operator.sign_plain
  rw [settled.text_eq]
  exact attr.append (blank.append (sign.append (balanced_operand settled.fits)))

/-- The literals of a list can be told from its text. -/
theorem literals_injective {vs ws : List Value} {rest rest' : List Char} (after : Rest rest)
    (after' : Rest rest')
    (same : operandText (.list vs) ++ rest = operandText (.list ws) ++ rest') :
    sortedTexts (vs.map Value.literal) = sortedTexts (ws.map Value.literal) ∧ rest = rest' := by
  have items : ∀ us : List Value,
      ∀ t ∈ (sortedTexts (us.map Value.literal)).map String.toList, Item t := by
    intro us t member
    obtain ⟨v, _, rfl⟩ := item_of_sorted member
    exact Value.item_literal v
  have each : ∀ t ∈ (sortedTexts (vs.map Value.literal)).map String.toList,
      ∀ u ∈ (sortedTexts (ws.map Value.literal)).map String.toList, Apart t u := by
    intro t member u member'
    obtain ⟨v, _, rfl⟩ := item_of_sorted member
    obtain ⟨w, _, rfl⟩ := item_of_sorted member'
    exact Value.apart_literal v w
  simp only [operandText, List.cons_append, List.append_assoc, List.nil_append, List.cons.injEq,
    true_and] at same
  obtain ⟨texts, rests⟩ := intercalate_injective Value.separates_comma (items vs) (items ws) each
    after after' same
  exact ⟨List.map_injective_iff.2 (fun _ _ => String.toList_inj.1) texts, rests⟩

/-- Operands of one operator are of one form. -/
theorem Fits.cases_both {op : Operator} {a b : Operand} (fits : Fits op a) (fits' : Fits op b) :
    (a = .absent ∧ b = .absent) ∨ (∃ vs ws, a = .list vs ∧ b = .list ws) ∨
      ∃ v w, a = .value v ∧ b = .value w := by
  cases fits with
  | nothing takes =>
    cases fits' with
    | nothing _ => exact .inl ⟨rfl, rfl⟩
    | list _ takes' => exact absurd (takes.symm.trans takes') (by decide)
    | value _ takes' _ => exact absurd (takes.symm.trans takes') (by decide)
  | list vs takes =>
    cases fits' with
    | nothing takes' => exact absurd (takes.symm.trans takes') (by decide)
    | list ws _ => exact .inr (.inl ⟨vs, ws, rfl, rfl⟩)
    | value _ takes' _ => exact absurd (takes.symm.trans takes') (by decide)
  | value v takes _ =>
    cases fits' with
    | nothing takes' => exact absurd (takes.symm.trans takes') (by decide)
    | list _ takes' => exact absurd (takes.symm.trans takes') (by decide)
    | value w _ _ => exact .inr (.inr ⟨v, w, rfl, rfl⟩)

/-- Operands of one operator end where they do whatever follows. -/
theorem apart_operand {op : Operator} {a b : Operand} (fits : Fits op a) (fits' : Fits op b) :
    Apart (operandText a) (operandText b) := by
  intro rest rest' after after' same
  rcases fits.cases_both fits' with ⟨rfl, rfl⟩ | ⟨vs, ws, rfl, rfl⟩ | ⟨v, w, rfl, rfl⟩
  · exact ⟨rfl, same⟩
  · obtain ⟨texts, rests⟩ := literals_injective after after' same
    exact ⟨by rw [operandText, operandText, texts], rests⟩
  · obtain ⟨texts, rests⟩ := Value.apart_literal v w rest rest' after after'
      (List.cons.inj same).2
    exact ⟨by rw [operandText, operandText, texts], rests⟩

/-- The parts of a comparison can be told from its text, and the end of it. -/
theorem Settled.apart (settled : c.Settled) (settled' : d.Settled) {rest rest' : List Char}
    (after : Rest rest) (after' : Rest rest')
    (same : c.text.toList ++ rest = d.text.toList ++ rest') :
    c.attr = d.attr ∧ c.operator = d.operator ∧
      operandText c.operand = operandText d.operand ∧ rest = rest' := by
  rw [settled.text_eq, settled'.text_eq, List.append_assoc, List.append_assoc, List.cons_append,
    List.cons_append, List.append_assoc, List.append_assoc] at same
  have blank : ∀ {s : String}, Named s → ' ' ∉ s.toList :=
    fun named member => named.ne member (by decide) rfl
  obtain ⟨attrs, tail⟩ := Digits.cut_injective (blank settled.named) (blank settled'.named) same
  obtain ⟨ops, tail⟩ := Operator.sign_append_injective (ends_operand after) (ends_operand after')
    tail
  obtain ⟨operands, rests⟩ := apart_operand settled.fits (ops ▸ settled'.fits) rest rest' after
    after' tail
  exact ⟨String.toList_inj.1 attrs, ops, operands, rests⟩

end Comparison

/-! Values that the text of a pattern confuses. -/

/-- Two values that are written alike although an operator tells them apart. -/
structure Value.Confusable (op : Operator) (v w : Value) : Prop where
  alike : v.literal = w.literal
  looks : Value.Lookalikes v w
  told : ∃ u, Comparison.relates op u v ≠ Comparison.relates op u w

namespace Value

theorem compare?_of_isNaN {x : Binary64} (none : x.isNaN = true) (u : Value) :
    u.compare? (.float x) = Option.none := by
  have nothing : ∀ y : Binary64, y.compare? x = Option.none := by
    intro y
    simp [Binary64.compare?, none]
  cases u with
  | int a => exact nothing _
  | float y => exact nothing _
  | str s =>
    rw [compare?]
    cases readNumber? s with
    | none => rfl
    | some y => exact nothing y
  | _ => rfl

/-- No other values that are written alike can be told apart. -/
theorem relates_eq_of_literal_eq {op : Operator} {v w : Value} (alike : v.literal = w.literal)
    (clear : ¬Confusable op v w) (u : Value) :
    Comparison.relates op u v = Comparison.relates op u w := by
  rcases eq_of_literal_eq alike with rfl | looks | ⟨x, y, rfl, rfl, none, none'⟩
  · rfl
  · by_contra told
    exact clear ⟨alike, looks, u, told⟩
  · unfold Comparison.relates
    rw [compare?_of_isNaN none, compare?_of_isNaN none']
    rfl

end Value

namespace Comparison

/-- Comparisons whose texts hide that they differ: an operand of the one is confused with one of
the other, or a negated sign after an attribute that is called `NOT` is confused with a negation of
the comparison. -/
inductive Confusable (c d : Comparison) : Prop where
  | operands {v w : Value} : c.attr = d.attr → c.operator = d.operator →
      v ∈ candidates c.operand → w ∈ candidates d.operand →
      Value.Confusable c.operator.positive.1 v w → Confusable c d
  | negated : c.attr = "NOT" → d.attr = "NOT" → c.operator.sign = "NOT " ++ d.operator.sign →
      operandText c.operand = operandText d.operand → Confusable c d
  | negates : c.attr = "NOT" → d.attr = "NOT" → d.operator.sign = "NOT " ++ c.operator.sign →
      operandText c.operand = operandText d.operand → Confusable c d

variable {c d : Comparison}

/-- Comparisons of other attributes than `NOT` with values of one kind that are neither instants nor
lists are never confused. -/
theorem not_confusable (attr : c.attr ≠ "NOT")
    (unlike : ∀ v ∈ candidates c.operand, ∀ w ∈ candidates d.operand, ¬Value.Lookalikes v w) :
    ¬Confusable c d := by
  rintro (⟨_, _, there, here, confused⟩ | ⟨name, _, _, _⟩ | ⟨name, _, _, _⟩)
  · exact unlike _ there _ here confused.looks
  · exact attr name
  · exact attr name

/-- Of lists that are written alike each item has one on the other side that is written like it. -/
theorem any_of_literals {vs ws : List Value} {holds : Value → Bool}
    (texts : sortedTexts (vs.map Value.literal) = sortedTexts (ws.map Value.literal))
    (agree : ∀ v ∈ vs, ∀ w ∈ ws, v.literal = w.literal → holds v = holds w)
    (some : vs.any holds = true) : ws.any holds = true := by
  obtain ⟨v, there, here⟩ := List.any_eq_true.1 some
  have text := mem_sortedTexts.2 (List.mem_map_of_mem (f := Value.literal) there)
  rw [texts, mem_sortedTexts] at text
  obtain ⟨w, listed, same⟩ := List.mem_map.1 text
  exact List.any_eq_true.2 ⟨w, listed, agree v there w listed same.symm ▸ here⟩

/-- Operands that are written alike hold of the same values. -/
theorem holdsOf_eq {op : Operator} {a b : Operand} (fits : Fits op a) (fits' : Fits op b)
    (alike : operandText a = operandText b)
    (clear : ∀ v ∈ candidates a, ∀ w ∈ candidates b, ¬Value.Confusable op.positive.1 v w)
    (u : Value) : holdsOf op.positive.1 a u = holdsOf op.positive.1 b u := by
  rcases fits.cases_both fits' with ⟨rfl, rfl⟩ | ⟨vs, ws, rfl, rfl⟩ | ⟨v, w, rfl, rfl⟩
  · rfl
  · have texts : sortedTexts (vs.map Value.literal) = sortedTexts (ws.map Value.literal) :=
      (literals_injective rest_nil rest_nil (by rw [alike])).1
    have agree : ∀ v ∈ vs, ∀ w ∈ ws, v.literal = w.literal →
        relates op.positive.1 u v = relates op.positive.1 u w :=
      fun v there w here same => Value.relates_eq_of_literal_eq same (clear v there w here) u
    have any : vs.any (relates op.positive.1 u) = ws.any (relates op.positive.1 u) :=
      Bool.eq_iff_iff.2 ⟨any_of_literals texts agree,
        any_of_literals texts.symm (fun w here v there same =>
          (agree v there w here same.symm).symm)⟩
    rw [holdsOf, holdsOf, any]
  · have literals : v.literal = w.literal := String.toList_inj.1 (List.cons.inj alike).2
    exact Value.relates_eq_of_literal_eq literals
      (clear v (List.mem_singleton_self v) w (List.mem_singleton_self w)) u

/-- Comparisons with one text that are not confused pass the same entities. -/
theorem admits_eq (settled : c.Settled) (settled' : d.Settled) (attrs : c.attr = d.attr)
    (ops : c.operator = d.operator) (alike : operandText c.operand = operandText d.operand)
    (clear : ¬Confusable c d) (e : Entity) : c.admits e = d.admits e := by
  have holds : holdsOf d.operator.positive.1 c.operand =
      holdsOf d.operator.positive.1 d.operand := by
    funext u
    refine holdsOf_eq (ops ▸ settled.fits) settled'.fits alike ?_ u
    intro v there w here confused
    rw [← ops] at confused
    exact clear (.operands attrs ops there here confused)
  unfold admits
  rw [attrs, ops]
  generalize d.operator = op at holds
  cases op <;> first | rfl | simp only [holds]

/-- A missing attribute passes no comparison with an operand. -/
theorem admits_null {e : Entity} (some : c.operator.takes ≠ .nothing)
    (missing : e.valueOf c.attr = .null) : c.admits e = false := by
  unfold admits
  rw [missing]
  cases op : c.operator <;> first | exact absurd (by rw [op]; rfl) some | rfl

/-- A list of one item passes a comparison if the item does. -/
theorem admits_singleton {e : Entity} {u : Value} (some : c.operator.takes ≠ .nothing)
    (value : e.valueOf c.attr = .list [u]) :
    c.admits e = (holdsOf c.operator.positive.1 c.operand u != c.operator.positive.2) := by
  unfold admits
  rw [value]
  cases op : c.operator <;> first
    | exact absurd (by rw [op]; rfl) some
    | simp [Value.isNull]

end Comparison
end ThreatHunt
