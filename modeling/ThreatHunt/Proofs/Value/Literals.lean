import ThreatHunt.Value.Order
import ThreatHunt.Proofs.Number.Text
import ThreatHunt.Proofs.Text.Splits

/-!
Literals of values: where one ends, and which values share one.
-/

namespace ThreatHunt

open ThreatHunt.Splits

namespace Instant

/-- The characters of instants. -/
def isStamp (c : Char) : Bool := c.isDigit || ['-', '+', ':', '.', 'T', 'Z'].contains c

/-- A text that is made of the characters of instants. -/
def Stamped (s : String) : Prop := ∀ c ∈ s.toList, isStamp c = true

variable {a b : String}

theorem stamped_of_all (all : a.toList.all isStamp = true) : Stamped a := List.all_eq_true.1 all

theorem Stamped.append (first : Stamped a) (second : Stamped b) : Stamped (a ++ b) := by
  intro c member
  rw [String.toList_append] at member
  rcases List.mem_append.1 member with early | late
  · exact first c early
  · exact second c late

theorem stamped_repr (n : Nat) : Stamped (Nat.repr n) := fun c member => by
  simp [isStamp, Digits.isDigit_of_mem_repr member]

theorem stamped_ofInt (i : Int) : Stamped (Text.ofInt i) := by
  unfold Text.ofInt
  split
  · exact Stamped.append (stamped_of_all rfl) (stamped_repr _)
  · exact stamped_repr _

theorem stamped_padZeros (width : Nat) (inner : Stamped a) : Stamped (Text.padZeros width a) := by
  refine Stamped.append (fun c member => ?_) inner
  rw [String.toList_ofList] at member
  rw [List.eq_of_mem_replicate member]
  decide

theorem stamped_yearText (year : Int) : Stamped (yearText year) := by
  unfold yearText
  split
  · exact stamped_padZeros 4 (stamped_ofInt year)
  · refine Stamped.append ?_ (stamped_padZeros 4 (stamped_repr _))
    split <;> exact stamped_of_all rfl

theorem stamped_twoDigits (n : Nat) : Stamped (twoDigits n) := stamped_padZeros 2 (stamped_repr n)

theorem stamped_text (t : Instant) : Stamped (t.text .millis) := by
  have mark : ∀ s ∈ ["-", "T", ":", ".", "Z"], Stamped s := fun s member =>
    stamped_of_all (List.all_eq_true.1
      (show ["-", "T", ":", ".", "Z"].all (·.toList.all isStamp) = true by decide) s member)
  have clock := (((stamped_twoDigits ((t.second - t.second.fdiv 86400 * 86400).toNat / 3600)).append
    (mark ":" (by decide))).append (stamped_twoDigits
      ((t.second - t.second.fdiv 86400 * 86400).toNat / 60 % 60))).append (mark ":" (by decide))
  have fraction := (mark "." (by decide)).append (stamped_padZeros 3
    (stamped_repr ((t.nano - t.nano / billion * billion) / 1000000)))
  exact ((((((((stamped_yearText _).append (mark "-" (by decide))).append
    (stamped_twoDigits _)).append (mark "-" (by decide))).append (stamped_twoDigits _)).append
      (mark "T" (by decide))).append (clock.append (stamped_twoDigits _))).append
        fraction).append (mark "Z" (by decide))

end Instant

namespace Value

theorem literalItems_eq (vs : List Value) : literalItems vs = vs.map literal := by
  induction vs with
  | nil => rfl
  | cons v vs ih => rw [literalItems, ih, List.map_cons]

/-- The texts of the items of a list. -/
def itemTexts (vs : List Value) : List (List Char) := vs.map (fun v => v.literal.toList)

theorem literal_list (vs : List Value) :
    (Value.list vs).literal.toList = '(' :: ([',', ' '].intercalate (itemTexts vs) ++ [')']) := by
  simp [literal, literalItems_eq, itemTexts, Function.comp_def]

theorem literal_time (t : Instant) :
    (Value.time t).literal.toList = 't' :: '\'' :: ((t.text .millis).toList ++ ['\'']) := by
  simp [literal]

theorem body_stamped {s : String} (stamped : Instant.Stamped s) : body s.toList = s.toList := by
  have plain : ∀ cs : List Char, (∀ c ∈ cs, c ≠ '\'') → body cs = cs := by
    intro cs
    induction cs with
    | nil => exact fun _ => rfl
    | cons c cs ih =>
      intro plain
      rw [body_cons (plain c (List.mem_cons_self ..)),
        ih (fun d member => plain d (List.mem_cons_of_mem _ member))]
  refine plain _ (fun c member quote => ?_)
  have stamp := stamped c member
  rw [quote] at stamp
  exact absurd stamp (by decide)

/-- The instant of a literal stands between quotes. -/
theorem literal_time_quoted (t : Instant) :
    (Value.time t).literal.toList = 't' :: (quotedText (t.text .millis)).toList := by
  rw [literal_time, quotedText_toList, body_stamped (Instant.stamped_text t)]

/-- A text without stops that does not begin as a quoted text or a list does. -/
structure Solid (t : List Char) : Prop where
  unbroken : ∀ c ∈ t, ¬IsStop c
  opens : ∃ c more, t = c :: more ∧ c ≠ '\'' ∧ c ≠ '('

/-- How a literal is built. -/
inductive Built (v : Value) : Prop where
  | solid : Solid v.literal.toList → Balanced v.literal.toList → Built v
  | quoted (s : String) : v = .str s → Built v
  | listed (items : List Value) : v = .list items → Built v

theorem solid_of_numeral {t : List Char} (some : t ≠ []) (numeral : ∀ c ∈ t, isNumeral c = true) :
    Solid t ∧ Balanced t := by
  have differs : ∀ c ∈ t, ∀ d, isNumeral d = false → c ≠ d := by
    intro c member d other same
    have := numeral c member
    rw [same, other] at this
    exact absurd this (by decide)
  refine ⟨⟨fun c member stop => ?_, ?_⟩, balanced_of_plain (fun c member => ?_)⟩
  · rcases stop with stop | stop | stop <;> exact differs c member _ (by decide) stop
  · cases t with
    | nil => exact absurd rfl some
    | cons c more =>
      have first := differs c (List.mem_cons_self ..)
      exact ⟨c, more, rfl, first _ (by decide), first _ (by decide)⟩
  · exact ⟨differs c member _ (by decide), differs c member _ (by decide)⟩

theorem floatText_ne_nil (x : Binary64) : (floatText x).toList ≠ [] := by
  have some : (Decimal.text x).toList ≠ [] := by
    cases number : x.isNaN with
    | true =>
      rw [Decimal.text_of_isNaN number]
      decide
    | false =>
      obtain ⟨c, head, _⟩ := Decimal.head_unsigned number
      rw [Decimal.text_eq number, String.toList_append]
      intro none
      rw [(List.append_eq_nil_iff.1 none).2] at head
      nomatch head
  unfold floatText
  split
  · rw [String.toList_append]
    exact List.append_ne_nil_of_left_ne_nil some _
  · exact some

theorem ofInt_ne_nil (i : Int) : (Text.ofInt i).toList ≠ [] := by
  unfold Text.ofInt
  split
  · rw [String.toList_append]
    exact List.append_ne_nil_of_left_ne_nil (by decide) _
  · exact Digits.repr_ne_nil _

theorem solid_time (t : Instant) : Solid (Value.time t).literal.toList := by
  refine ⟨fun c member stop => ?_, ?_⟩
  · have kinds : c = 't' ∨ c = '\'' ∨ Instant.isStamp c = true := by
      rw [literal_time, List.mem_cons, List.mem_cons, List.mem_append, List.mem_singleton] at member
      rcases member with rfl | rfl | stamp | rfl
      · exact .inl rfl
      · exact .inr (.inl rfl)
      · exact .inr (.inr (Instant.stamped_text t c stamp))
      · exact .inr (.inl rfl)
    rcases stop with rfl | rfl | rfl <;> exact absurd kinds (by decide)
  · exact ⟨'t', _, literal_time t, by decide, by decide⟩

theorem built (v : Value) : Built v := by
  have word : ∀ {v : Value} {s : String}, v.literal = s →
      s.toList.all (fun c => decide (IsPlain c ∧ ¬IsStop c)) = true →
      (∃ c more, s.toList = c :: more ∧ c ≠ '\'' ∧ c ≠ '(') → Built v := by
    intro v s literal all opens
    have letters : ∀ c ∈ s.toList, IsPlain c ∧ ¬IsStop c :=
      fun c member => of_decide_eq_true (List.all_eq_true.1 all c member)
    rw [← literal] at letters opens
    exact .solid ⟨fun c member => (letters c member).2, opens⟩
      (balanced_of_plain (fun c member => (letters c member).1))
  cases v with
  | null => exact word (s := "NULL") rfl (by decide) ⟨'N', _, rfl, by decide, by decide⟩
  | bool b =>
    cases b with
    | true => exact word (s := "true") rfl (by decide) ⟨'t', _, rfl, by decide, by decide⟩
    | false => exact word (s := "false") rfl (by decide) ⟨'f', _, rfl, by decide, by decide⟩
  | int i =>
    have numeral := solid_of_numeral (ofInt_ne_nil i) (fun _ => isNumeral_of_mem_ofInt)
    exact .solid numeral.1 numeral.2
  | float x =>
    have numeral := solid_of_numeral (floatText_ne_nil x) (fun _ => isNumeral_of_mem_floatText)
    exact .solid numeral.1 numeral.2
  | str s => exact .quoted s rfl
  | time t =>
    refine .solid (solid_time t) ?_
    rw [literal_time_quoted]
    have mark : Balanced ['t'] := balanced_of_plain (plain_of_all rfl)
    exact mark.append (balanced_quotedText _)
  | list items => exact .listed items rfl

/-- The separator of the items of a list. -/
theorem separates_comma : Separates [',', ' '] where
  plain := plain_of_all rfl
  starts := ⟨',', [' '], rfl, .inr (.inr rfl), by decide⟩

/-- A literal may stand in a list. -/
theorem item_literal (v : Value) : Item v.literal.toList := by
  rcases built v with ⟨solid, balanced⟩ | ⟨s, rfl⟩ | ⟨items, rfl⟩
  · obtain ⟨c, more, start, _, _⟩ := solid.opens
    refine ⟨balanced, c, more, start, fun paren => ?_⟩
    refine solid.unbroken c ?_ (.inr (.inl paren))
    rw [start]
    exact List.mem_cons_self ..
  · exact ⟨balanced_quotedText s, '\'', _, quotedText_toList s, by decide⟩
  · refine ⟨?_, '(', _, literal_list items, by decide⟩
    have inner : ∀ t ∈ itemTexts items, Item t := by
      intro t member
      obtain ⟨v, there, rfl⟩ := List.mem_map.1 member
      have smaller := List.sizeOf_lt_of_mem there
      exact item_literal v
    have paren : ∀ c, c = '(' ∨ c = ')' → Balanced [c] := fun c either =>
      balanced_of_plain (fun d member => by
        rw [List.mem_singleton.1 member]
        rcases either with rfl | rfl <;> exact ⟨by decide, by decide⟩)
    rw [literal_list]
    exact (paren '(' (.inl rfl)).append
      ((balanced_intercalate separates_comma inner).append (paren ')' (.inr rfl)))
termination_by sizeOf v
decreasing_by
  subst_vars
  rw [Value.list.sizeOf_spec]
  omega

/-- Literals end where they do whatever follows. -/
theorem apart_literal (v w : Value) : Apart v.literal.toList w.literal.toList := by
  intro rest rest' after after' same
  rcases built v with ⟨solid, _⟩ | ⟨s, rfl⟩ | ⟨items, rfl⟩ <;>
    rcases built w with ⟨solid', _⟩ | ⟨s', rfl⟩ | ⟨items', rfl⟩
  · exact apart_of_solid solid.unbroken solid'.unbroken rest rest' after after' same
  · obtain ⟨c, more, start, notQuote, _⟩ := solid.opens
    rw [start, literal, quotedText_toList] at same
    exact absurd (List.cons.inj same).1 notQuote
  · obtain ⟨c, more, start, _, notParen⟩ := solid.opens
    rw [start, literal_list] at same
    exact absurd (List.cons.inj same).1 notParen
  · obtain ⟨c, more, start, notQuote, _⟩ := solid'.opens
    rw [start, literal, quotedText_toList] at same
    exact absurd (List.cons.inj same).1.symm notQuote
  · exact apart_quotedText s s' rest rest' after after' same
  · rw [literal, quotedText_toList, literal_list] at same
    exact absurd (List.cons.inj same).1 (by decide)
  · obtain ⟨c, more, start, _, notParen⟩ := solid'.opens
    rw [start, literal_list] at same
    exact absurd (List.cons.inj same).1.symm notParen
  · rw [literal_list, literal, quotedText_toList] at same
    exact absurd (List.cons.inj same).1 (by decide)
  · have items_of : ∀ vs : List Value, ∀ t ∈ itemTexts vs, Item t := by
      intro vs t member
      obtain ⟨v, _, rfl⟩ := List.mem_map.1 member
      exact item_literal v
    have inner : ∀ t ∈ itemTexts items, ∀ u ∈ itemTexts items', Apart t u := by
      intro t member u member'
      obtain ⟨v, there, rfl⟩ := List.mem_map.1 member
      obtain ⟨w, _, rfl⟩ := List.mem_map.1 member'
      have smaller := List.sizeOf_lt_of_mem there
      exact apart_literal v w
    rw [literal_list, literal_list] at same ⊢
    rw [List.cons_append, List.cons_append, List.append_assoc, List.append_assoc] at same
    obtain ⟨texts, rests⟩ := intercalate_injective separates_comma (items_of items)
      (items_of items') inner after after' (List.cons.inj same).2
    exact ⟨by rw [texts], rests⟩
termination_by sizeOf v
decreasing_by
  subst_vars
  rw [Value.list.sizeOf_spec]
  omega

/-- The kind of a value as its literal shows it: integers and floating point numbers look alike. -/
def glance (t : List Char) : Kind :=
  if t.all isNumeral then .float
  else
    match t with
    | '\'' :: _ => .str
    | '(' :: _ => .list
    | 't' :: '\'' :: _ => .time
    | 'N' :: _ => .null
    | _ => .bool

theorem glance_literal (v : Value) :
    glance v.literal.toList = if v.kind = .int then .float else v.kind := by
  cases v with
  | null => rfl
  | bool b => cases b <;> rfl
  | int i =>
    have numeral : (Text.ofInt i).toList.all isNumeral = true :=
      List.all_eq_true.2 (fun _ => isNumeral_of_mem_ofInt)
    simp [glance, literal, render, numeral, kind]
  | float x =>
    have numeral : (floatText x).toList.all isNumeral = true :=
      List.all_eq_true.2 (fun _ => isNumeral_of_mem_floatText)
    simp [glance, literal, render, numeral, kind]
  | str s =>
    rw [literal, quotedText_toList]
    rfl
  | time t =>
    rw [literal_time]
    rfl
  | list items =>
    rw [literal_list]
    rfl

/-- Values that are written alike without being the same: instants, two numbers of which one is an
integer, lists, and what is not a number. -/
inductive Lookalikes : Value → Value → Prop where
  | instants (t u : Instant) : Lookalikes (.time t) (.time u)
  | intFloat (i : Int) (x : Binary64) : Lookalikes (.int i) (.float x)
  | floatInt (x : Binary64) (i : Int) : Lookalikes (.float x) (.int i)
  | lists (as bs : List Value) : Lookalikes (.list as) (.list bs)

theorem eq_of_literal_eq {v w : Value} (same : v.literal = w.literal) :
    v = w ∨ Lookalikes v w ∨
      ∃ x y : Binary64, v = .float x ∧ w = .float y ∧ x.isNaN = true ∧ y.isNaN = true := by
  have kinds := glance_literal v
  rw [same, glance_literal w] at kinds
  cases v <;> cases w <;> simp only [kind, reduceCtorEq, if_true, if_false] at kinds
  case null.null => exact .inl rfl
  case bool.bool a b =>
    left
    cases a <;> cases b <;> first | rfl | exact absurd same (by decide)
  case int.int i j => exact .inl (congrArg _ (ofInt_injective same))
  case int.float i x => exact .inr (.inl (.intFloat i x))
  case float.int x i => exact .inr (.inl (.floatInt x i))
  case float.float x y =>
    rcases floatText_injective same with rfl | ⟨none, none'⟩
    · exact .inl rfl
    · exact .inr (.inr ⟨x, y, rfl, rfl, none, none'⟩)
  case str.str a b => exact .inl (congrArg _ (quotedText_injective same))
  case time.time t u => exact .inr (.inl (.instants t u))
  case list.list as bs => exact .inr (.inl (.lists as bs))

end Value
end ThreatHunt
