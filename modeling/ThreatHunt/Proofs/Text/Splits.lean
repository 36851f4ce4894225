import Mathlib.Tactic.ByContra
import ThreatHunt.Value.Text

/-!
Where a text ends inside a longer one. The quote of a text may follow a backslash of its own, so
the end of a quoted text cannot be seen from the text alone: it takes that what follows is made of
whole quoted texts.
-/

namespace ThreatHunt.Splits

/-- A quoted text without its outer quotes. -/
def body (cs : List Char) : List Char := cs.flatMap (fun c => if c == '\'' then ['\\', c] else [c])

theorem body_nil : body [] = [] := rfl

theorem body_quote (cs : List Char) : body ('\'' :: cs) = '\\' :: '\'' :: body cs := rfl

theorem body_cons {c : Char} (plain : c ≠ '\'') (cs : List Char) : body (c :: cs) = c :: body cs := by
  simp [body, plain]

/-- No quote stands at the front of a body. -/
theorem quote_cons_ne {cs : List Char} (some : cs ≠ []) (tail rest : List Char) :
    '\'' :: tail ≠ body cs ++ rest := by
  intro same
  cases cs with
  | nil => exact some rfl
  | cons c cs =>
    by_cases quote : c = '\''
    · subst quote
      rw [body_quote, List.cons_append] at same
      exact absurd (List.cons.inj same).1 (by decide)
    · rw [body_cons quote, List.cons_append] at same
      exact quote (List.cons.inj same).1.symm

theorem quotedText_toList (s : String) :
    (Value.quotedText s).toList = '\'' :: (body s.toList ++ ['\'']) := by
  simp [Value.quotedText, body]

/-- A character that neither opens nor closes a quoted text. -/
def IsPlain (c : Char) : Prop := c ≠ '\'' ∧ c ≠ '\\'

instance : DecidablePred IsPlain := fun _ => inferInstanceAs (Decidable (_ ∧ _))

/-- A text that stands outside of quotes: all quoted texts in it are whole. -/
inductive Outside : List Char → Prop where
  | nil : Outside []
  | plain {c : Char} {rest : List Char} : IsPlain c → Outside rest → Outside (c :: rest)
  | quoted (cs : List Char) {rest : List Char} : Outside rest →
      Outside ('\'' :: (body cs ++ '\'' :: rest))

/-- What follows an opening quote cannot be read as if it stood outside. -/
theorem not_outside_inside {text : List Char} (outside : Outside text) (cs : List Char)
    {rest : List Char} (after : Outside rest) : text ≠ body cs ++ '\'' :: rest := by
  -- The two readings of a text differ by one quote at each of its quotes, to its end.
  induction size : text.length using Nat.strongRecOn generalizing text cs rest with
  | ind n ih =>
    intro same
    cases outside with
    | nil => exact absurd (congrArg List.length same) (by simp)
    | @plain c left plain outside =>
      rw [List.length_cons] at size
      cases cs with
      | nil => exact plain.1 (List.cons.inj same).1
      | cons d cs =>
        by_cases quote : d = '\''
        · subst quote
          rw [body_quote] at same
          exact plain.2 (List.cons.inj same).1
        · rw [body_cons quote] at same
          exact ih left.length (by omega) outside cs after rfl (List.cons.inj same).2
    | @quoted ds left outside =>
      have empty : cs = [] := by
        by_contra some
        exact quote_cons_ne some _ _ same
      subst empty
      have shorter := congrArg List.length same
      rw [body_nil, List.nil_append, List.length_cons, List.length_cons] at shorter
      refine ih rest.length ?_ after ds outside rfl (List.cons.inj same).2.symm
      rw [← size, List.length_cons]
      omega

/-- The end of a quoted text can be told where what follows stands outside. -/
theorem body_append_injective {cs ds : List Char} {rest rest' : List Char} (after : Outside rest)
    (after' : Outside rest') (same : body cs ++ '\'' :: rest = body ds ++ '\'' :: rest') :
    cs = ds ∧ rest = rest' := by
  induction cs generalizing ds with
  | nil =>
    cases ds with
    | nil => exact ⟨rfl, (List.cons.inj same).2⟩
    | cons d ds => exact absurd same (quote_cons_ne (List.cons_ne_nil _ _) _ _)
  | cons c cs ih =>
    cases ds with
    | nil => exact absurd same.symm (quote_cons_ne (List.cons_ne_nil _ _) _ _)
    | cons d ds =>
      by_cases quote : c = '\'' <;> by_cases quote' : d = '\''
      · subst quote quote'
        rw [body_quote, body_quote, List.cons_append, List.cons_append, List.cons_append,
          List.cons_append] at same
        obtain ⟨rfl, rfl⟩ := ih (List.cons.inj (List.cons.inj same).2).2
        exact ⟨rfl, rfl⟩
      · subst quote
        rw [body_quote, body_cons quote', List.cons_append, List.cons_append, List.cons_append]
          at same
        have tail := (List.cons.inj same).2
        cases ds with
        | nil =>
          -- The one reading escapes a quote that closes the text in the other.
          exact absurd (List.cons.inj tail).2.symm (not_outside_inside after' cs after)
        | cons e ds => exact absurd tail (quote_cons_ne (List.cons_ne_nil _ _) _ _)
      · subst quote'
        rw [body_quote, body_cons quote, List.cons_append, List.cons_append, List.cons_append]
          at same
        have tail := (List.cons.inj same).2
        cases cs with
        | nil => exact absurd (List.cons.inj tail).2 (not_outside_inside after ds after')
        | cons e cs => exact absurd tail.symm (quote_cons_ne (List.cons_ne_nil _ _) _ _)
      · rw [body_cons quote, body_cons quote', List.cons_append, List.cons_append] at same
        obtain ⟨rfl, tail⟩ := List.cons.inj same
        obtain ⟨rfl, rfl⟩ := ih tail
        exact ⟨rfl, rfl⟩

/-- A text after which one stands outside, as before it. -/
def Balanced (t : List Char) : Prop := ∀ rest, Outside rest → Outside (t ++ rest)

theorem Balanced.append {t u : List Char} (first : Balanced t) (second : Balanced u) :
    Balanced (t ++ u) := by
  intro rest outside
  rw [List.append_assoc]
  exact first _ (second rest outside)

theorem plain_of_all {t : List Char} (all : t.all (fun c => decide (IsPlain c)) = true) :
    ∀ c ∈ t, IsPlain c :=
  fun c member => of_decide_eq_true (List.all_eq_true.1 all c member)

theorem balanced_of_plain {t : List Char} (plain : ∀ c ∈ t, IsPlain c) : Balanced t := by
  intro rest outside
  induction t with
  | nil => exact outside
  | cons c t ih =>
    exact .plain (plain c (List.mem_cons_self ..))
      (ih (fun d member => plain d (List.mem_cons_of_mem _ member)))

theorem balanced_quotedText (s : String) : Balanced (Value.quotedText s).toList := by
  intro rest outside
  rw [quotedText_toList, List.cons_append, List.append_assoc]
  exact .quoted s.toList outside

/-- The characters that may stand behind a literal or a part. -/
def IsStop (c : Char) : Prop := c = ' ' ∨ c = ')' ∨ c = ','

instance : DecidablePred IsStop := fun _ => inferInstanceAs (Decidable (_ ∨ _ ∨ _))

/-- What may follow a literal or a part. -/
structure Rest (rest : List Char) : Prop where
  outside : Outside rest
  stops : ∀ c ∈ rest.head?, IsStop c

theorem rest_nil : Rest [] := ⟨.nil, by simp⟩

/-- Whether two texts are the same, and end at the same place, wherever they begin a text. -/
def Apart (t u : List Char) : Prop :=
  ∀ rest rest', Rest rest → Rest rest' → t ++ rest = u ++ rest' → t = u ∧ rest = rest'

theorem apart_quotedText (a b : String) :
    Apart (Value.quotedText a).toList (Value.quotedText b).toList := by
  intro rest rest' after after' same
  rw [quotedText_toList, quotedText_toList] at same ⊢
  rw [List.cons_append, List.cons_append, List.append_assoc, List.append_assoc] at same
  obtain ⟨texts, rests⟩ := body_append_injective after.outside after'.outside
    (List.cons.inj same).2
  exact ⟨by rw [texts], rests⟩

theorem quotedText_injective {a b : String} (same : Value.quotedText a = Value.quotedText b) :
    a = b := by
  have texts := congrArg String.toList same
  rw [quotedText_toList, quotedText_toList] at texts
  have bodies : a.toList = b.toList :=
    (body_append_injective .nil .nil (List.cons.inj texts).2).1
  exact String.toList_inj.1 bodies

/-- Texts without stops end at the first one. -/
theorem apart_of_solid {t u : List Char} (solid : ∀ c ∈ t, ¬IsStop c) (solid' : ∀ c ∈ u, ¬IsStop c) :
    Apart t u := by
  intro rest rest' after after' same
  induction t generalizing u with
  | nil =>
    cases u with
    | nil => exact ⟨rfl, same⟩
    | cons c u =>
      refine absurd (after.stops c ?_) (solid' c (List.mem_cons_self ..))
      rw [List.nil_append] at same
      rw [same]
      rfl
  | cons c t ih =>
    cases u with
    | nil =>
      refine absurd (after'.stops c ?_) (solid c (List.mem_cons_self ..))
      rw [List.nil_append] at same
      rw [← same]
      rfl
    | cons d u =>
      obtain ⟨rfl, tail⟩ := List.cons.inj same
      obtain ⟨rfl, rests⟩ := ih (fun e member => solid e (List.mem_cons_of_mem _ member))
        (fun e member => solid' e (List.mem_cons_of_mem _ member)) tail
      exact ⟨rfl, rests⟩

/-! Texts with separators between them and a parenthesis behind. -/

/-- A separator begins with a stop that closes nothing. -/
structure Separates (separator : List Char) : Prop where
  plain : ∀ c ∈ separator, IsPlain c
  starts : ∃ c more, separator = c :: more ∧ IsStop c ∧ c ≠ ')'

/-- A text that may stand between separators. -/
structure Item (t : List Char) : Prop where
  balanced : Balanced t
  opens : ∃ c more, t = c :: more ∧ c ≠ ')'

section

variable {separator : List Char} {ts us : List (List Char)} {rest rest' : List Char}

/-- The text behind the first of several items, with what follows the parenthesis. -/
def behind (separator : List Char) : List (List Char) → List Char → List Char
  | [], rest => ')' :: rest
  | t :: ts, rest => separator ++ (t ++ behind separator ts rest)

theorem intercalate_paren (separator t : List Char) (ts : List (List Char)) (rest : List Char) :
    separator.intercalate (t :: ts) ++ ')' :: rest = t ++ behind separator ts rest := by
  induction ts generalizing t with
  | nil => rw [List.intercalate_singleton, behind]
  | cons u ts ih => rw [List.intercalate_cons_cons, List.append_assoc, List.append_assoc, ih, behind]

theorem balanced_intercalate (separates : Separates separator) (items : ∀ t ∈ ts, Item t) :
    Balanced (separator.intercalate ts) := by
  induction ts with
  | nil => exact fun _ outside => outside
  | cons t ts ih =>
    have first := (items t (List.mem_cons_self ..)).balanced
    cases ts with
    | nil =>
      rw [List.intercalate_singleton]
      exact first
    | cons u ts =>
      rw [List.intercalate_cons_cons]
      exact (first.append (balanced_of_plain separates.plain)).append
        (ih (fun v member => items v (List.mem_cons_of_mem _ member)))

theorem rest_behind (separates : Separates separator) (items : ∀ t ∈ ts, Item t)
    (after : Rest rest) : Rest (behind separator ts rest) := by
  induction ts with
  | nil =>
    refine ⟨.plain ⟨by decide, by decide⟩ after.outside, fun c member => ?_⟩
    rw [← Option.some.inj member]
    exact .inr (.inl rfl)
  | cons t ts ih =>
    have later := ih (fun u member => items u (List.mem_cons_of_mem _ member))
    have item := items t (List.mem_cons_self ..)
    refine ⟨balanced_of_plain separates.plain _ (item.balanced _ later.outside), ?_⟩
    obtain ⟨c, more, rfl, stop, _⟩ := separates.starts
    intro d member
    obtain rfl := Option.some.inj member
    exact stop

theorem paren_ne_behind (separates : Separates separator) (t : List Char)
    (ts : List (List Char)) (rest rest' : List Char) :
    ')' :: rest ≠ behind separator (t :: ts) rest' := by
  obtain ⟨c, more, rfl, _, differs⟩ := separates.starts
  intro same
  exact differs (List.cons.inj same).1.symm

theorem behind_injective (separates : Separates separator) (items : ∀ t ∈ ts, Item t)
    (items' : ∀ u ∈ us, Item u) (apart : ∀ t ∈ ts, ∀ u ∈ us, Apart t u) (after : Rest rest)
    (after' : Rest rest') (same : behind separator ts rest = behind separator us rest') :
    ts = us ∧ rest = rest' := by
  induction ts generalizing us with
  | nil =>
    cases us with
    | nil => exact ⟨rfl, (List.cons.inj same).2⟩
    | cons u us => exact absurd same (paren_ne_behind separates u us rest rest')
  | cons t ts ih =>
    cases us with
    | nil => exact absurd same.symm (paren_ne_behind separates t ts rest' rest)
    | cons u us =>
      have later : ∀ v ∈ ts, Item v := fun v member => items v (List.mem_cons_of_mem _ member)
      have later' : ∀ v ∈ us, Item v := fun v member => items' v (List.mem_cons_of_mem _ member)
      obtain ⟨rfl, tail⟩ := apart t (List.mem_cons_self ..) u (List.mem_cons_self ..) _ _
        (rest_behind separates later after) (rest_behind separates later' after')
        (List.append_cancel_left same)
      obtain ⟨rfl, rests⟩ := ih later later' (fun v member w member' =>
        apart v (List.mem_cons_of_mem _ member) w (List.mem_cons_of_mem _ member')) tail
      exact ⟨rfl, rests⟩

/-- Texts between separators can be told apart if each can. -/
theorem intercalate_injective (separates : Separates separator) (items : ∀ t ∈ ts, Item t)
    (items' : ∀ u ∈ us, Item u) (apart : ∀ t ∈ ts, ∀ u ∈ us, Apart t u) (after : Rest rest)
    (after' : Rest rest')
    (same : separator.intercalate ts ++ ')' :: rest = separator.intercalate us ++ ')' :: rest') :
    ts = us ∧ rest = rest' := by
  have opens : ∀ {t back tail : List Char}, Item t → ')' :: back ≠ t ++ tail := by
    intro t back tail item equal
    obtain ⟨c, more, rfl, other⟩ := item.opens
    exact other (List.cons.inj equal).1.symm
  cases ts with
  | nil =>
    cases us with
    | nil => exact ⟨rfl, (List.cons.inj same).2⟩
    | cons u us =>
      rw [intercalate_paren] at same
      exact absurd same (opens (items' u (List.mem_cons_self ..)))
  | cons t ts =>
    cases us with
    | nil =>
      rw [intercalate_paren] at same
      exact absurd same.symm (opens (items t (List.mem_cons_self ..)))
    | cons u us =>
      rw [intercalate_paren, intercalate_paren] at same
      refine behind_injective separates items items' apart after after' ?_
      rw [behind, behind, same]

end

end ThreatHunt.Splits
