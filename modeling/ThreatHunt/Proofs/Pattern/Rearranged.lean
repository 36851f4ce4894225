import Mathlib.Logic.Relation
import ThreatHunt.Fetch.Cache
import ThreatHunt.Fetch.Merge
import ThreatHunt.Proofs.Pattern.NormalText

/-!
Patterns written in another way. The parts of a group and the items of a list may be put in another
order or repeated: the pattern keeps its normal text, and it matches the same entities.
-/

namespace ThreatHunt

namespace Comparison

/-- The comparison with a list in place of its operand. -/
def withItems (c : Comparison) (items : List Value) : Comparison :=
  { c with operand := .list items }

variable {c : Comparison} {these those : List Value}

theorem text_withItems (same : ∀ v, v ∈ these ↔ v ∈ those) :
    (c.withItems these).text = (c.withItems those).text := by
  have texts : sortedTexts (these.map Value.literal) = sortedTexts (those.map Value.literal) := by
    rw [sortedTexts_eq_iff]
    intro s
    simp only [List.mem_map, same]
  unfold text withItems
  cases c.operator <;> simp only [texts]

theorem holdsOf_items (same : ∀ v, v ∈ these ↔ v ∈ those) (op : Operator) :
    holdsOf op (.list these) = holdsOf op (.list those) := by
  funext v
  have hit : these.any (relates op v) = those.any (relates op v) := by
    rw [Bool.eq_iff_iff, List.any_eq_true, List.any_eq_true]
    simp only [same]
  simp only [holdsOf, hit]

theorem admits_withItems (same : ∀ v, v ∈ these ↔ v ∈ those) (e : Entity) :
    (c.withItems these).admits e = (c.withItems those).admits e := by
  unfold admits withItems
  dsimp only
  simp only [holdsOf_items same]

end Comparison

namespace Pattern

/-- Patterns that differ in the order and the number of the parts of groups and of the items of
lists, at any depth. A group of one part is the part. -/
inductive Rearranged : Pattern → Pattern → Prop where
  | refl (p : Pattern) : Rearranged p p
  | symm {p q : Pattern} (first : Rearranged p q) : Rearranged q p
  | trans {p q r : Pattern} (first : Rearranged p q) (second : Rearranged q r) : Rearranged p r
  | parts (every : Bool) {these those : List Pattern} (same : ∀ p, p ∈ these ↔ p ∈ those) :
      Rearranged (grouped every these) (grouped every those)
  | single (every : Bool) (p : Pattern) : Rearranged (grouped every [p]) p
  | items (c : Comparison) {these those : List Value} (same : ∀ v, v ∈ these ↔ v ∈ those) :
      Rearranged (.test (c.withItems these)) (.test (c.withItems those))
  | part (every : Bool) (before : List Pattern) {p q : Pattern} (after : List Pattern)
      (inside : Rearranged p q) :
      Rearranged (grouped every (before ++ p :: after)) (grouped every (before ++ q :: after))
  | negation {p q : Pattern} (inside : Rearranged p q) : Rearranged (.negation p) (.negation q)

variable {p q : Pattern}

theorem normalText_single (every : Bool) (p : Pattern) :
    (grouped every [p]).normalText = p.normalText := by
  rw [normalText_grouped]
  simp [joinParts, sortedTexts]

theorem Rearranged.normalText_eq (rearranged : Rearranged p q) : p.normalText = q.normalText := by
  induction rearranged with
  | refl p => rfl
  | symm _ ih => exact ih.symm
  | trans _ _ first second => exact first.trans second
  | @parts every these those same =>
    have texts : sortedTexts (these.map normalText) = sortedTexts (those.map normalText) := by
      rw [sortedTexts_eq_iff]
      intro s
      simp only [List.mem_map, same]
    rw [normalText_grouped, normalText_grouped, joinParts, joinParts, texts]
  | single every p => exact normalText_single every p
  | items c same => exact Comparison.text_withItems same
  | part every before after _ ih =>
    simp only [normalText_grouped, List.map_append, List.map_cons, ih]
  | negation _ ih => simp only [normalText, ih]

theorem Rearranged.admits_eq (rearranged : Rearranged p q) (e : Entity) :
    admits e p = admits e q := by
  induction rearranged with
  | refl p => rfl
  | symm _ ih => exact ih.symm
  | trans _ _ first second => exact first.trans second
  | parts every same =>
    apply admits_grouped_congr
    · intro part member
      exact ⟨part, (same part).1 member, rfl⟩
    · intro part member
      exact ⟨part, (same part).2 member, rfl⟩
  | single every p => cases every <;> simp [admits_grouped]
  | items c same => exact Comparison.admits_withItems same e
  | part every before after _ ih =>
    simp only [admits_grouped, List.all_append, List.all_cons, List.any_append, List.any_cons, ih]
  | negation _ ih => simp only [admits, ih]

end Pattern

namespace EntityQuery

/-- Queries that differ in no more than the way in which their patterns are written. -/
structure Rearranged (q q' : EntityQuery) : Prop where
  entityType : q.entityType = q'.entityType
  pattern : Option.Rel Pattern.Rearranged q.pattern q'.pattern
  window : q.window = q'.window
  limit : q.limit = q'.limit

variable {q q' : EntityQuery}

theorem Rearranged.refl (q : EntityQuery) : q.Rearranged q where
  entityType := rfl
  pattern := by
    cases q.pattern with
    | none => exact .none
    | some p => exact .some (.refl p)
  window := rfl
  limit := rfl

theorem Rearranged.ofQuery_eq (rearranged : q.Rearranged q') (name : String) :
    FetchKey.ofQuery name q = FetchKey.ofQuery name q' := by
  have pattern := rearranged.pattern
  unfold FetchKey.ofQuery
  rw [rearranged.entityType, rearranged.window, rearranged.limit]
  generalize q.pattern = these at pattern ⊢
  generalize q'.pattern = those at pattern ⊢
  cases pattern with
  | none => rfl
  | some alike => simp only [Option.map_some, alike.normalText_eq]

theorem Rearranged.admits?_eq (rearranged : q.Rearranged q') (e : Entity) :
    Pattern.admits? q.pattern e = Pattern.admits? q'.pattern e := by
  have pattern := rearranged.pattern
  generalize q.pattern = these at pattern ⊢
  generalize q'.pattern = those at pattern ⊢
  cases pattern with
  | none => rfl
  | some alike => exact alike.admits_eq e

theorem Rearranged.kept_eq (rearranged : q.Rearranged q') (timeAttributes : List String)
    (r : Reply) : r.kept timeAttributes q = r.kept timeAttributes q' := by
  simp only [Reply.kept, rearranged.admits?_eq, rearranged.window]

end EntityQuery
end ThreatHunt

/-!
Patterns written in another order. A shuffle puts the parts of one group or the items of one list
in another order, or repeats one of them, anywhere in a pattern. Patterns that shuffles lead to from
one another are those that differ in order and number alone; they have one normal text, and match
the same entities.
-/

namespace ThreatHunt.Pattern

/-- One change in the order or the number of parts or items. A group in which one part is left is
the part. -/
inductive Shuffles : Pattern → Pattern → Prop where
  | order (every : Bool) {these those : List Pattern} (perm : these.Perm those) :
      Shuffles (grouped every these) (grouped every those)
  | repetition (every : Bool) {p : Pattern} {parts : List Pattern} (member : p ∈ parts) :
      Shuffles (grouped every parts) (grouped every (p :: parts))
  | single (every : Bool) (p : Pattern) : Shuffles (grouped every [p]) p
  | itemOrder (c : Comparison) {these those : List Value} (perm : these.Perm those) :
      Shuffles (.test (c.withItems these)) (.test (c.withItems those))
  | itemRepetition (c : Comparison) {v : Value} {items : List Value} (member : v ∈ items) :
      Shuffles (.test (c.withItems items)) (.test (c.withItems (v :: items)))
  | part (every : Bool) (before : List Pattern) {p q : Pattern} (after : List Pattern)
      (inside : Shuffles p q) :
      Shuffles (grouped every (before ++ p :: after)) (grouped every (before ++ q :: after))
  | negation {p q : Pattern} (inside : Shuffles p q) : Shuffles (.negation p) (.negation q)

/-- Patterns that any number of shuffles leads to from one another. -/
abbrev Shuffled : Pattern → Pattern → Prop := Relation.EqvGen Shuffles

variable {p q : Pattern}

theorem mem_cons_iff_of_mem {α : Type} {a : α} {as : List α} (member : a ∈ as) (b : α) :
    b ∈ as ↔ b ∈ a :: as := by
  rw [List.mem_cons]
  exact ⟨.inr, fun either => either.elim (fun same => same ▸ member) id⟩

theorem Shuffles.rearranged (shuffles : Shuffles p q) : Rearranged p q := by
  induction shuffles with
  | order every perm => exact .parts every (fun _ => perm.mem_iff)
  | repetition every member => exact .parts every (mem_cons_iff_of_mem member)
  | single every p => exact .single every p
  | itemOrder c perm => exact .items c (fun _ => perm.mem_iff)
  | itemRepetition c member => exact .items c (mem_cons_iff_of_mem member)
  | part every before after _ ih => exact .part every before after ih
  | negation _ ih => exact .negation ih

/-- What holds of one shuffle inside of a pattern holds of any number. -/
theorem shuffled_inside {around : Pattern → Pattern}
    (each : ∀ {p q}, Shuffles p q → Shuffles (around p) (around q)) (inside : Shuffled p q) :
    Shuffled (around p) (around q) := by
  induction inside with
  | rel _ _ shuffles => exact .rel _ _ (each shuffles)
  | refl _ => exact .refl _
  | symm _ _ _ ih => exact ih.symm
  | trans _ _ _ _ _ first second => exact first.trans _ _ _ second

/-- Elements that a list has already are put in front of it one by one. -/
theorem shuffled_append {α : Type} {made : List α → Pattern}
    (repetition : ∀ {a as}, a ∈ as → Shuffles (made as) (made (a :: as))) {more as : List α}
    (there : ∀ a ∈ more, a ∈ as) : Shuffled (made as) (made (more ++ as)) := by
  induction more with
  | nil => exact .refl _
  | cons a more ih =>
    obtain ⟨first, others⟩ := List.forall_mem_cons.1 there
    exact (ih others).trans _ _ _ (.rel _ _ (repetition (List.mem_append_right more first)))

/-- Lists with the same elements are shuffled into both of them, one behind the other. -/
theorem shuffled_of_same {α : Type} (made : List α → Pattern)
    (order : ∀ {these those : List α}, these.Perm those → Shuffles (made these) (made those))
    (repetition : ∀ {a as}, a ∈ as → Shuffles (made as) (made (a :: as))) {these those : List α}
    (same : ∀ a, a ∈ these ↔ a ∈ those) : Shuffled (made these) (made those) := by
  have first : Shuffled (made these) (made (those ++ these)) :=
    shuffled_append repetition (fun a => (same a).2)
  have swapped : Shuffled (made (those ++ these)) (made (these ++ those)) :=
    .rel _ _ (order List.perm_append_comm)
  have second : Shuffled (made those) (made (these ++ those)) :=
    shuffled_append repetition (fun a => (same a).1)
  exact (first.trans _ _ _ swapped).trans _ _ _ second.symm

/-- Shuffles lead to all patterns that differ in order and number alone, and to no others. -/
theorem rearranged_iff : Rearranged p q ↔ Shuffled p q := by
  constructor
  · intro rearranged
    induction rearranged with
    | refl p => exact .refl p
    | symm _ ih => exact ih.symm
    | trans _ _ first second => exact first.trans _ _ _ second
    | parts every same =>
      exact shuffled_of_same (grouped every) (.order every) (.repetition every) same
    | single every p => exact .rel _ _ (.single every p)
    | items c same =>
      exact shuffled_of_same (fun items => .test (c.withItems items)) (.itemOrder c)
        (.itemRepetition c) same
    | part every before after _ ih => exact shuffled_inside (.part every before after) ih
    | negation _ ih => exact shuffled_inside .negation ih
  · intro shuffled
    induction shuffled with
    | rel _ _ shuffles => exact shuffles.rearranged
    | refl p => exact .refl p
    | symm _ _ _ ih => exact ih.symm
    | trans _ _ _ _ _ first second => exact first.trans second

/-- Any number of shuffles leaves the normal text as it is, and the entities that match. -/
theorem normalText_eq_of_shuffled (shuffled : Shuffled p q) :
    p.normalText = q.normalText ∧ ∀ e, admits e p = admits e q :=
  ⟨(rearranged_iff.2 shuffled).normalText_eq, (rearranged_iff.2 shuffled).admits_eq⟩

def namesCmd : Pattern := .test ⟨"name", none, .equal, .value (.str "cmd")⟩

def lacksPids (pids : List Int) : Pattern :=
  .test (Comparison.withItems ⟨"pid", none, .notIn, .absent⟩ (pids.map Value.int))

/-- A group and a list with something twice, and a group of one part written twice. -/
def repetitive : Pattern :=
  .any [.all [namesCmd, lacksPids [7, 4, 7], namesCmd], .all [namesCmd, namesCmd]]

def plain : Pattern := .any [namesCmd, .all [lacksPids [4, 7], namesCmd]]

theorem normalText_eq_of_shuffled_repetitive :
    Shuffled repetitive plain ∧ repetitive.normalText = plain.normalText ∧
      ∀ e, admits e repetitive = admits e plain := by
  have pids : Rearranged (lacksPids [7, 4, 7]) (lacksPids [4, 7]) :=
    .items _ (fun v => by simp only [List.map, List.mem_cons, List.not_mem_nil]; tauto)
  have several : Rearranged (.all [namesCmd, lacksPids [7, 4, 7], namesCmd])
      (.all [lacksPids [4, 7], namesCmd]) :=
    (Rearranged.part true [namesCmd] [namesCmd] pids).trans (.parts true (fun p => by
      simp only [List.mem_append, List.mem_cons, List.not_mem_nil]
      tauto))
  have one : Rearranged (.all [namesCmd, namesCmd]) namesCmd :=
    (Rearranged.parts true (fun p => by simp)).trans (.single true namesCmd)
  have parts : Rearranged repetitive (.any [.all [lacksPids [4, 7], namesCmd], namesCmd]) :=
    (Rearranged.part false [] [_] several).trans (.part false [_] [] one)
  have whole : Rearranged repetitive plain :=
    parts.trans (.parts false (fun p => by
      simp only [List.mem_cons, List.not_mem_nil]
      tauto))
  have shuffled := rearranged_iff.1 whole
  exact ⟨shuffled, normalText_eq_of_shuffled shuffled⟩

end ThreatHunt.Pattern
