import ThreatHunt.Proofs.Pattern.Layouts
import ThreatHunt.Proofs.Pattern.NormalText

/-!
Printed patterns. Every pattern whose groups have several parts is laid out with parentheses where
it needs them, no layout of it nests less, and the text of each of its layouts is read as it.
-/

namespace ThreatHunt.Layout

/-! The layout with the fewest parentheses. -/

/-- A layout as one term, in parentheses where it is not one already. -/
def Disjunction.term : Disjunction → Term
  | .one (.one part) => part
  | d => .group d

/-- A layout as one conjunction, in parentheses where it is not one already. -/
def Disjunction.conjunction : Disjunction → Conjunction
  | .one part => part
  | d => .one (.group d)

section Joined

variable {α β : Type}

/-- Parts one behind the other. -/
def joined (one : α → β) (more : α → β → β) (nothing : β) : List α → β
  | [] => nothing
  | [a] => one a
  | a :: rest => more a (joined one more nothing rest)

variable {one : α → β} {more : α → β → β} {nothing : β}

theorem parts_joined (parts : β → List Pattern) (pattern : α → Pattern)
    (last : ∀ a, parts (one a) = [pattern a])
    (next : ∀ a b, parts (more a b) = pattern a :: parts b) {as : List α} (some : as ≠ []) :
    parts (joined one more nothing as) = as.map pattern := by
  induction as with
  | nil => exact absurd rfl some
  | cons a rest ih =>
    cases rest with
    | nil => exact last a
    | cons b rest => exact (next a _).trans (congrArg _ (ih (List.cons_ne_nil _ _)))

theorem nesting_joined (nesting : β → Nat) (part : α → Nat) (empty : nesting nothing = 0)
    (last : ∀ a, nesting (one a) = part a)
    (next : ∀ a b, nesting (more a b) = max (part a) (nesting b)) {n : Nat} {as : List α}
    (each : ∀ a ∈ as, part a ≤ n) : nesting (joined one more nothing as) ≤ n := by
  induction as with
  | nil => exact empty ▸ Nat.zero_le n
  | cons a rest ih =>
    have first := each a List.mem_cons_self
    have later := ih (fun b member => each b (List.mem_cons_of_mem _ member))
    cases rest with
    | nil => exact (last a).trans_le first
    | cons b rest => exact (next a _).trans_le (Nat.max_le.2 ⟨first, later⟩)

end Joined

/-- Terms joined by `AND`. No source writes a group without parts. -/
def joinAll : List Term → Conjunction :=
  joined .one .and (.one (.test default))

/-- Conjunctions joined by `OR`. -/
def joinAny : List Conjunction → Disjunction :=
  joined .one .or (.one (.one (.test default)))

theorem parts_joinAll {ts : List Term} (some : ts ≠ []) :
    (joinAll ts).parts = ts.map Term.pattern :=
  parts_joined Conjunction.parts Term.pattern (fun _ => rfl) (fun _ _ => rfl) some

theorem parts_joinAny {cs : List Conjunction} (some : cs ≠ []) :
    (joinAny cs).parts = cs.map Conjunction.pattern :=
  parts_joined Disjunction.parts Conjunction.pattern (fun _ => rfl) (fun _ _ => rfl) some

theorem nesting_joinAll {n : Nat} {ts : List Term} (each : ∀ t ∈ ts, t.nesting ≤ n) :
    (joinAll ts).nesting ≤ n :=
  nesting_joined Conjunction.nesting Term.nesting rfl (fun _ => rfl) (fun _ _ => rfl) each

theorem nesting_joinAny {n : Nat} {cs : List Conjunction} (each : ∀ c ∈ cs, c.nesting ≤ n) :
    (joinAny cs).nesting ≤ n :=
  nesting_joined Disjunction.nesting Conjunction.nesting rfl (fun _ => rfl) (fun _ _ => rfl) each

mutual

/-- The layout of a pattern with parentheses only where a part would be read in another way without
them: around `OR` inside of `AND`, around both inside of `NOT`, and around a group inside of a group
of its own kind, which would be one group. -/
def least : Pattern → Disjunction
  | .test c => .one (.one (.test c))
  | .negation part => .one (.one (.negation (least part).term))
  | .all parts => .one (joinAll ((leastOf parts).map Disjunction.term))
  | .any parts => joinAny ((leastOf parts).map Disjunction.conjunction)

def leastOf : List Pattern → List Disjunction
  | [] => []
  | part :: rest => least part :: leastOf rest

end

theorem leastOf_eq (parts : List Pattern) : leastOf parts = parts.map least := by
  induction parts with
  | nil => rfl
  | cons part parts ih => rw [leastOf, ih, List.map_cons]

theorem pattern_term (d : Disjunction) : d.term.pattern = d.pattern := by
  unfold Disjunction.term
  split <;> rfl

theorem pattern_conjunction (d : Disjunction) : d.conjunction.pattern = d.pattern := by
  unfold Disjunction.conjunction
  split <;> rfl

/-- A pattern that can be written: its groups have two parts or more, and its comparisons can be
written. -/
inductive Printable : Pattern → Prop where
  | all {parts : List Pattern} : 2 ≤ parts.length → (∀ p ∈ parts, Printable p) →
      Printable (.all parts)
  | any {parts : List Pattern} : 2 ≤ parts.length → (∀ p ∈ parts, Printable p) →
      Printable (.any parts)
  | negation {part : Pattern} : Printable part → Printable (.negation part)
  | test {c : Comparison} : c.Printable → Printable (.test c)

theorem group_eq {make : List Pattern → Pattern} {parts : List Pattern}
    (several : 2 ≤ parts.length) : Pattern.group make parts = make parts := by
  unfold Pattern.group
  split
  · exact absurd several (Nat.not_succ_le_self 1)
  · rfl

variable {p : Pattern} {parts : List Pattern}

theorem Printable.writable (printable : Printable p) : Writable p := by
  induction printable with
  | all several each ih | any several each ih =>
    intro c member
    obtain ⟨part, inside, within⟩ := Pattern.mem_comparisonsOf.1 member
    exact ih part inside c within
  | negation part ih => exact ih
  | test printable =>
    intro c member
    rw [List.mem_singleton.1 member]
    exact printable

theorem patterns_leastOf (each : ∀ p ∈ parts, (least p).pattern = p) {α : Type}
    {close : Disjunction → α} {pattern : α → Pattern}
    (closed : ∀ d, pattern (close d) = d.pattern) :
    ((leastOf parts).map close).map pattern = parts := by
  rw [leastOf_eq, List.map_map, List.map_map]
  calc parts.map _ = parts.map id := by
        apply List.map_congr_left
        exact fun p member => (closed (least p)).trans (each p member)
    _ = parts := List.map_id parts

theorem map_leastOf_ne_nil {α : Type} (several : 2 ≤ parts.length) (close : Disjunction → α) :
    (leastOf parts).map close ≠ [] := by
  rw [leastOf_eq, List.map_map, ne_eq, List.map_eq_nil_iff]
  rintro rfl
  exact absurd several (Nat.not_succ_le_zero 1)

/-- The least layout of a pattern lays it out. -/
theorem Printable.pattern_least (printable : Printable p) : (least p).pattern = p := by
  induction printable with
  | @all parts several each ih =>
    have laid : (joinAll ((leastOf parts).map Disjunction.term)).parts = parts :=
      calc (joinAll ((leastOf parts).map Disjunction.term)).parts
          = ((leastOf parts).map Disjunction.term).map Term.pattern :=
            parts_joinAll (map_leastOf_ne_nil several _)
        _ = parts := patterns_leastOf ih pattern_term
    change Pattern.group .all (joinAll ((leastOf parts).map Disjunction.term)).parts = .all parts
    rw [laid, group_eq several]
  | @any parts several each ih =>
    have laid : (joinAny ((leastOf parts).map Disjunction.conjunction)).parts = parts :=
      calc (joinAny ((leastOf parts).map Disjunction.conjunction)).parts
          = ((leastOf parts).map Disjunction.conjunction).map Conjunction.pattern :=
            parts_joinAny (map_leastOf_ne_nil several _)
        _ = parts := patterns_leastOf ih pattern_conjunction
    change Pattern.group .any (joinAny ((leastOf parts).map Disjunction.conjunction)).parts =
      .any parts
    rw [laid, group_eq several]
  | @negation part printable ih =>
    exact congrArg Pattern.negation ((pattern_term (least part)).trans ih)
  | test printable => rfl

/-! No layout nests less. -/

theorem nesting_le_conjunction (d : Disjunction) : d.nesting ≤ d.conjunction.nesting := by
  unfold Disjunction.conjunction
  split
  · exact Nat.le_refl _
  · exact Nat.le_succ _

theorem conjunction_le_term (d : Disjunction) : d.conjunction.nesting ≤ d.term.nesting := by
  unfold Disjunction.term
  split
  · exact Nat.le_refl _
  · unfold Disjunction.conjunction
    split
    · exact Nat.le_succ _
    · exact Nat.le_refl _

theorem term_le_nesting (d : Disjunction) : d.term.nesting ≤ d.nesting + 1 := by
  unfold Disjunction.term
  split
  · exact Nat.le_succ _
  · exact Nat.le_refl _

theorem nesting_group_all {n : Nat} (each : ∀ p ∈ parts, (least p).term.nesting ≤ n) :
    (least (Pattern.group .all parts)).conjunction.nesting ≤ n := by
  unfold Pattern.group
  split
  · rename_i part
    exact (conjunction_le_term _).trans (each part (List.mem_singleton_self part))
  · apply nesting_joinAll
    rw [leastOf_eq, List.map_map]
    intro t member
    obtain ⟨part, inside, rfl⟩ := List.mem_map.1 member
    exact each part inside

theorem nesting_group_any {n : Nat} (each : ∀ p ∈ parts, (least p).conjunction.nesting ≤ n) :
    (least (Pattern.group .any parts)).nesting ≤ n := by
  unfold Pattern.group
  split
  · rename_i part
    exact (nesting_le_conjunction _).trans (each part (List.mem_singleton_self part))
  · apply nesting_joinAny
    rw [leastOf_eq, List.map_map]
    intro t member
    obtain ⟨part, inside, rfl⟩ := List.mem_map.1 member
    exact each part inside

mutual

theorem Term.nesting_least (t : Term) : (least t.pattern).term.nesting ≤ t.nesting := by
  cases t with
  | test c => exact Nat.zero_le _
  | negation part => exact Nat.succ_le_succ part.nesting_least
  | group inner =>
    have within := nesting_group_any inner.nesting_least_parts
    exact (term_le_nesting _).trans (Nat.succ_le_succ within)

theorem Conjunction.nesting_least_parts (c : Conjunction) :
    ∀ p ∈ c.parts, (least p).term.nesting ≤ c.nesting := by
  intro p member
  cases c with
  | one part =>
    rw [List.mem_singleton.1 member]
    exact part.nesting_least
  | and first rest =>
    rcases List.mem_cons.1 member with rfl | later
    · exact first.nesting_least.trans (Nat.le_max_left _ _)
    · exact (rest.nesting_least_parts p later).trans (Nat.le_max_right _ _)

theorem Disjunction.nesting_least_parts (d : Disjunction) :
    ∀ p ∈ d.parts, (least p).conjunction.nesting ≤ d.nesting := by
  intro p member
  cases d with
  | one part =>
    rw [List.mem_singleton.1 member]
    exact nesting_group_all part.nesting_least_parts
  | or first rest =>
    rcases List.mem_cons.1 member with rfl | later
    · exact (nesting_group_all first.nesting_least_parts).trans (Nat.le_max_left _ _)
    · exact (rest.nesting_least_parts p later).trans (Nat.le_max_right _ _)

end

/-- No layout of a pattern nests less than the least one. -/
theorem Disjunction.nesting_least (d : Disjunction) : (least d.pattern).nesting ≤ d.nesting :=
  nesting_group_any d.nesting_least_parts

/-- A pattern can be written exactly if its least layout is not too deep. -/
theorem exists_text_iff (printable : Printable p) :
    (∃ d : Disjunction, d.pattern = p ∧ Script.readPattern d.text = .ok p) ↔
      (least p).nesting ≤ Pattern.depthLimit := by
  constructor
  · rintro ⟨d, rfl, read⟩
    have fits : d.nesting ≤ Pattern.depthLimit := by
      by_contra deep
      obtain ⟨offset, failed⟩ := (d.readPattern printable.writable).2 (Nat.lt_of_not_le deep)
      rw [failed] at read
      cases read
    exact d.nesting_least.trans fits
  · intro fits
    have laid := printable.pattern_least
    have writable : Writable (least p).pattern := by
      rw [laid]
      exact printable.writable
    have read := ((least p).readPattern writable).1 fits
    rw [laid] at read
    exact ⟨least p, laid, read⟩

/-- However a pattern is laid out, its text is read as the pattern, or its depth is reported where
more negations and parentheses than are allowed stand around a comparison. -/
theorem readPattern_text (printable : Printable p) :
    (least p).pattern = p ∧ ∀ d : Disjunction, d.pattern = p →
      (d.nesting ≤ Pattern.depthLimit → Script.readPattern d.text = .ok p) ∧
        (Pattern.depthLimit < d.nesting → ∃ offset, Script.readPattern d.text =
          .error (HuntError.ofMisread d.text ⟨offset, .tooDeep Pattern.depthLimit⟩)) := by
  constructor
  · exact printable.pattern_least
  · rintro d rfl
    exact d.readPattern printable.writable

/-- A disjunction inside of a conjunction, which needs parentheses. -/
def nested : Pattern :=
  .all [.negation (.test ⟨"name", none, .like, .value (.str "it's")⟩),
    .any [.test ⟨"pid", none, .isIn, .list [.int (-5), .null]⟩,
      .test ⟨"ppid", some "process", .equal, .reference "procs" "pid"⟩]]

/-- A comparison inside of negations. -/
def buried (depth : Nat) : Pattern :=
  Nat.iterate Pattern.negation depth (.test ⟨"name", none, .isNull, .absent⟩)

theorem printable_nested : Printable nested := by
  have name : Comparison.Printable ⟨"name", none, .like, .value (.str "it's")⟩ :=
    ⟨rfl, nofun, rfl, .text _ rfl⟩
  have pid : Comparison.Printable ⟨"pid", none, .isIn, .list [.int (-5), .null]⟩ :=
    ⟨rfl, nofun, rfl, .list rfl
      (List.forall_mem_cons.2 ⟨.int rfl, List.forall_mem_singleton.2 .null⟩)⟩
  have ppid : Comparison.Printable ⟨"ppid", some "process", .equal, .reference "procs" "pid"⟩ :=
    ⟨rfl, by rintro _ ⟨⟩; rfl, rfl, .reference (by decide) rfl rfl rfl rfl⟩
  have pair : ∀ {a b : Pattern}, Printable a → Printable b → ∀ q ∈ [a, b], Printable q :=
    fun first second => List.forall_mem_cons.2 ⟨first, List.forall_mem_singleton.2 second⟩
  exact .all (Nat.le_refl 2) (pair (.negation (.test name))
    (.any (Nat.le_refl 2) (pair (.test pid) (.test ppid))))

theorem printable_buried (depth : Nat) : Printable (buried depth) := by
  induction depth with
  | zero => exact .test ⟨rfl, nofun, rfl, .absent rfl⟩
  | succ depth ih =>
    rw [buried, Function.iterate_succ_apply']
    exact .negation ih

theorem readPattern_text_of_nested :
    (Printable nested ∧ Script.readPattern
        "NOT name LIKE 'it\\'s' AND (pid IN (-5, NULL) OR process:ppid = procs.pid)" =
      .ok nested) ∧
    (Printable (buried 65) ∧ ∃ offset, Script.readPattern (least (buried 65)).text =
      .error (HuntError.ofMisread (least (buried 65)).text ⟨offset, .tooDeep 64⟩)) := by
  have text : (least nested).text =
      "NOT name LIKE 'it\\'s' AND (pid IN (-5, NULL) OR process:ppid = procs.pid)" := rfl
  constructor
  · obtain ⟨laid, each⟩ := readPattern_text printable_nested
    rw [← text]
    exact ⟨printable_nested, (each (least nested) laid).1 (by decide)⟩
  · obtain ⟨laid, each⟩ := readPattern_text (printable_buried 65)
    exact ⟨printable_buried 65, (each (least (buried 65)) laid).2 (by decide)⟩

end ThreatHunt.Layout
