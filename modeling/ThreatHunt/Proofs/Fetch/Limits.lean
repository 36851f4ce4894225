import Mathlib.Data.List.Infix
import ThreatHunt.Proofs.Fetch.Deduplication

/-!
Limits on answers. A source may cut what it answers to as many entities as rows are wanted. The rows
that are wanted stay the same unless a cut leaves one of them out, which it can: an entity that is
answered twice takes two places and makes one row.
-/

namespace ThreatHunt.Merge

variable {entityType : String} {keep : Entity → Bool} {n : Nat}

/-- What rows are found by: the keys and the identifiers under which they were first seen. -/
def marks (rows : List KeyedRow) : List (String × String) := rows.map (fun r => (r.1, r.2.id))

/-- Adds the mark of an entity unless a row is found for it. -/
def noteMark (entityType : String) (seen : List (String × String)) (e : Entity) :
    List (String × String) :=
  if seen.any (fun m => m.1 == e.dedupKey entityType) || seen.any (fun m => m.2 == e.id) then seen
  else seen ++ [(e.dedupKey entityType, e.id)]

/-- The marks of the rows that entities make behind earlier ones. -/
def firsts (entityType : String) (seen : List (String × String)) (entities : List Entity) :
    List (String × String) :=
  entities.foldl (noteMark entityType) seen

theorem marks_absorbInto (found : KeyedRow → Bool) (e : Entity) (rows : List KeyedRow) :
    marks (absorbInto found e rows) = marks rows := by
  rw [marks, absorbInto, List.map_map]
  refine List.map_congr_left (fun r _ => ?_)
  simp only [Function.comp_apply]
  split <;> rfl

theorem marks_push (rows : List KeyedRow) (e : Entity) :
    marks (push entityType rows e) = noteMark entityType (marks rows) e := by
  have keys : (marks rows).any (fun m => m.1 == e.dedupKey entityType) =
      rows.any (fun r => r.1 == e.dedupKey entityType) := List.any_map
  have ids : (marks rows).any (fun m => m.2 == e.id) = rows.any (fun r => r.2.id == e.id) :=
    List.any_map
  rw [noteMark, keys, ids, push]
  cases rows.any (fun r => r.1 == e.dedupKey entityType) with
  | true => exact marks_absorbInto _ e rows
  | false =>
    cases rows.any (fun r => r.2.id == e.id) with
    | true => exact marks_absorbInto _ e rows
    | false => exact List.map_append

theorem ids_rows_eq (entities : List Entity) :
    (rows entityType entities).map Entity.id = (firsts entityType [] entities).map Prod.snd := by
  have folded : firsts entityType (marks []) entities =
      marks (entities.foldl (push entityType) []) :=
    List.foldl_hom marks (fun rows e => (marks_push rows e).symm)
  rw [show ([] : List (String × String)) = marks [] from rfl, folded, rows, marks, List.map_map,
    List.map_map]
  rfl

theorem length_rows (entities : List Entity) :
    (rows entityType entities).length = (firsts entityType [] entities).length := by
  rw [← List.length_map (f := Entity.id), ids_rows_eq, List.length_map]

theorem firsts_append (seen : List (String × String)) (before after : List Entity) :
    firsts entityType seen (before ++ after) =
      firsts entityType (firsts entityType seen before) after :=
  List.foldl_append

theorem prefix_firsts (seen : List (String × String)) (entities : List Entity) :
    seen <+: firsts entityType seen entities := by
  induction entities generalizing seen with
  | nil => exact List.prefix_rfl
  | cons e rest ih =>
    refine List.IsPrefix.trans ?_ (ih (noteMark entityType seen e))
    unfold noteMark
    split
    · exact List.prefix_rfl
    · exact List.prefix_append _ _

theorem firsts_mono {seen : List (String × String)} {some all : List Entity}
    (first : some <+: all) : firsts entityType seen some <+: firsts entityType seen all := by
  obtain ⟨rest, rfl⟩ := first
  rw [firsts_append]
  exact prefix_firsts _ rest

theorem take_eq_take_iff {α : Type} {some all : List α} (first : some <+: all) :
    some.take n = all.take n ↔ min n all.length ≤ some.length := by
  obtain ⟨rest, rfl⟩ := first
  rw [List.take_append, List.self_eq_append_right, List.take_eq_nil_iff, List.length_append,
    ← List.length_eq_zero_iff]
  omega

/-- The entities that are left of cut answers, and of whole ones. -/
def cutTo (keep : Entity → Bool) (n : Nat) (answers : List (List Entity)) : List Entity :=
  (answers.map (fun answer => (answer.take n).filter keep)).flatten

def uncutOf (keep : Entity → Bool) (answers : List (List Entity)) : List Entity :=
  (answers.map (fun answer => answer.filter keep)).flatten

/-- Whether cut answers still give enough rows: up to the number of rows that are wanted, each gives
as many as the whole answer does behind the same entities. -/
def Sufficient (entityType : String) (keep : Entity → Bool) (n : Nat) :
    List Entity → List (List Entity) → Prop
  | _, [] => True
  | before, answer :: rest =>
    min n (rows entityType (before ++ answer.filter keep)).length ≤
        (rows entityType (before ++ (answer.take n).filter keep)).length ∧
      Sufficient entityType keep n (before ++ answer.filter keep) rest

instance decidableSufficient : (before : List Entity) → (answers : List (List Entity)) →
    Decidable (Sufficient entityType keep n before answers)
  | _, [] => inferInstanceAs (Decidable True)
  | before, answer :: rest =>
    have := decidableSufficient (before ++ answer.filter keep) rest
    inferInstanceAs (Decidable (_ ∧ _))

theorem prefix_filter_take (answer : List Entity) :
    (answer.take n).filter keep <+: answer.filter keep := by
  have cut := List.take_prefix n answer
  exact cut.filter keep

/-- Rows that agree as far as they are wanted still do so behind a cut answer and the whole one. -/
theorem take_firsts_cut {seen known : List (String × String)} {answer : List Entity}
    (same : seen.take n = known.take n)
    (enough : min n (firsts entityType known (answer.filter keep)).length ≤
      (firsts entityType known ((answer.take n).filter keep)).length) :
    (firsts entityType seen ((answer.take n).filter keep)).take n =
      (firsts entityType known (answer.filter keep)).take n := by
  rcases Nat.lt_or_ge known.length n with few | full
  · -- All rows so far are wanted, so they are the same.
    have lengths := congrArg List.length same
    rw [List.length_take, List.length_take] at lengths
    rw [List.take_of_length_le (by omega), List.take_of_length_le (by omega)] at same
    rw [same]
    exact (take_eq_take_iff (firsts_mono (prefix_filter_take answer))).2 enough
  · -- Further entities come behind those that are wanted.
    have lengths := congrArg List.length same
    rw [List.length_take, List.length_take] at lengths
    have kept : ∀ {some : List (String × String)} (entities : List Entity), n ≤ some.length →
        (firsts entityType some entities).take n = some.take n := by
      intro some entities long
      exact ((take_eq_take_iff (prefix_firsts some entities)).2 (by omega)).symm
    rw [kept _ (by omega), kept _ full, same]

theorem take_firsts_cutTo {before : List Entity} {answers : List (List Entity)}
    {seen : List (String × String)} (same : seen.take n = (firsts entityType [] before).take n)
    (enough : Sufficient entityType keep n before answers) :
    (firsts entityType seen (cutTo keep n answers)).take n =
      (firsts entityType [] (before ++ uncutOf keep answers)).take n := by
  induction answers generalizing before seen with
  | nil =>
    rw [uncutOf, List.map_nil, List.flatten_nil, List.append_nil]
    exact same
  | cons answer rest ih =>
    obtain ⟨here, later⟩ := enough
    rw [length_rows, length_rows, firsts_append, firsts_append] at here
    have first := take_firsts_cut same here
    rw [← firsts_append] at first
    have both := ih first later
    rw [← firsts_append, List.append_assoc] at both
    exact both

/-- With enough rows in the cut answers, the rows that are wanted are those of the whole answers. -/
theorem take_ids_cutTo {answers : List (List Entity)}
    (enough : Sufficient entityType keep n [] answers) :
    ((rows entityType (cutTo keep n answers)).map Entity.id).take n =
      ((rows entityType (uncutOf keep answers)).map Entity.id).take n := by
  rw [ids_rows_eq, ids_rows_eq, ← List.map_take, ← List.map_take]
  exact congrArg (List.map Prod.snd) (take_firsts_cutTo rfl enough)

theorem prefix_ids_cutTo (answer : List Entity) :
    (rows entityType (cutTo keep n [answer])).map Entity.id <+:
      (rows entityType (uncutOf keep [answer])).map Entity.id := by
  simp only [cutTo, uncutOf, List.map_cons, List.map_nil, List.flatten_cons, List.flatten_nil,
    List.append_nil, ids_rows_eq]
  exact (firsts_mono (prefix_filter_take answer)).map Prod.snd

/-- With a single answer, the wanted rows are the same only then. -/
theorem sufficient_singleton_iff {answer : List Entity} :
    Sufficient entityType keep n [] [answer] ↔
      ((rows entityType (cutTo keep n [answer])).map Entity.id).take n =
        ((rows entityType (uncutOf keep [answer])).map Entity.id).take n := by
  rw [take_eq_take_iff (prefix_ids_cutTo answer)]
  simp only [Sufficient, cutTo, uncutOf, List.map_cons, List.map_nil, List.flatten_cons,
    List.flatten_nil, List.append_nil, List.nil_append, List.length_map, and_true]

/-- Short answers are not cut. -/
theorem sufficient_of_short {before : List Entity} {answers : List (List Entity)}
    (short : ∀ answer ∈ answers, answer.length ≤ n) :
    Sufficient entityType keep n before answers := by
  induction answers generalizing before with
  | nil => exact trivial
  | cons answer rest ih =>
    obtain ⟨here, later⟩ := List.forall_mem_cons.1 short
    refine ⟨?_, ih later⟩
    rw [List.take_of_length_le here]
    exact Nat.min_le_right _ _

theorem firsts_of_apart {entities : List Entity}
    (apart : entities.Pairwise (fun e f => ¬e.SameThing entityType f)) :
    firsts entityType [] entities = entities.map (fun e => (e.dedupKey entityType, e.id)) := by
  induction entities using List.reverseRecOn with
  | nil => rfl
  | append_singleton before e ih =>
    obtain ⟨earlier, _, across⟩ := List.pairwise_append.1 apart
    have new : ∀ f ∈ before, ¬f.SameThing entityType e :=
      fun f there => across f there e (List.mem_singleton_self e)
    rw [firsts_append, ih earlier, List.map_append]
    refine if_neg ?_
    simp only [Bool.or_eq_true, List.any_eq_true, List.mem_map, beq_iff_eq]
    rintro (⟨m, ⟨f, there, rfl⟩, key⟩ | ⟨m, ⟨f, there, rfl⟩, id⟩)
    · exact new f there (.inr key)
    · exact new f there (.inl id)

/-- Nor do cuts matter where each entity is answered once. -/
theorem sufficient_of_apart {before : List Entity} {answers : List (List Entity)}
    (kept : ∀ answer ∈ answers, ∀ e ∈ answer, keep e = true)
    (apart : (before ++ answers.flatten).Pairwise (fun e f => ¬e.SameThing entityType f)) :
    Sufficient entityType keep n before answers := by
  induction answers generalizing before with
  | nil => exact trivial
  | cons answer rest ih =>
    obtain ⟨here, later⟩ := List.forall_mem_cons.1 kept
    rw [List.flatten_cons, ← List.append_assoc] at apart
    have whole : answer.filter keep = answer := List.filter_eq_self.2 here
    have cut : (answer.take n).filter keep = answer.take n :=
      List.filter_eq_self.2 (fun e member => here e (List.mem_of_mem_take member))
    have size : ∀ some : List Entity, some.Sublist answer →
        (rows entityType (before ++ some)).length = before.length + some.length := by
      intro some within
      have among := (List.Sublist.refl before).append within
      rw [length_rows, firsts_of_apart ((List.pairwise_append.1 apart).1.sublist among),
        List.length_map, List.length_append]
    refine ⟨?_, ?_⟩
    · rw [whole, cut, size _ (List.Sublist.refl _), size _ (List.take_sublist n answer),
        List.length_take]
      omega
    · rw [whole]
      exact ih later apart

end ThreatHunt.Merge
