import Mathlib.Data.List.Induction
import Mathlib.Data.List.Nodup
import Mathlib.Data.List.Perm.Subperm
import ThreatHunt.Table.Schema

/-!
Lists whose items have keys of their own, where a look-up by key finds the one item of that key, and
the items of a list in the order in which they are first seen, each once.
-/

namespace ThreatHunt

namespace Keyed

variable {α κ : Type} {key : α → κ} {items : List α}

theorem eq_of_key (distinct : (items.map key).Nodup) {a b : α} (first : a ∈ items)
    (second : b ∈ items) (same : key a = key b) : a = b :=
  List.inj_on_of_nodup_map distinct first second same

theorem find?_eq_some (distinct : (items.map key).Nodup) {a : α} (member : a ∈ items)
    {test : α → Bool} (tests : ∀ b ∈ items, test b = true ↔ key b = key a) :
    items.find? test = some a := by
  cases found : items.find? test with
  | none => exact absurd ((tests a member).2 rfl) (List.find?_eq_none.1 found a member)
  | some b =>
    have present := List.mem_of_find?_eq_some found
    have same := (tests b present).1 (List.find?_some found)
    rw [eq_of_key distinct present member same]

theorem of_find?_eq_some [DecidableEq κ] {a : α} {k : κ}
    (found : items.find? (fun b => key b = k) = some a) : a ∈ items ∧ key a = k :=
  ⟨List.mem_of_find?_eq_some found, by simpa using List.find?_some found⟩

theorem of_find?_eq_none [DecidableEq κ] {k : κ}
    (absent : items.find? (fun b => key b = k) = none) : ∀ b ∈ items, key b ≠ k :=
  fun b member same => List.find?_eq_none.1 absent b member (decide_eq_true same)

theorem distinct_filter (distinct : (items.map key).Nodup) (test : α → Bool) :
    ((items.filter test).map key).Nodup :=
  distinct.sublist (List.filter_sublist.map key)

end Keyed

namespace Dict

variable {α : Type} {es : List (String × α)} {name : String} {value : α}

theorem findEntry_append (name : String) (es more : List (String × α)) :
    findEntry name (es ++ more) = (findEntry name es).or (findEntry name more) := by
  induction es with
  | nil => rfl
  | cons e rest ih =>
    rw [List.cons_append, findEntry, findEntry, ih]
    split <;> rfl

theorem findEntry_eq_none (apart : ∀ e ∈ es, e.1 ≠ name) : findEntry name es = none := by
  induction es with
  | nil => rfl
  | cons e rest ih =>
    rw [findEntry, if_neg (apart e (List.mem_cons_self ..))]
    exact ih (fun e later => apart e (List.mem_cons_of_mem _ later))

/-- What is dropped under other names is not missed. -/
theorem findEntry_filter {keep : String × α → Bool}
    (kept : ∀ e ∈ es, e.1 = name → keep e = true) :
    findEntry name (es.filter keep) = findEntry name es := by
  induction es with
  | nil => rfl
  | cons e rest ih =>
    obtain ⟨here, later⟩ := List.forall_mem_cons.1 kept
    rw [List.filter_cons, findEntry]
    by_cases own : e.1 = name
    · rw [if_pos (here own), findEntry, if_pos own, if_pos own]
    · rw [if_neg own]
      split
      · rw [findEntry, if_neg own, ih later]
      · exact ih later

theorem findEntry_of_forall (member : (name, value) ∈ es)
    (same : ∀ e ∈ es, e.1 = name → e.2 = value) : findEntry name es = some value := by
  induction es with
  | nil => exact absurd member List.not_mem_nil
  | cons e rest ih =>
    obtain ⟨here, later⟩ := List.forall_mem_cons.1 same
    rw [findEntry]
    by_cases own : e.1 = name
    · rw [if_pos own, here own]
    · rw [if_neg own]
      apply ih _ later
      apply (List.mem_cons.1 member).resolve_left
      rintro rfl
      exact own rfl

theorem findEntry_of_mem (distinct : (es.map Prod.fst).Nodup) (member : (name, value) ∈ es) :
    findEntry name es = some value := by
  apply findEntry_of_forall member
  intro e there own
  exact congrArg Prod.snd (Keyed.eq_of_key distinct there member own)

theorem ofList_concat (es : List (String × α)) (e : String × α) :
    ofList (es ++ [e]) = (ofList es).insert e.1 e.2 :=
  List.foldl_concat ..

/-- The last value of a name counts. -/
theorem find?_ofList (es : List (String × α)) (name : String) :
    (ofList es).find? name = findEntry name es.reverse := by
  induction es using List.reverseRecOn with
  | nil => rfl
  | append_singleton es e ih =>
    rw [ofList_concat, find?_insert, ih, List.reverse_append]
    rfl

theorem contains_ofList : (ofList es).contains name = true ↔ ∃ e ∈ es, e.1 = name := by
  induction es using List.reverseRecOn with
  | nil => exact ⟨fun there => (nomatch there), fun ⟨_, member, _⟩ => (nomatch member)⟩
  | append_singleton es e ih =>
    rw [ofList_concat, contains, find?_insert]
    split
    · rename_i own
      exact ⟨fun _ => ⟨e, List.mem_append_right es (List.mem_singleton_self e), own⟩, fun _ => rfl⟩
    · rename_i other
      rw [← contains, ih]
      simp [other]

theorem find?_ofList_of_mem (distinct : (es.map Prod.fst).Nodup) (member : (name, value) ∈ es) :
    (ofList es).find? name = some value := by
  rw [find?_ofList]
  apply findEntry_of_mem
  · rw [List.map_reverse]
    exact List.nodup_reverse.2 distinct
  · exact List.mem_reverse.2 member

end Dict

namespace Firsts

variable {α β : Type} [BEq α] [LawfulBEq α] {as bs : List α} {a : α}

theorem eraseDups_concat_of_mem (seen : a ∈ as) : (as ++ [a]).eraseDups = as.eraseDups := by
  rw [List.eraseDups_append]
  simp [List.removeAll, seen]

theorem eraseDups_concat_of_not_mem (new : a ∉ as) :
    (as ++ [a]).eraseDups = as.eraseDups ++ [a] := by
  rw [List.eraseDups_append]
  simp [List.removeAll, new, List.eraseDups_cons]

theorem eraseDups_append_self (as : List α) : (as ++ as).eraseDups = as.eraseDups := by
  have nothing : as.removeAll as = [] :=
    List.filter_eq_nil_iff.2 (fun a member => by simp [member])
  rw [List.eraseDups_append, nothing, List.eraseDups_nil, List.append_nil]

/-- What is seen before is all that matters for what is seen later. -/
theorem eraseDups_append_congr (same : as.eraseDups = bs.eraseDups) (cs : List α) :
    (as ++ cs).eraseDups = (bs ++ cs).eraseDups := by
  induction cs using List.reverseRecOn with
  | nil => simpa using same
  | append_singleton cs c ih =>
    have seen : c ∈ as ++ cs ↔ c ∈ bs ++ cs := by
      rw [← List.mem_eraseDups, ih, List.mem_eraseDups]
    rw [← List.append_assoc, ← List.append_assoc]
    by_cases old : c ∈ as ++ cs
    · rw [eraseDups_concat_of_mem old, eraseDups_concat_of_mem (seen.1 old), ih]
    · rw [eraseDups_concat_of_not_mem old, eraseDups_concat_of_not_mem (old ∘ seen.2), ih]

theorem eraseDups_append_eraseDups (as bs : List α) :
    (as ++ bs.eraseDups).eraseDups = (as ++ bs).eraseDups := by
  induction bs using List.reverseRecOn with
  | nil => rfl
  | append_singleton bs b ih =>
    by_cases old : b ∈ bs
    · rw [eraseDups_concat_of_mem old, ih, ← List.append_assoc,
        eraseDups_concat_of_mem (List.mem_append_right as old)]
    · rw [eraseDups_concat_of_not_mem old, ← List.append_assoc, ← List.append_assoc]
      exact eraseDups_append_congr ih [b]

theorem eraseDups_of_nodup (distinct : as.Nodup) : as.eraseDups = as := by
  induction as using List.reverseRecOn with
  | nil => rfl
  | append_singleton as a ih =>
    obtain ⟨before, _, apart⟩ := List.nodup_append.1 distinct
    have new : a ∉ as := fun seen => apart a seen a (List.mem_singleton_self a) rfl
    rw [eraseDups_concat_of_not_mem new, ih before]

theorem nodup_eraseDups (as : List α) : as.eraseDups.Nodup := by
  induction as using List.reverseRecOn with
  | nil => exact List.nodup_nil
  | append_singleton as a ih =>
    by_cases old : a ∈ as
    · rwa [eraseDups_concat_of_mem old]
    · rw [eraseDups_concat_of_not_mem old]
      refine List.nodup_append.2 ⟨ih, List.nodup_singleton a, fun b before c last => ?_⟩
      rintro rfl
      rw [List.mem_singleton.1 last, List.mem_eraseDups] at before
      exact old before

/-- Items that show all that some items show, each of it once. -/
theorem exists_representatives (shows : β → Option α) (items : List β) :
    ∃ kept : List β, kept.Sublist items ∧
      kept.map shows = (items.filterMap shows).eraseDups.map some := by
  induction items using List.reverseRecOn with
  | nil => exact ⟨[], List.Sublist.slnil, rfl⟩
  | append_singleton items last ih =>
    obtain ⟨kept, part, shown⟩ := ih
    have before : kept.Sublist (items ++ [last]) :=
      part.trans (List.sublist_append_left items [last])
    cases own : shows last with
    | none => exact ⟨kept, before, by simpa [own] using shown⟩
    | some a =>
      have all : (items ++ [last]).filterMap shows = items.filterMap shows ++ [a] := by simp [own]
      rw [all]
      by_cases old : a ∈ items.filterMap shows
      · refine ⟨kept, before, ?_⟩
        rw [eraseDups_concat_of_mem old, shown]
      · refine ⟨kept ++ [last], part.append (List.Sublist.refl [last]), ?_⟩
        rw [eraseDups_concat_of_not_mem old, List.map_append, List.map_append, shown]
        simp [own]

end Firsts

namespace Schema

open Firsts

variable {α : Type} [BEq α]

theorem distinct_append_singleton (items : List α) (x : α) :
    distinct (items ++ [x]) =
      if (distinct items).contains x then distinct items else distinct items ++ [x] := by
  unfold distinct
  rw [List.foldl_concat]

variable [LawfulBEq α]

theorem distinct_eq_eraseDups (items : List α) : distinct items = items.eraseDups := by
  induction items using List.reverseRecOn with
  | nil => rfl
  | append_singleton items x ih =>
    rw [distinct_append_singleton, ih]
    by_cases old : x ∈ items
    · rw [eraseDups_concat_of_mem old, if_pos (by simpa using old)]
    · rw [eraseDups_concat_of_not_mem old, if_neg (by simpa using old)]

theorem mem_distinct {items : List α} {x : α} : x ∈ distinct items ↔ x ∈ items := by
  rw [distinct_eq_eraseDups, List.mem_eraseDups]

theorem nodup_distinct (items : List α) : (distinct items).Nodup :=
  distinct_eq_eraseDups items ▸ nodup_eraseDups items

theorem length_distinct_eq_iff {items : List α} :
    (distinct items).length = items.length ↔ items.Nodup := by
  constructor
  · intro same
    have among : (distinct items).Subperm items :=
      List.subperm_of_subset (nodup_distinct items) (fun _ => mem_distinct.1)
    exact (among.perm_of_length_le (Nat.le_of_eq same.symm)).nodup_iff.1 (nodup_distinct items)
  · intro apart
    rw [distinct_eq_eraseDups, eraseDups_of_nodup apart]

end Schema
end ThreatHunt
