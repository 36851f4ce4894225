import ThreatHunt.Json.Decode
import ThreatHunt.Proofs.Json.Writing
import ThreatHunt.Proofs.Table.Union

/-!
Decoders of typed documents take back what was written. Each combinator has a law: where its parts
are taken back, so is the whole.
-/

namespace ThreatHunt.Json

open Outcome (bind_eq_ok mapM_eq_ok)

theorem ofJson_arr (items : List Json) :
    Node.ofJson (.arr items) = .array (Node.ofItems items) none (.closed none) := rfl

theorem ofJson_obj (fields : List (String × Json)) :
    Node.ofJson (.obj fields) = .object (Node.ofFields fields) none (.closed none) := rfl

mutual

/-- A tree without places has the value that it was made of, in the order of its names. -/
theorem value_ofJson (j : Json) : (Node.ofJson j).value = .ok j.ordered := by
  cases j with
  | arr items =>
    rw [ofJson_arr, Node.value, values_ofItems items, ordered]
    rfl
  | obj fields =>
    rw [ofJson_obj, Node.value, fieldValues_ofFields fields, ordered]
    rfl
  | null | bool | int | float | str => rfl

theorem values_ofItems (items : List Json) :
    Node.values (Node.ofItems items) = .ok (orderedItems items) := by
  cases items with
  | nil => rfl
  | cons item rest =>
    rw [Node.ofItems, Node.values, value_ofJson item, values_ofItems rest, orderedItems]
    rfl

theorem fieldValues_ofFields (fields : List (String × Json)) :
    Node.fieldValues (Node.ofFields fields) = .ok (orderedFields fields) := by
  cases fields with
  | nil => rfl
  | cons f rest =>
    rw [Node.ofFields, Node.fieldValues, value_ofJson f.2, fieldValues_ofFields rest, orderedFields]
    rfl

end

theorem orderedItems_eq (items : List Json) : orderedItems items = items.map ordered := by
  induction items with
  | nil => rfl
  | cons item rest ih => rw [orderedItems, ih, List.map_cons]

theorem orderedFields_eq (fields : List (String × Json)) :
    orderedFields fields = fields.map (fun f => (f.1, f.2.ordered)) := by
  induction fields with
  | nil => rfl
  | cons f rest ih => rw [orderedFields, ih, List.map_cons]

theorem ofItems_eq (items : List Json) : Node.ofItems items = items.map Node.ofJson := by
  induction items with
  | nil => rfl
  | cons item rest ih => rw [Node.ofItems, ih, List.map_cons]

theorem ofFields_eq (fields : List (String × Json)) :
    Node.ofFields fields = fields.map (fun f => (.name f.1 none none, Node.ofJson f.2, none)) := by
  induction fields with
  | nil => rfl
  | cons f rest ih => rw [Node.ofFields, ih, List.map_cons]

/-! Sorting what is sorted. -/

/-- Fields whose names ascend. -/
def Ascending (fields : List (String × Json)) : Prop := fields.Pairwise (fun f g => f.1 < g.1)

theorem insertField_append {fields : List (String × Json)} {name : String} (value : Json)
    (below : ∀ f ∈ fields, f.1 < name) :
    insertField name value fields = fields ++ [(name, value)] := by
  induction fields with
  | nil => rfl
  | cons f rest ih =>
    obtain ⟨first, others⟩ := List.forall_mem_cons.1 below
    rw [insertField, if_neg (String.lt_asymm first),
      if_neg (fun same => String.lt_irrefl _ (same ▸ first)), ih others, List.cons_append]

theorem sortFields_of_ascending {fields : List (String × Json)} (ascending : Ascending fields) :
    sortFields fields = fields := by
  have folded : ∀ front rest : List (String × Json), Ascending (front ++ rest) →
      rest.foldl (fun sorted f => insertField f.1 f.2 sorted) front = front ++ rest := by
    intro front rest
    induction rest generalizing front with
    | nil => simp
    | cons f rest ih =>
      intro all
      have below : ∀ g ∈ front, g.1 < f.1 := fun g member =>
        (List.pairwise_append.1 all).2.2 g member f (List.mem_cons_self ..)
      rw [List.foldl_cons, insertField_append f.2 below, ih _ (by simpa using all)]
      simp
  exact folded [] fields ascending

namespace Decoder

variable {α β γ : Type}

/-- Whether a decoder takes a value back from the tree that a reader makes of its text. -/
def Restores (decoder : Decoder α) (encode : α → Json) (a : α) : Prop :=
  decoder.decodeJson (encode a).ordered = .ok a

theorem restores_str (s : String) : str.Restores .str s := by
  rw [Restores, ordered]
  rfl

/-- Items that are taken back one by one are taken back as a list. -/
theorem restores_list {item : Decoder α} {encode : α → Json} {as : List α}
    (each : ∀ a ∈ as, item.Restores encode a) :
    (list item).Restores (fun as => .arr (as.map encode)) as := by
  have items : (Node.ofItems (orderedItems (as.map encode))).mapM item = .ok as := by
    rw [ofItems_eq, orderedItems_eq, List.map_map, List.map_map]
    exact mapM_eq_ok.2 (List.forall₂_map_left_iff.2 (List.forall₂_same.2 each))
  rw [Restores, ordered, decodeJson, ofJson_arr]
  exact bind_eq_ok.2 ⟨as, items, rfl⟩

/-- Values that are taken back one by one are taken back under their names. -/
theorem restores_dict {value : Decoder α} {encode : α → Json} {d : Dict α}
    (each : ∀ e ∈ d.entries, value.Restores encode e.2) :
    (dict value).Restores (fun d => .obj (d.entries.map (fun e => (e.1, encode e.2)))) d := by
  have fields : orderedFields (d.entries.map (fun e => (e.1, encode e.2))) =
      d.entries.map (fun e => (e.1, (encode e.2).ordered)) := by
    rw [orderedFields_eq, List.map_map]
    rfl
  have ascending : Ascending (d.entries.map (fun e => (e.1, (encode e.2).ordered))) :=
    List.pairwise_map.2 d.sorted
  have entries : (Node.ofFields (d.entries.map (fun e => (e.1, (encode e.2).ordered)))).mapM
      (fun f => do
        let name ← f.1.text
        let v ← value f.2.1
        return (name, v)) = .ok d.entries := by
    rw [ofFields_eq, List.map_map]
    refine mapM_eq_ok.2 (List.forall₂_map_left_iff.2 (List.forall₂_same.2 (fun e member => ?_)))
    exact bind_eq_ok.2 ⟨e.1, rfl, bind_eq_ok.2 ⟨e.2, each e member, rfl⟩⟩
  rw [Restores, ordered, fields, sortFields_of_ascending ascending, decodeJson, ofJson_obj]
  exact bind_eq_ok.2 ⟨d.entries, entries, congrArg Except.ok d.ofList_entries⟩

/-- What is not written as null is taken back where something may be missing. -/
theorem option_decodeJson {value : Decoder α} {j : Json} {a : α} (given : j ≠ .null)
    (taken : value.decodeJson j = .ok a) : (option value).decodeJson j = .ok (some a) := by
  have something : (option value).decodeJson j = some <$> value.decodeJson j := by
    unfold decodeJson option
    cases j <;> first | rfl | exact absurd rfl given
  rw [something, taken]
  rfl

/-! Records. -/

variable {fields : List (Field β)} {seen : List String} {start found : β}

theorem put_field {name : String} {value : Decoder γ} {set : γ → β → β} {j : Json} {c : γ}
    (taken : value.decodeJson j = .ok c) :
    (field name value set).put (Node.ofJson j) start = .ok (set c start) :=
  congrArg (Except.map (fun v => set v start)) taken

theorem put_fieldOr {name : String} {value : Decoder γ} {set : γ → β → β} {j : Json} {c : γ}
    (taken : value.decodeJson j = .ok c) :
    (fieldOr name value set).put (Node.ofJson j) start = .ok (set c start) :=
  congrArg (Except.map (fun v => set v start)) taken

/-- A field that the record has and that was not seen before is put into it. -/
theorem objectFields_cons {f : Field β} {name : String} {j : Json} {rest : List (String × Json)}
    (known : fields.find? (fun g => g.name == name) = some f) (fresh : name ∉ seen)
    (put : f.put (Node.ofJson j) start = .ok found) :
    objectFields fields seen start (Node.ofFields ((name, j) :: rest)) =
      objectFields fields (name :: seen) found (Node.ofFields rest) := by
  rw [Node.ofFields, objectFields, known]
  simp only [List.contains_iff_mem, fresh, if_false, put]
  rfl

/-- An object with all fields that a record needs is taken as the record. -/
theorem record_decodeJson {name : String} {given : List (String × Json)} (seen : List String)
    (taken : objectFields fields [] start (Node.ofFields given) = .ok (found, seen))
    (complete : ∀ f ∈ fields, f.name ∈ seen) :
    (record name fields start).decodeJson (.obj given) = .ok found := by
  have none : fields.find? (fun f => !f.optional && !seen.contains f.name) = none := by
    simpa using fun f member _ => complete f member
  rw [decodeJson, ofJson_obj]
  refine bind_eq_ok.2 ⟨(found, seen), taken, ?_⟩
  simp only [none]
  rfl

end Decoder
end ThreatHunt.Json
