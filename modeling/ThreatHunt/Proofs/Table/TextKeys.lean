import ThreatHunt.Proofs.Table.Grouping

/-!
Keys of texts. The parts of a key stand between separators, and texts may hold the separator too. So
rows of texts and nulls that differ have different keys, unless in one place, and not in the last,
the text of one row goes on from that of the other with a separator and what is a key itself.
-/

namespace ThreatHunt

open Table (keySeparator)

namespace Value

variable {v w : Value} {vs ws : List Value} {cs more : List Char}

inductive IsText : Value → Prop where
  | null : IsText .null
  | str (s : String) : IsText (.str s)

/-- The part of a key that a value gives. -/
def groupPart (v : Value) : String := v.matchKey?.getD "null"

/-- The key of values. -/
def keyOf (vs : List Value) : String := keySeparator.intercalate (vs.map groupPart)

/-- Whether a text goes on from another one with the key of texts and nulls. -/
inductive Swallows : Value → Value → Prop where
  | key {us : List Value} (s : String) (some : us ≠ []) (texts : ∀ u ∈ us, IsText u) :
      Swallows (.str (s ++ keySeparator ++ keyOf us)) (.str s)

/-- Whether a key cannot tell two values apart for what may stand behind them. -/
def Blends (v w : Value) : Prop := Swallows v w ∨ Swallows w v

theorem groupPart_str (s : String) :
    (Value.str s).groupPart.toList = "Str:".toList ++ s.toList := by
  rw [← String.toList_append]
  rfl

theorem groupPart_null : Value.null.groupPart.toList = "null".toList := rfl

/-- The parts of values, each behind a separator. -/
def furtherParts : List Value → List Char
  | [] => []
  | v :: vs => '\u001f' :: (v.groupPart.toList ++ furtherParts vs)

theorem furtherParts_append (vs ws : List Value) :
    furtherParts (vs ++ ws) = furtherParts vs ++ furtherParts ws := by
  induction vs with
  | nil => rfl
  | cons v vs ih => simp only [List.cons_append, furtherParts, ih, List.append_assoc]

theorem toList_keyOf (v : Value) (vs : List Value) :
    (keyOf (v :: vs)).toList = v.groupPart.toList ++ furtherParts vs := by
  rw [keyOf, String.toList_intercalate]
  induction vs generalizing v with
  | nil => simp [furtherParts]
  | cons next rest ih =>
    have step := ih next
    simp only [List.map_cons, List.intercalate_cons_cons, furtherParts] at step ⊢
    rw [step, List.append_assoc]
    rfl

theorem furtherParts_eq (some : vs ≠ []) : furtherParts vs = '\u001f' :: (keyOf vs).toList := by
  cases vs with
  | nil => exact absurd rfl some
  | cons v vs => rw [toList_keyOf, furtherParts]

theorem IsText.groupPart_injective (first : v.IsText) (second : w.IsText)
    (same : v.groupPart.toList = w.groupPart.toList) : v = w := by
  cases first with
  | null =>
    cases second with
    | null => rfl
    | str t =>
      rw [groupPart_str] at same
      exact absurd (List.cons.inj same).1 (by decide)
  | str s =>
    cases second with
    | null =>
      rw [groupPart_str] at same
      exact absurd (List.cons.inj same).1 (by decide)
    | str t =>
      rw [groupPart_str, groupPart_str] at same
      exact congrArg Value.str (String.toList_inj.1 (List.append_cancel_left same))

/-- A text up to a separator begins with what stands in its place and holds no separator. -/
theorem exists_append_of_append_eq {front rest : List Char} (free : '\u001f' ∉ front)
    (same : cs ++ '\u001f' :: more = front ++ rest) :
    ∃ left, cs = front ++ left ∧ left ++ '\u001f' :: more = rest := by
  rcases List.append_eq_append_iff.1 same with ⟨left, whole, behind⟩ | ⟨left, whole, behind⟩
  · cases left with
    | nil => exact ⟨[], by simpa using whole.symm, behind⟩
    | cons c left =>
      rw [← (List.cons.inj behind).1] at whole
      refine absurd ?_ free
      rw [whole]
      exact List.mem_append_right cs (List.mem_cons_self ..)
  · exact ⟨left, whole, behind.symm⟩

/-- Whether characters are the key of texts and nulls. -/
def IsKey (cs : List Char) : Prop :=
  ∃ us, us ≠ [] ∧ (∀ u ∈ us, IsText u) ∧ cs = (keyOf us).toList

theorem IsText.isKey (text : v.IsText) : IsKey v.groupPart.toList := by
  refine ⟨[v], List.cons_ne_nil v [], ?_, ?_⟩
  · intro u member
    exact List.mem_singleton.1 member ▸ text
  · rw [toList_keyOf, furtherParts, List.append_nil]

theorem IsKey.cons (text : v.IsText) (key : IsKey cs) :
    IsKey (v.groupPart.toList ++ '\u001f' :: cs) := by
  obtain ⟨us, some, texts, rfl⟩ := key
  refine ⟨v :: us, List.cons_ne_nil v us, ?_, ?_⟩
  · exact List.forall_mem_cons.2 ⟨text, texts⟩
  · rw [toList_keyOf, furtherParts_eq some]

theorem isKey_of_str {rest : List Char} (same : cs ++ '\u001f' :: more = "Str:".toList ++ rest) :
    IsKey cs := by
  obtain ⟨left, rfl, -⟩ := exists_append_of_append_eq (by decide) same
  have written : (String.ofList left).toList = left := String.toList_ofList
  have key := (IsText.str (String.ofList left)).isKey
  rwa [groupPart_str, written] at key

/-- What stands before further parts in the place of a key is a key itself. -/
theorem isKey_of_append_eq (first : v.IsText) (texts : ∀ u ∈ vs, IsText u)
    (same : cs ++ '\u001f' :: more = v.groupPart.toList ++ furtherParts vs) : IsKey cs := by
  induction vs generalizing v cs with
  | nil =>
    cases first with
    | str s =>
      rw [groupPart_str, List.append_assoc] at same
      exact isKey_of_str same
    | null =>
      obtain ⟨left, rfl, behind⟩ := exists_append_of_append_eq (by decide) same
      exact absurd behind (by simp [furtherParts])
  | cons next rest ih =>
    cases first with
    | str s =>
      rw [groupPart_str, List.append_assoc] at same
      exact isKey_of_str same
    | null =>
      obtain ⟨left, rfl, behind⟩ := exists_append_of_append_eq (by decide) same
      cases left with
      | nil => exact IsText.null.isKey
      | cons c left =>
        obtain ⟨rfl, later⟩ := List.cons.inj behind
        obtain ⟨text, texts⟩ := List.forall_mem_cons.1 texts
        exact (ih text texts later).cons .null

/-- A part that goes on from another one with a key is that of a text that swallows it. -/
theorem swallows_of_groupPart (first : v.IsText) (second : w.IsText) (key : IsKey cs)
    (same : w.groupPart.toList = v.groupPart.toList ++ '\u001f' :: cs) : Swallows w v := by
  obtain ⟨us, some, texts, rfl⟩ := key
  cases second with
  | null =>
    cases first with
    | null => simp [groupPart_null] at same
    | str s =>
      rw [groupPart_str, groupPart_null] at same
      exact absurd (List.cons.inj same).1 (by decide)
  | str t =>
    cases first with
    | null =>
      rw [groupPart_str, groupPart_null] at same
      exact absurd (List.cons.inj same).1 (by decide)
    | str s =>
      rw [groupPart_str, groupPart_str, List.append_assoc] at same
      have whole : t = s ++ keySeparator ++ keyOf us := by
        apply String.toList_inj.1
        rw [List.append_cancel_left same, String.toList_append, String.toList_append,
          List.append_assoc]
        rfl
      exact whole ▸ .key s some texts

/-- What is swallowed begins as a text or a null. -/
theorem Swallows.of_str {s t : String} (swallows : Swallows (.str t) (.str s)) :
    ∃ c rest, (c = 'S' ∨ c = 'n') ∧ t.toList = s.toList ++ '\u001f' :: c :: rest := by
  generalize whole : Value.str t = long at swallows
  generalize part : Value.str s = short at swallows
  obtain @⟨us, s', some, texts⟩ := swallows
  obtain rfl := Value.str.inj whole
  obtain rfl := Value.str.inj part
  cases us with
  | nil => exact absurd rfl some
  | cons u us =>
    have written : (s ++ keySeparator ++ keyOf (u :: us)).toList =
        s.toList ++ '\u001f' :: (u.groupPart.toList ++ furtherParts us) := by
      rw [String.toList_append, String.toList_append, toList_keyOf, List.append_assoc]
      rfl
    cases texts u (List.mem_cons_self ..) with
    | null => exact ⟨'n', _, .inr rfl, written⟩
    | str front =>
      rw [groupPart_str] at written
      exact ⟨'S', _, .inl rfl, written⟩

theorem Blends.symm (blends : Blends v w) : Blends w v := Or.symm blends

/-- Where the values do not blend the part of one does not go on from that of the other. -/
theorem eq_of_append (first : v.IsText) (second : w.IsText) (clear : ¬Blends v w)
    (texts : ∀ u ∈ vs, IsText u) (some : ws ≠ [])
    (part : w.groupPart.toList = v.groupPart.toList ++ cs)
    (rest : furtherParts vs = cs ++ furtherParts ws) :
    v = w ∧ furtherParts vs = furtherParts ws := by
  cases cs with
  | nil =>
    rw [List.append_nil] at part
    exact ⟨first.groupPart_injective second part.symm, rest⟩
  | cons c cs =>
    -- What goes on would stand behind a separator in the place of a key.
    cases vs with
    | nil => exact absurd rest (List.cons_ne_nil _ _).symm
    | cons next vs =>
      obtain ⟨rfl, same⟩ := List.cons.inj rest
      obtain ⟨text, texts⟩ := List.forall_mem_cons.1 texts
      rw [furtherParts_eq some] at same
      have key : IsKey cs := isKey_of_append_eq text texts same.symm
      exact absurd (.inr (swallows_of_groupPart first second key part)) clear

variable {α : Type} {attrs : List α} {mine its : α → Value}

/-- Nothing stands behind the part of the last value, so that this may be any text. -/
theorem eq_of_furtherParts (texts : ∀ a ∈ attrs, (mine a).IsText)
    (texts' : ∀ a ∈ attrs, (its a).IsText) (clear : ∀ a ∈ attrs.dropLast, ¬Blends (mine a) (its a))
    (same : furtherParts (attrs.map mine) = furtherParts (attrs.map its)) :
    attrs.map mine = attrs.map its := by
  induction attrs with
  | nil => rfl
  | cons a rest ih =>
    obtain ⟨text, later⟩ := List.forall_mem_cons.1 texts
    obtain ⟨text', later'⟩ := List.forall_mem_cons.1 texts'
    have parts := (List.cons.inj same).2
    cases rest with
    | nil =>
      simp only [List.map_nil, furtherParts, List.append_nil] at parts
      rw [List.map_singleton, List.map_singleton, text.groupPart_injective text' parts]
    | cons b rest =>
      obtain ⟨apart, others⟩ := List.forall_mem_cons.1 clear
      have further : ∀ f : α → Value, (b :: rest).map f ≠ [] := fun _ => List.cons_ne_nil _ _
      have values : mine a = its a ∧
          furtherParts ((b :: rest).map mine) = furtherParts ((b :: rest).map its) := by
        rcases List.append_eq_append_iff.1 parts with ⟨cs, part, behind⟩ | ⟨cs, part, behind⟩
        · have all : ∀ u ∈ (b :: rest).map mine, IsText u := List.forall_mem_map.2 later
          exact eq_of_append text text' apart all (further its) part behind
        · have all : ∀ u ∈ (b :: rest).map its, IsText u := List.forall_mem_map.2 later'
          have apart' : ¬Blends (its a) (mine a) := fun blends => apart blends.symm
          have swapped := eq_of_append text' text apart' all (further mine) part behind
          exact ⟨swapped.1.symm, swapped.2.symm⟩
      calc (a :: b :: rest).map mine
        _ = mine a :: (b :: rest).map mine := rfl
        _ = its a :: (b :: rest).map its := by rw [values.1, ih later later' others values.2]
        _ = (a :: b :: rest).map its := rfl

theorem map_eq_of_keyOf (texts : ∀ a ∈ attrs, (mine a).IsText)
    (texts' : ∀ a ∈ attrs, (its a).IsText) (clear : ∀ a ∈ attrs.dropLast, ¬Blends (mine a) (its a))
    (same : keyOf (attrs.map mine) = keyOf (attrs.map its)) : attrs.map mine = attrs.map its := by
  cases attrs with
  | nil => rfl
  | cons a rest =>
    have some : ∀ f : α → Value, (a :: rest).map f ≠ [] := fun _ => List.cons_ne_nil _ _
    apply eq_of_furtherParts texts texts' clear
    rw [furtherParts_eq (some mine), furtherParts_eq (some its), same]

/-- A text and one that it swallows stand in front of texts and nulls with which they have one
key. -/
theorem Swallows.exists_keyOf_eq (swallows : Swallows v w) :
    ∃ vs ws, vs.length = ws.length ∧ vs ≠ [] ∧ (∀ u ∈ v :: vs, IsText u) ∧
      (∀ u ∈ w :: ws, IsText u) ∧ keyOf (v :: vs) = keyOf (w :: ws) := by
  obtain @⟨us, s, some, texts⟩ := swallows
  -- The shorter text has the values that were swallowed behind it, and a text that swallows as
  -- many nulls makes up for these.
  let nulls : List Value := us.map (fun _ => .null)
  let filler : Value := .str (String.ofList (furtherParts nulls))
  have isNull : ∀ u ∈ nulls, IsText u := by
    intro u member
    obtain ⟨-, -, rfl⟩ := List.mem_map.1 member
    exact .null
  refine ⟨.str "" :: nulls, us ++ [filler], by simp [nulls], List.cons_ne_nil _ _, ?_, ?_, ?_⟩
  · exact List.forall_mem_cons.2 ⟨.str _, List.forall_mem_cons.2 ⟨.str "", isNull⟩⟩
  · refine List.forall_mem_cons.2 ⟨.str s, List.forall_mem_append.2 ⟨texts, ?_⟩⟩
    exact List.forall_mem_singleton.2 (.str _)
  · have written : filler.groupPart.toList = "Str:".toList ++ furtherParts nulls :=
      (groupPart_str _).trans (congrArg _ String.toList_ofList)
    apply String.toList_inj.1
    rw [toList_keyOf, toList_keyOf, furtherParts_append, furtherParts_eq some, furtherParts,
      furtherParts, furtherParts, written, groupPart_str, groupPart_str, groupPart_str]
    simp [keySeparator]

theorem Blends.exists_keyOf_eq (blends : Blends v w) :
    ∃ vs ws, vs.length = ws.length ∧ vs ≠ [] ∧ (∀ u ∈ v :: vs, IsText u) ∧
      (∀ u ∈ w :: ws, IsText u) ∧ keyOf (v :: vs) = keyOf (w :: ws) := by
  rcases blends with swallows | swallows
  · exact swallows.exists_keyOf_eq
  · obtain ⟨vs, ws, long, some, texts, texts', same⟩ := swallows.exists_keyOf_eq
    have some' : ws ≠ [] := by
      rw [← List.length_pos_iff, ← long]
      exact List.length_pos_iff.2 some
    exact ⟨ws, vs, long.symm, some', texts', texts, same.symm⟩

end Value

namespace Table

open Value (IsText Blends keyOf)

variable {attrs : List String} {row other : Entity}

theorem groupKey_eq_keyOf (attrs : List String) (row : Entity) :
    groupKey attrs row = keyOf (attrs.map row.valueOf) := by
  rw [keyOf, List.map_map]
  rfl

/-- An attribute for the value at a place. -/
def placeName (i : Nat) : String := String.ofList (List.replicate i 'a')

theorem placeName_injective : Function.Injective placeName := by
  intro i j same
  simpa using congrArg List.length (String.ofList_injective same)

/-- A row of values under names of their own. -/
def rowOfValues (values : List Value) : Entity :=
  ⟨"", Dict.ofList (values.zipIdx.map (fun e => (placeName e.2, e.1)))⟩

theorem valueOf_rowOfValues (values : List Value) (i : Nat) (inside : i < values.length) :
    (rowOfValues values).valueOf (placeName i) = values[i] := by
  have found : (rowOfValues values).attributes.find? (placeName i) = some values[i] := by
    apply Dict.find?_ofList_of_mem
    · have names : (values.zipIdx.map (fun e => (placeName e.2, e.1))).map Prod.fst =
          (values.zipIdx.map Prod.snd).map placeName := by
        rw [List.map_map, List.map_map]
        rfl
      rw [names, List.zipIdx_map_snd]
      exact (List.nodup_range' 1).map placeName_injective
    · exact List.mem_map.2 ⟨(values[i], i), List.mk_mem_zipIdx_iff_getElem?.2 (by simp), rfl⟩
  rw [Entity.valueOf, found]

theorem exists_rows {vs ws : List Value} (long : vs.length = ws.length) :
    ∃ (attrs : List String) (row other : Entity),
      attrs.map row.valueOf = vs ∧ attrs.map other.valueOf = ws := by
  refine ⟨(List.range vs.length).map placeName, rowOfValues vs, rowOfValues ws, ?_, ?_⟩
  · apply List.ext_getElem
    · simp
    · intro i _ inside
      simp [valueOf_rowOfValues _ _ inside]
  · apply List.ext_getElem
    · simp [long]
    · intro i _ inside
      simp [valueOf_rowOfValues _ _ inside]

/-- Rows of texts and nulls have one key if they have the same values, unless values of them blend
in front of others. -/
theorem groupKey_eq_iff_of_texts (texts : ∀ a ∈ attrs, (row.valueOf a).IsText)
    (texts' : ∀ a ∈ attrs, (other.valueOf a).IsText)
    (clear : ∀ a ∈ attrs.dropLast, ¬Blends (row.valueOf a) (other.valueOf a)) :
    groupKey attrs row = groupKey attrs other ↔
      ∀ a ∈ attrs, row.valueOf a = other.valueOf a := by
  rw [groupKey_eq_keyOf, groupKey_eq_keyOf, ← List.map_inj_left]
  constructor
  · exact Value.map_eq_of_keyOf texts texts' clear
  · exact congrArg keyOf

/-- A text with a separator and a shorter one that it goes on from are told from each other, where
what stands behind the separator is no key. The last values may be any texts. -/
theorem groupKey_eq_iff_of_texts_extended :
    let attrs := ["name", "user"]
    let row : Entity :=
      ⟨"p1", Dict.ofList [("name", .str "x\u001fy"), ("user", .str "u\u001fStr:v")]⟩
    let other : Entity := ⟨"p2", Dict.ofList [("name", .str "x"), ("user", .str "u")]⟩
    (∀ a ∈ attrs, (row.valueOf a).IsText) ∧ (∀ a ∈ attrs, (other.valueOf a).IsText) ∧
      (∀ a ∈ attrs.dropLast, ¬Blends (row.valueOf a) (other.valueOf a)) ∧
      (groupKey attrs row = groupKey attrs other ↔
        ∀ a ∈ attrs, row.valueOf a = other.valueOf a) := by
  intro attrs row other
  have texts : ∀ a ∈ attrs, (row.valueOf a).IsText :=
    List.forall_mem_cons.2 ⟨.str "x\u001fy", List.forall_mem_singleton.2 (.str "u\u001fStr:v")⟩
  have texts' : ∀ a ∈ attrs, (other.valueOf a).IsText :=
    List.forall_mem_cons.2 ⟨.str "x", List.forall_mem_singleton.2 (.str "u")⟩
  have name : ¬Blends (.str "x\u001fy") (.str "x") := by
    rintro (swallows | swallows)
    · obtain ⟨c, rest, first, written⟩ := swallows.of_str
      have second : c = 'y' := (List.cons.inj (List.cons.inj (List.cons.inj written).2).2).1.symm
      rw [second] at first
      exact absurd first (by decide)
    · obtain ⟨c, rest, -, written⟩ := swallows.of_str
      exact absurd (List.cons.inj written).2 (List.cons_ne_nil _ _).symm
  have clear : ∀ a ∈ attrs.dropLast, ¬Blends (row.valueOf a) (other.valueOf a) :=
    List.forall_mem_singleton.2 name
  exact ⟨texts, texts', clear, groupKey_eq_iff_of_texts texts texts' clear⟩

/-- Two rows of texts that differ in both attributes have one key. -/
theorem groupKey_eq_of_texts_apart :
    ¬∀ (attrs : List String) (row other : Entity), (∀ a ∈ attrs, (row.valueOf a).IsText) →
      (∀ a ∈ attrs, (other.valueOf a).IsText) →
      (groupKey attrs row = groupKey attrs other ↔
        ∀ a ∈ attrs, row.valueOf a = other.valueOf a) := by
  intro exact
  let row : Entity := ⟨"p1", Dict.ofList [("name", .str "x\u001fStr:y"), ("user", .str "z")]⟩
  let other : Entity := ⟨"p2", Dict.ofList [("name", .str "x"), ("user", .str "y\u001fStr:z")]⟩
  have texts : ∀ a ∈ ["name", "user"], (row.valueOf a).IsText :=
    List.forall_mem_cons.2 ⟨.str "x\u001fStr:y", List.forall_mem_singleton.2 (.str "z")⟩
  have texts' : ∀ a ∈ ["name", "user"], (other.valueOf a).IsText :=
    List.forall_mem_cons.2 ⟨.str "x", List.forall_mem_singleton.2 (.str "y\u001fStr:z")⟩
  have keys : groupKey ["name", "user"] row = groupKey ["name", "user"] other := by decide
  have values := (exact ["name", "user"] row other texts texts').1 keys "name" (by decide)
  exact absurd (Value.str.inj values) (by decide)

/-- Values that blend do stand, in front of others, in rows of texts and nulls that have one key. -/
theorem exists_groupKey_eq_of_blends {v w : Value} (blends : Blends v w) :
    ∃ attrs row other, (∀ a ∈ attrs, (row.valueOf a).IsText) ∧
      (∀ a ∈ attrs, (other.valueOf a).IsText) ∧ groupKey attrs row = groupKey attrs other ∧
      ∃ a ∈ attrs.dropLast, row.valueOf a = v ∧ other.valueOf a = w := by
  obtain ⟨vs, ws, long, some, texts, texts', same⟩ := blends.exists_keyOf_eq
  have long' : (v :: vs).length = (w :: ws).length := congrArg Nat.succ long
  obtain ⟨attrs, row, other, first, second⟩ := exists_rows long'
  refine ⟨attrs, row, other, ?_, ?_, ?_, ?_⟩
  · intro a member
    apply texts
    rw [← first]
    exact List.mem_map_of_mem member
  · intro a member
    apply texts'
    rw [← second]
    exact List.mem_map_of_mem member
  · rw [groupKey_eq_keyOf, groupKey_eq_keyOf, first, second, same]
  · obtain ⟨a, rest, rfl, here, further⟩ := List.map_eq_cons_iff.1 first
    have behind : rest ≠ [] := by
      rintro rfl
      exact some further.symm
    refine ⟨a, ?_, here, (List.cons.inj second).1⟩
    rw [List.dropLast_cons_of_ne_nil behind]
    exact List.mem_cons_self ..

end Table
end ThreatHunt
