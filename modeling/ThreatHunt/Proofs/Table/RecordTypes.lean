import ThreatHunt.Proofs.Table.RecordKeys

/-!
The type that records name. Records are looked at one after another, and both a record that names
no type and a second type end this. So the order of records makes no difference, except where both
occur: there it decides whether the records are refused or get the generic type.
-/

namespace ThreatHunt.Records

variable {record : Json} {records front rest : List Json} {found : Option String}
  {named more : List (Option String)} {first t type : String}

/-- The types that records name; there is none for a record that names no type. -/
def names (records : List Json) : List (Option String) :=
  records.map (fun record => record.strField? typeField)

theorem names_cons (record : Json) (rest : List Json) :
    names (record :: rest) = record.strField? typeField :: names rest :=
  List.map_cons ..

/-- Whether two different types are named. -/
def Mixed (named : List (Option String)) : Prop :=
  ∃ s t, some s ∈ named ∧ some t ∈ named ∧ s ≠ t

theorem Mixed.mono (mixed : Mixed named) (included : ∀ s, some s ∈ named → some s ∈ more) :
    Mixed more := by
  obtain ⟨s, t, here, there, apart⟩ := mixed
  exact ⟨s, t, included s here, included t there, apart⟩

theorem eq_of_not_mixed (alike : ¬Mixed named) (here : some first ∈ named)
    (there : some t ∈ named) : first = t := by
  by_contra apart
  exact alike ⟨first, t, here, there, apart⟩

/-! One record more. -/

theorem commonType_unnamed (own : record.strField? typeField = none) :
    commonType found (record :: rest) = .ok none := by
  simp only [commonType, own]

theorem commonType_first (own : record.strField? typeField = some t) :
    commonType none (record :: rest) = commonType (some t) rest := by
  simp only [commonType, own]

theorem commonType_same (own : record.strField? typeField = some t) :
    commonType (some t) (record :: rest) = commonType (some t) rest := by
  simp only [commonType, own, if_pos]

theorem commonType_other (own : record.strField? typeField = some t) (apart : first ≠ t) :
    commonType (some first) (record :: rest) = .error (.mixedTypes first t) := by
  simp only [commonType, own, if_neg apart]

/-! Whole lists. -/

/-- Records that all name one type have it. -/
theorem commonType_of_uniform (uniform : ∀ name ∈ names records, name = some t) :
    commonType (some t) records = .ok (some t) := by
  induction records with
  | nil => rfl
  | cons record rest ih =>
    rw [names_cons] at uniform
    obtain ⟨own, others⟩ := List.forall_mem_cons.1 uniform
    rw [commonType_same own, ih others]

/-- Where no two types are named, one record without a type is enough. -/
theorem commonType_of_unnamed (unnamed : none ∈ names records)
    (alike : ¬Mixed (found :: names records)) : commonType found records = .ok none := by
  induction records generalizing found with
  | nil => exact absurd unnamed List.not_mem_nil
  | cons record rest ih =>
    cases own : record.strField? typeField with
    | none => exact commonType_unnamed own
    | some t =>
      rw [names_cons, own] at unnamed alike
      have later : none ∈ names rest := (List.mem_cons.1 unnamed).resolve_left nofun
      have others : ¬Mixed (some t :: names rest) :=
        mt (Mixed.mono · (fun _ => List.mem_cons_of_mem _)) alike
      cases found with
      | none => rw [commonType_first own, ih later others]
      | some first =>
        obtain rfl : first = t := eq_of_not_mixed alike (by simp) (by simp)
        rw [commonType_same own, ih later others]

/-- Two types are refused, unless a record without a type stands before the second. -/
theorem commonType_of_mixed (allNamed : none ∉ names front)
    (mixed : Mixed (found :: names front)) :
    ∃ trouble, commonType found (front ++ rest) = .error trouble := by
  induction front generalizing found with
  | nil =>
    obtain ⟨s, t, here, there, apart⟩ := mixed
    have same := (List.mem_singleton.1 here).trans (List.mem_singleton.1 there).symm
    exact absurd (Option.some.inj same) apart
  | cons record front ih =>
    rw [names_cons, List.mem_cons, not_or] at allNamed
    obtain ⟨t, own⟩ := Option.ne_none_iff_exists'.1 (Ne.symm allNamed.1)
    rw [names_cons, own] at mixed
    rw [List.cons_append]
    cases found with
    | none =>
      rw [commonType_first own]
      exact ih allNamed.2 (mixed.mono (fun s => by simp))
    | some first =>
      by_cases same : first = t
      · subst same
        rw [commonType_same own]
        exact ih allNamed.2 (mixed.mono (fun s => by simp))
      · exact ⟨_, commonType_other own same⟩

/-! Objects. -/

variable {objects others : List (List (String × Json))}

/-- The type with which records are typed that come without a given one, if they are not refused. -/
def typeOf? (records : List Json) : Option String := (typed none records).toOption.map Prod.fst

theorem typeOf?_of_refused {trouble : Trouble}
    (refused : commonType none records = .error trouble) : typeOf? records = none := by
  have typed : typed none records = .error trouble := by
    simp only [typed, refused, Functor.map, Except.map, bind, Except.bind]
  rw [typeOf?, typed]
  rfl

/-- Records behind two different types make no difference. -/
theorem typeOf?_of_mixed (allNamed : none ∉ names front) (mixed : Mixed (names front)) :
    typeOf? (front ++ rest) = none := by
  obtain ⟨trouble, refused⟩ : ∃ trouble, commonType none (front ++ rest) = .error trouble :=
    commonType_of_mixed allNamed (mixed.mono (fun _ => List.mem_cons_of_mem _))
  exact typeOf?_of_refused refused

/-- Objects are refused for the types that they name only. -/
theorem typeOf?_of_common (common : commonType none (objects.map .obj) = .ok found) :
    typeOf? (objects.map .obj) = some (found.getD genericType) := by
  have resolves : Resolves none (objects.map .obj) (found.getD genericType) := ⟨found, common, rfl⟩
  rw [typeOf?, typed_objects resolves]
  rfl

/-- Whether a type is the one that records share: the one that all of them name, or the generic one
where they name none or one of them does not. -/
structure Shares (named : List (Option String)) (type : String) : Prop where
  alike : ¬Mixed named
  common : none ∉ named → named ≠ [] → some type ∈ named
  generic : none ∈ named ∨ named = [] → type = genericType

theorem Shares.perm (shares : Shares named type) (perm : named.Perm more) : Shares more type where
  alike := mt (Mixed.mono · (fun _ => perm.mem_iff.2)) shares.alike
  common := fun all some =>
    perm.mem_iff.1 <| shares.common (mt perm.mem_iff.1 all) <| fun empty =>
      some (empty ▸ perm).nil_eq.symm
  generic := fun missing =>
    shares.generic (missing.imp perm.mem_iff.2 (fun empty => (empty ▸ perm).eq_nil))

theorem Shares.unique (shares : Shares named first) (more : Shares named t) : first = t := by
  by_cases missing : none ∈ named ∨ named = []
  · rw [shares.generic missing, more.generic missing]
  · obtain ⟨all, some⟩ := not_or.1 missing
    exact eq_of_not_mixed shares.alike (shares.common all some) (more.common all some)

/-- Records that do not name two types come to what they share. -/
theorem exists_common (alike : ¬Mixed (names records)) :
    ∃ found, commonType none records = .ok found ∧
      Shares (names records) (found.getD genericType) := by
  by_cases unnamed : none ∈ names records
  · refine ⟨none, commonType_of_unnamed unnamed (mt (Mixed.mono · (fun s => by simp)) alike), ?_⟩
    exact ⟨alike, fun all => absurd unnamed all, fun _ => rfl⟩
  · cases records with
    | nil => exact ⟨none, rfl, alike, fun _ some => absurd rfl some, fun _ => rfl⟩
    | cons record rest =>
      rw [names_cons] at alike unnamed ⊢
      obtain ⟨t, own⟩ : ∃ t, record.strField? typeField = some t :=
        Option.ne_none_iff_exists'.1 (fun missing => unnamed (missing ▸ List.mem_cons_self ..))
      rw [own] at alike unnamed ⊢
      have uniform : ∀ name ∈ names rest, name = some t := by
        intro name later
        cases name with
        | none => exact absurd (List.mem_cons_of_mem _ later) unnamed
        | some s =>
          rw [eq_of_not_mixed alike (List.mem_cons_of_mem _ later) (List.mem_cons_self ..)]
      refine ⟨some t, (commonType_first own).trans (commonType_of_uniform uniform), alike, ?_, ?_⟩
      · exact fun _ _ => List.mem_cons_self ..
      · exact fun missing => absurd missing (not_or.2 ⟨unnamed, List.cons_ne_nil _ _⟩)

/-- Objects have the type that they share, unless they name two types and one of them none. -/
theorem typeOf?_eq_some_iff
    (clear : ¬(none ∈ names (objects.map .obj) ∧ Mixed (names (objects.map .obj)))) :
    typeOf? (objects.map .obj) = some type ↔ Shares (names (objects.map .obj)) type := by
  by_cases mixed : Mixed (names (objects.map .obj))
  · have all : none ∉ names (objects.map .obj) := fun unnamed => clear ⟨unnamed, mixed⟩
    have refused : typeOf? (objects.map .obj ++ []) = none := typeOf?_of_mixed all mixed
    rw [List.append_nil] at refused
    rw [refused]
    exact iff_of_false nofun (fun shares => shares.alike mixed)
  · obtain ⟨found, common, shares⟩ := exists_common mixed
    rw [typeOf?_of_common common, Option.some_inj]
    exact ⟨fun same => same ▸ shares, shares.unique⟩

/-- An object without a type stands first in some order. -/
theorem exists_generic_order (unnamed : none ∈ names (objects.map .obj)) :
    ∃ others : List (List (String × Json)),
      others.Perm objects ∧ typeOf? (others.map .obj) = some genericType := by
  obtain ⟨_, among, own⟩ := List.mem_map.1 unnamed
  obtain ⟨fields, member, rfl⟩ := List.mem_map.1 among
  obtain ⟨before, after, rfl⟩ := List.append_of_mem member
  refine ⟨fields :: (before ++ after), List.perm_middle.symm, ?_⟩
  have common : commonType none ((fields :: (before ++ after)).map .obj) = .ok none :=
    commonType_unnamed own
  exact typeOf?_of_common common

/-- The objects that name types stand first in some order. -/
theorem exists_refused_order (mixed : Mixed (names (objects.map .obj))) :
    ∃ others : List (List (String × Json)),
      others.Perm objects ∧ typeOf? (others.map .obj) = none := by
  let typed := fun fields => ((Json.obj fields).strField? typeField).isSome
  refine ⟨_, List.filter_append_perm typed objects, ?_⟩
  have kept : names ((objects.filter typed).map .obj) =
      (names (objects.map .obj)).filter Option.isSome := by
    simp only [names, List.map_map, List.filter_map]
    rfl
  have allNamed : none ∉ names ((objects.filter typed).map .obj) := by
    rw [kept, List.mem_filter]
    exact fun unnamed => nomatch unnamed.2
  have stillMixed : Mixed (names ((objects.filter typed).map .obj)) := by
    rw [kept]
    exact mixed.mono (fun s member => List.mem_filter.2 ⟨member, rfl⟩)
  rw [List.map_append]
  exact typeOf?_of_mixed allNamed stillMixed

/-- The order of objects makes no difference to their type, just if they do not both name two types
and leave one out; then they have the type that they share, or are refused if they share none. -/
theorem typeOf?_any_order (objects : List (List (String × Json))) :
    ((∀ others : List (List (String × Json)), others.Perm objects →
        typeOf? (others.map .obj) = typeOf? (objects.map .obj)) ↔
      ¬(none ∈ names (objects.map .obj) ∧ Mixed (names (objects.map .obj)))) ∧
    (¬(none ∈ names (objects.map .obj) ∧ Mixed (names (objects.map .obj))) → ∀ type,
      typeOf? (objects.map .obj) = some type ↔ Shares (names (objects.map .obj)) type) := by
  refine ⟨⟨?_, fun clear others perm => ?_⟩, fun clear type => typeOf?_eq_some_iff clear⟩
  · rintro free ⟨unnamed, mixed⟩
    obtain ⟨first, perm, generic⟩ := exists_generic_order unnamed
    obtain ⟨last, perm', refused⟩ := exists_refused_order mixed
    rw [free first perm, ← free last perm', refused] at generic
    nomatch generic
  · have named : (names (others.map .obj)).Perm (names (objects.map .obj)) := (perm.map _).map _
    have clear' : ¬(none ∈ names (others.map .obj) ∧ Mixed (names (others.map .obj))) :=
      mt (And.imp named.mem_iff.1 (Mixed.mono · (fun _ => named.mem_iff.1))) clear
    refine Option.ext (fun type => ?_)
    rw [typeOf?_eq_some_iff clear', typeOf?_eq_some_iff clear]
    exact ⟨fun shares => shares.perm named, fun shares => shares.perm named.symm⟩

/-- Two types and an object without one are refused in one order and typed in another. -/
theorem typeOf?_differs_by_order :
    ¬∀ objects others : List (List (String × Json)), others.Perm objects →
      typeOf? (others.map .obj) = typeOf? (objects.map .obj) := by
  intro free
  let typed : List (List (String × Json)) :=
    [[("id", .str "1"), ("type", .str "process")], [("id", .str "2"), ("type", .str "file")]]
  let untyped : List (List (String × Json)) := [[("id", .str "3")]]
  have refused : typeOf? ((typed ++ untyped).map .obj) = none := typeOf?_of_refused rfl
  have unnamed : commonType none ((untyped ++ typed).map .obj) = .ok none := commonType_unnamed rfl
  have same := free (untyped ++ typed) (typed ++ untyped) List.perm_append_comm
  rw [refused, typeOf?_of_common unnamed] at same
  nomatch same

end ThreatHunt.Records
