import ThreatHunt.Proofs.Number.Text
import ThreatHunt.Proofs.Table.Partition
import ThreatHunt.Proofs.Table.Union
import ThreatHunt.Proofs.Time.Reading
import ThreatHunt.Storage.Tabular

/-!
Keys of whole records. Records without an identifier, and without what identifies the members of
their type, are one row if their keys are one. A key writes the values that are there as texts, each
behind its name, with marks between them; so it tells records apart, unless a name holds a mark, a
text goes on as the key of another record does, or two different values have one text.
-/

namespace ThreatHunt

namespace Entity

theorem get_of_mem {e : Entity} {name : String} {v : Value}
    (member : (name, v) ∈ e.attributes.entries) : e.get name = v := by
  rw [get, Dict.find?_of_mem member, Option.getD_some]

theorem mem_of_get {e : Entity} {name : String} (there : (e.get name).isNull = false) :
    (name, e.get name) ∈ e.attributes.entries := by
  cases found : e.attributes.find? name with
  | none => simp [get, found, Value.isNull] at there
  | some v =>
    have got : e.get name = v := by rw [get, found, Option.getD_some]
    exact got ▸ Dict.mem_of_find? found

/-- What a key shows of an entity: the texts of the values that are there. -/
def shown (e : Entity) : Dict String where
  entries := (e.attributes.entries.filter (fun a => !a.2.isNull)).map (fun a => (a.1, a.2.render))
  sorted := List.pairwise_map.2 (e.attributes.sorted.sublist List.filter_sublist)

theorem find?_shown {e : Entity} {name text : String} :
    e.shown.find? name = some text ↔
      (e.get name).isNull = false ∧ (e.get name).render = text := by
  constructor
  · intro found
    obtain ⟨⟨_, v⟩, kept, same⟩ := List.mem_map.1 (Dict.mem_of_find? found)
    obtain ⟨rfl, rfl⟩ := Prod.mk.inj same
    obtain ⟨member, there⟩ := List.mem_filter.1 kept
    rw [get_of_mem member]
    exact ⟨by simpa using there, rfl⟩
  · rintro ⟨there, rfl⟩
    exact Dict.find?_of_mem (List.mem_map.2 ⟨(name, e.get name),
      List.mem_filter.2 ⟨mem_of_get there, by simpa using there⟩, rfl⟩)

/-- Entities with the same values show the same. -/
theorem shown_congr {e f : Entity} (same : ∀ name, e.get name = f.get name) :
    e.shown = f.shown := by
  refine Dict.ext_find? (fun name => Option.ext (fun text => ?_))
  rw [find?_shown, find?_shown, same name]

/-- Whether two values that differ are written as the same text. -/
def Confused (v w : Value) : Prop :=
  v.isNull = false ∧ w.isNull = false ∧ v.render = w.render ∧ v ≠ w

theorem get_eq_of_shown {e f : Entity} (clear : ∀ name, ¬Confused (e.get name) (f.get name))
    (same : e.shown = f.shown) (name : String) : e.get name = f.get name := by
  have texts := fun text => congrArg (fun d => d.find? name = some text) same
  simp only [find?_shown, eq_iff_iff] at texts
  cases there : (e.get name).isNull with
  | false =>
    obtain ⟨there', text⟩ := (texts (e.get name).render).1 ⟨there, rfl⟩
    exact not_not.1 (fun other => clear name ⟨there, there', text.symm, other⟩)
  | true =>
    cases there' : (f.get name).isNull with
    | false =>
      obtain ⟨here, -⟩ := (texts (f.get name).render).2 ⟨there', rfl⟩
      rw [there] at here
      cases here
    | true => rw [Value.eq_null_of_isNull there, Value.eq_null_of_isNull there']

/-! Keys. -/

variable {as bs : List (String × String)}

/-- The parts of names and texts, each behind a bar. -/
def furtherParts : List (String × String) → List Char
  | [] => []
  | a :: as => '|' :: (a.1.toList ++ '=' :: (a.2.toList ++ furtherParts as))

theorem furtherParts_shown (e : Entity) (some : e.shown.entries ≠ []) :
    furtherParts e.shown.entries = '|' :: (keyText e.attributes.entries).toList := by
  have written : keyText e.attributes.entries =
      "|".intercalate (e.shown.entries.map (fun a => a.1 ++ "=" ++ a.2)) := by
    rw [keyText, shown, List.map_map]
    rfl
  obtain ⟨first, rest, entries⟩ := List.exists_cons_of_ne_nil some
  rw [written, entries, String.toList_intercalate]
  clear entries
  induction rest generalizing first with
  | nil => simp [furtherParts]
  | cons next rest ih =>
    have further := ih next
    simp only [List.map_cons, List.intercalate_cons_cons] at further ⊢
    rw [furtherParts, further]
    simp

theorem keyText_eq_empty {e : Entity} (none : e.shown.entries = []) :
    keyText e.attributes.entries = "" := by
  have parts := congrArg (List.map (fun a : String × String => a.1 ++ "=" ++ a.2)) none
  rw [shown, List.map_map] at parts
  exact congrArg "|".intercalate parts

/-- The key of an entity holds as much as the parts of what it shows. -/
theorem keyText_eq_iff_furtherParts {e f : Entity} :
    keyText e.attributes.entries = keyText f.attributes.entries ↔
      furtherParts e.shown.entries = furtherParts f.shown.entries := by
  have mark : ∀ {e : Entity}, e.shown.entries ≠ [] → keyText e.attributes.entries ≠ "" := by
    intro e some none
    have parts := furtherParts_shown e some
    obtain ⟨first, rest, entries⟩ := List.exists_cons_of_ne_nil some
    rw [none, entries, furtherParts] at parts
    simp at parts
  by_cases none : e.shown.entries = [] <;> by_cases none' : f.shown.entries = []
  · rw [none, none', keyText_eq_empty none, keyText_eq_empty none']
    exact iff_of_true rfl rfl
  · rw [none, keyText_eq_empty none, furtherParts_shown f none']
    exact iff_of_false (mark none').symm (List.cons_ne_nil _ _).symm
  · rw [none', keyText_eq_empty none', furtherParts_shown e none]
    exact iff_of_false (mark none) (List.cons_ne_nil _ _)
  · rw [furtherParts_shown e none, furtherParts_shown f none', List.cons_inj_right,
      String.toList_inj]

/-- Whether, behind what they have in common, the second of two lists has a text that goes on from
that of the first as the key of the first does: with a bar, the next name and an equals sign. -/
def Blends : List (String × String) → List (String × String) → Prop
  | a :: next :: as, b :: bs =>
    (a.1 = b.1 ∧ (a.2 ++ "|" ++ next.1 ++ "=").toList <+: b.2.toList) ∨
      (a = b ∧ Blends (next :: as) bs)
  | _, _ => False

instance decidableBlends : (as bs : List (String × String)) → Decidable (Blends as bs)
  | a :: next :: as, b :: bs =>
    have := decidableBlends (next :: as) bs
    inferInstanceAs (Decidable ((a.1 = b.1 ∧ (a.2 ++ "|" ++ next.1 ++ "=").toList <+: b.2.toList) ∨
      (a = b ∧ Blends (next :: as) bs)))
  | [], _ => .isFalse not_false
  | [_], _ => .isFalse not_false
  | _ :: _ :: _, [] => .isFalse not_false

theorem Blends.behind (a : String × String) (blends : Blends as bs) :
    Blends (a :: as) (a :: bs) := by
  cases as with
  | nil => exact blends.elim
  | cons next as => exact .inr ⟨rfl, blends⟩

/-- Names without the marks of a key. -/
def Plain (as : List (String × String)) : Prop :=
  ∀ a ∈ as, '=' ∉ a.1.toList ∧ '|' ∉ a.1.toList

instance : Decidable (Plain as) :=
  inferInstanceAs (Decidable (∀ a ∈ as, '=' ∉ a.1.toList ∧ '|' ∉ a.1.toList))

theorem name_eq {name name' : String} {cs ds : List Char} (plain : '=' ∉ name.toList)
    (plain' : '=' ∉ name'.toList) (same : name.toList ++ '=' :: cs = name'.toList ++ '=' :: ds) :
    name = name' ∧ cs = ds := by
  have before : ∀ {n : String} {cs : List Char}, '=' ∉ n.toList →
      (n.toList ++ '=' :: cs).takeWhile (· != '=') = n.toList := by
    intro n cs free
    rw [List.takeWhile_append_of_pos, List.takeWhile_cons_of_neg (by simp), List.append_nil]
    intro x member
    simpa using fun own : x = '=' => free (own ▸ member)
  have names : name.toList = name'.toList := by rw [← before plain, same, before plain']
  rw [names] at same
  exact ⟨String.toList_inj.1 names, (List.cons.inj (List.append_cancel_left same)).2⟩

/-- What stands before parts, in the place of a name, begins with the name. -/
theorem exists_of_append_eq {front rest cs : List Char} (free : '|' ∉ front)
    (same : front ++ rest = cs ++ furtherParts bs) : ∃ more, cs = front ++ more := by
  rcases List.append_eq_append_iff.1 same with ⟨left, whole, -⟩ | ⟨left, whole, behind⟩
  · exact ⟨left, whole⟩
  · cases left with
    | nil => exact ⟨[], by simpa using whole.symm⟩
    | cons c left =>
      cases bs with
      | nil => nomatch behind
      | cons b bs =>
        rw [furtherParts, List.cons_append] at behind
        rw [whole, ← (List.cons.inj behind).1] at free
        exact absurd (List.mem_append_right cs (List.mem_cons_self ..)) free

/-- A text under a name either is the other one or goes on from it as the key does. -/
theorem text_eq {name text text' : String} (plain : Plain as)
    (apart : ¬Blends ((name, text) :: as) ((name, text') :: bs)) {cs : List Char}
    (longer : text'.toList = text.toList ++ cs)
    (rest : furtherParts as = cs ++ furtherParts bs) : text = text' := by
  cases cs with
  | nil => exact String.toList_inj.1 (by simpa using longer.symm)
  | cons c cs =>
    cases as with
    | nil => nomatch rest
    | cons a as =>
      obtain ⟨next, last⟩ := a
      rw [furtherParts, List.cons_append] at rest
      obtain ⟨rfl, behind⟩ := List.cons.inj rest
      have free : '|' ∉ next.toList ++ ['='] := by
        simpa using (plain _ (List.mem_cons_self ..)).2
      obtain ⟨more, rfl⟩ := exists_of_append_eq free (by simpa using behind)
      have written : (text ++ "|" ++ next ++ "=").toList ++ more = text'.toList := by
        rw [longer]
        simp
      exact absurd (.inl ⟨rfl, more, written⟩) apart

/-- The induction is on the lists from their front: what they have in common is left behind. -/
theorem eq_of_furtherParts (plain : Plain as) (plain' : Plain bs) (apart : ¬Blends as bs)
    (apart' : ¬Blends bs as) (same : furtherParts as = furtherParts bs) : as = bs := by
  induction as generalizing bs with
  | nil =>
    cases bs with
    | nil => rfl
    | cons b bs => nomatch same
  | cons a as ih =>
    cases bs with
    | nil => nomatch same
    | cons b bs =>
      obtain ⟨name, text⟩ := a
      obtain ⟨name', text'⟩ := b
      obtain ⟨⟨free, -⟩, others⟩ := List.forall_mem_cons.1 plain
      obtain ⟨⟨free', -⟩, others'⟩ := List.forall_mem_cons.1 plain'
      obtain ⟨rfl, behind⟩ := name_eq free free' (List.cons.inj same).2
      have texts : text = text' := by
        rcases List.append_eq_append_iff.1 behind with ⟨_, longer, rest⟩ | ⟨_, longer, rest⟩
        · exact text_eq others apart longer rest
        · exact (text_eq others' apart' longer rest).symm
      subst texts
      have further := List.append_cancel_left behind
      rw [ih others others' (mt (Blends.behind _) apart) (mt (Blends.behind _) apart') further]

/-- Entities have one key if they show the same, and else only if the texts of one run on. -/
theorem keyText_eq_iff {e f : Entity} (plain : Plain e.shown.entries)
    (plain' : Plain f.shown.entries) (apart : ¬Blends e.shown.entries f.shown.entries)
    (apart' : ¬Blends f.shown.entries e.shown.entries) :
    keyText e.attributes.entries = keyText f.attributes.entries ↔ e.shown = f.shown := by
  rw [keyText_eq_iff_furtherParts]
  constructor
  · intro same
    have entries := eq_of_furtherParts plain plain' apart apart' same
    exact Dict.ext_find? (fun name => congrArg (Dict.findEntry name) entries)
  · exact fun same => by rw [same]

/-- An entity with texts for its values. -/
def ofTexts (texts : Dict String) : Entity where
  id := ""
  attributes :=
    { entries := texts.entries.map (fun a => (a.1, .str a.2))
      sorted := List.pairwise_map.2 texts.sorted }

theorem entries_shown_ofTexts (texts : Dict String) :
    (ofTexts texts).shown.entries = texts.entries := by
  have kept : ∀ as : List (String × String),
      ((as.map (fun a => (a.1, Value.str a.2))).filter (fun a => !a.2.isNull)).map
        (fun a => (a.1, a.2.render)) = as := by
    intro as
    induction as with
    | nil => rfl
    | cons a as ih => exact congrArg (a :: ·) ih
  exact kept texts.entries

/-- No entity that shows two values is told by its key from every other one: the second may as well
stand in the text of the first. -/
theorem exists_keyText_eq {e : Entity} (several : 2 ≤ e.shown.entries.length) :
    ∃ f : Entity, keyText f.attributes.entries = keyText e.attributes.entries ∧
      f.shown ≠ e.shown := by
  match entries : e.shown.entries with
  | [] => simp [entries] at several
  | [_] => simp [entries] at several
  | (name, text) :: (next, last) :: rest =>
    have sorted := e.shown.sorted
    rw [entries] at sorted
    obtain ⟨front, behind⟩ := List.pairwise_cons.1 sorted
    have sorted' : ((name, text ++ "|" ++ next ++ "=" ++ last) :: rest).Pairwise
        (fun a b => a.1 < b.1) :=
      List.pairwise_cons.2
        ⟨fun a member => front a (List.mem_cons_of_mem _ member), (List.pairwise_cons.1 behind).2⟩
    refine ⟨ofTexts ⟨_, sorted'⟩, ?_, fun same => ?_⟩
    · rw [keyText_eq_iff_furtherParts, entries_shown_ofTexts, entries]
      simp [furtherParts]
    · have long := congrArg (fun d => d.entries.length) same
      simp [entries_shown_ofTexts, entries] at long

end Entity

namespace Value

theorem firstOf_of_same {v : Value} {vs : List Value} (some : vs ≠ []) (same : ∀ w ∈ vs, w = v) :
    firstOf vs = v := by
  induction vs with
  | nil => exact absurd rfl some
  | cons w rest ih =>
    obtain ⟨rfl, others⟩ := List.forall_mem_cons.1 same
    rw [firstOf_cons]
    split
    · rename_i missing
      by_cases last : rest = []
      · rw [last, eq_null_of_isNull missing]
        rfl
      · exact ih last others
    · rfl

/-- Values that their texts tell from others of their kind. -/
inductive Scalar : Value → Prop where
  | bool (b : Bool) : Scalar (.bool b)
  | int (i : Int) : Scalar (.int i)
  | float {x : Binary64} (number : x.isNaN = false) : Scalar (.float x)
  | str (s : String) : Scalar (.str s)
  | time {t : Instant} (fits : t.Millisecond) : Scalar (.time t)

theorem Scalar.not_confused {v w : Value} (scalar : v.Scalar) (scalar' : w.Scalar)
    (kind : v.kind = w.kind) : ¬Entity.Confused v w := by
  rintro ⟨-, -, text, other⟩
  refine other ?_
  cases scalar with
  | bool b =>
    cases scalar' with
    | bool c => cases b <;> cases c <;> first | rfl | exact absurd text (by decide)
    | _ => cases kind
  | int i =>
    cases scalar' with
    | int j => exact congrArg Value.int (ofInt_injective text)
    | _ => cases kind
  | float number =>
    cases scalar' with
    | float _ =>
      rcases floatText_injective text with rfl | ⟨none, -⟩
      · rfl
      · rw [number] at none
        cases none
    | _ => cases kind
  | str s =>
    cases scalar' with
    | str t => exact congrArg Value.str text
    | _ => cases kind
  | time fits =>
    cases scalar' with
    | time fits' =>
      have text : Instant.text .millis _ = Instant.text .millis _ := text
      have read := fits.readStrict_text
      rw [text, fits'.readStrict_text] at read
      exact congrArg Value.time (Except.ok.inj read).symm
    | _ => cases kind

end Value

namespace Entity

/-- Whether the values of an entity that are there are scalars of the kinds that go with their
names. -/
def HasKinds (kinds : String → Kind) (e : Entity) : Prop :=
  ∀ a ∈ e.attributes.entries, a.2.isNull = false → a.2.Scalar ∧ a.2.kind = kinds a.1

theorem not_confused_of_kinds {kinds : String → Kind} {e f : Entity} (typed : e.HasKinds kinds)
    (typed' : f.HasKinds kinds) (name : String) : ¬Confused (e.get name) (f.get name) := by
  intro confused
  have there := confused.1
  have there' := confused.2.1
  obtain ⟨scalar, kind⟩ := typed _ (mem_of_get there) there
  obtain ⟨scalar', kind'⟩ := typed' _ (mem_of_get there') there'
  exact scalar.not_confused scalar' (kind.trans kind'.symm) confused

end Entity

/-- A row that is merged from entities with the same values has these values. -/
theorem Table.exists_merged {es : List Entity} {e : Entity} (member : e ∈ es)
    (alike : ∀ f ∈ es, f.id = e.id → ∀ name, f.get name = e.get name) :
    ∃ row ∈ mergeRows es, row.id = e.id ∧ ∀ name, row.get name = e.get name := by
  have own : ∀ f ∈ es.filter (fun f => f.id == e.id), ∀ name, f.get name = e.get name := by
    intro f kept
    obtain ⟨there, same⟩ := List.mem_filter.1 kept
    exact alike f there (beq_iff_eq.1 same)
  have itself : e ∈ es.filter (fun f => f.id == e.id) :=
    List.mem_filter.2 ⟨member, beq_self_eq_true _⟩
  obtain ⟨first, rest, sightings⟩ := List.exists_cons_of_ne_nil (List.ne_nil_of_mem itself)
  have combined : Entity.combine (es.filter (fun f => f.id == e.id)) =
      some (rest.foldl Entity.absorb first) := by rw [sightings, Entity.combine]
  have found := (rowOf?_mergeRows es e.id).trans combined
  refine ⟨_, List.mem_of_find?_eq_some found, beq_iff_eq.1 (List.find?_some found :), ?_⟩
  intro name
  rw [(Entity.of_combine combined name).1]
  refine Value.firstOf_of_same ?_ (List.forall_mem_map.2 (fun f kept => own f kept name))
  exact List.ne_nil_of_mem (List.mem_map_of_mem itself)

namespace Records

variable {entityType : String} {fields : List (String × Json)}
  {objects : List (List (String × Json))}

/-- The attributes of an object among records of a type. -/
def record (entityType : String) (fields : List (String × Json)) : Dict Value :=
  attributes (if (Json.obj fields).strField? typeField = some entityType then
    Json.eraseField typeField fields else fields)

/-- An object among records of a type as an entity. -/
def entity (entityType : String) (fields : List (String × Json)) : Entity :=
  Entity.ofRecord entityType (record entityType fields)

theorem withoutType_obj (entityType : String) (fields : List (String × Json)) :
    withoutType entityType (.obj fields) =
      .obj (if (Json.obj fields).strField? typeField = some entityType then
        Json.eraseField typeField fields else fields) := by
  unfold withoutType
  dsimp only
  split <;> rfl

theorem entitiesFrom_objects (entityType : String) (index : Nat)
    (objects : List (List (String × Json))) :
    entitiesFrom entityType index ((objects.map Json.obj).map (withoutType entityType)) =
      .ok (objects.map (entity entityType)) := by
  induction objects generalizing index with
  | nil => rfl
  | cons fields rest ih =>
    rw [List.map_cons, List.map_cons, withoutType_obj, entitiesFrom, ih (index + 1)]
    rfl

/-- Whether a type is the given one, or else the one that records name. -/
def Resolves (given : Option String) (records : List Json) (entityType : String) : Prop :=
  match given with
  | some t => t = entityType
  | none => ∃ found, commonType none records = .ok found ∧ found.getD genericType = entityType

/-- Objects become entities, and entities of one identifier one row. -/
theorem typed_objects {given : Option String}
    (resolves : Resolves given (objects.map Json.obj) entityType) :
    typed given (objects.map Json.obj) =
      .ok (entityType, Table.mergeRows (objects.map (entity entityType))) := by
  have rows : entities entityType ((objects.map Json.obj).map (withoutType entityType)) = _ :=
    entitiesFrom_objects entityType 0 objects
  unfold typed
  cases given with
  | some t =>
    obtain rfl : t = entityType := resolves
    simp only [pure_bind, rows]
    rfl
  | none =>
    obtain ⟨found, common, rfl⟩ := resolves
    simp only [common, Functor.map, Except.map, bind, Except.bind, rows]
    rfl

/-- Whether a record comes without an identifier and without what identifies members of its type. -/
def Anonymous (entityType : String) (fields : List (String × Json)) : Prop :=
  ∀ name ∈ "id" :: identityAttributes entityType,
    (((record entityType fields).find? name).getD .null).isNull = true

instance : Decidable (Anonymous entityType fields) :=
  inferInstanceAs (Decidable (∀ name ∈ "id" :: identityAttributes entityType,
    (((record entityType fields).find? name).getD .null).isNull = true))

/-- The key of a whole record. -/
def keyOf (entityType : String) (fields : List (String × Json)) : String :=
  keyText (entity entityType fields).attributes.entries

/-- The identifier of such a record is made of its whole key. -/
theorem id_entity (anonymous : Anonymous entityType fields) :
    (entity entityType fields).id =
      entityType ++ "--" ++ Digest.ofText (keyOf entityType fields) := by
  obtain ⟨id, identity⟩ := List.forall_mem_cons.1 anonymous
  have unidentified : naturalKey? entityType ((record entityType fields).erase "id") = none := by
    unfold naturalKey?
    refine if_pos (List.all_eq_true.2 (fun e member => ?_))
    obtain ⟨name, listed, shown⟩ := List.mem_filterMap.1 member
    obtain ⟨v, found, rfl⟩ := Option.map_eq_some_iff.1 shown
    have null := identity name listed
    rw [(Dict.find?_filter found).2, Option.getD_some] at null
    rw [Value.eq_null_of_isNull null]
    rfl
  have derived : entity entityType fields =
      ⟨derivedId entityType ((record entityType fields).erase "id"),
        (record entityType fields).erase "id"⟩ := by
    unfold entity Entity.ofRecord
    cases found : (record entityType fields).find? "id" with
    | none => rfl
    | some v =>
      rw [found, Option.getD_some] at id
      rw [Value.eq_null_of_isNull id]
  rw [keyOf, derived, derivedId, unidentified, Option.getD_none]

/-- Whether no two keys of records have one digest. -/
def NoCollision (entityType : String) (objects : List (List (String × Json))) : Prop :=
  ∀ a ∈ objects, ∀ b ∈ objects,
    Digest.hash64 (keyOf entityType a).toUTF8 = Digest.hash64 (keyOf entityType b).toUTF8 →
      keyOf entityType a = keyOf entityType b

instance : Decidable (NoCollision entityType objects) :=
  inferInstanceAs (Decidable (∀ a ∈ objects, ∀ b ∈ objects,
    Digest.hash64 (keyOf entityType a).toUTF8 = Digest.hash64 (keyOf entityType b).toUTF8 →
      keyOf entityType a = keyOf entityType b))

/-- Records have one identifier just if they have one key. -/
theorem id_entity_eq_iff {a b : List (String × Json)}
    (anonymous : ∀ fields ∈ objects, Anonymous entityType fields)
    (apart : NoCollision entityType objects) (first : a ∈ objects) (second : b ∈ objects) :
    (entity entityType a).id = (entity entityType b).id ↔
      keyOf entityType a = keyOf entityType b := by
  rw [id_entity (anonymous a first), id_entity (anonymous b second)]
  constructor
  · intro same
    have digests := (String.append_right_inj (entityType ++ "--")).1 same
    exact apart a first b second (Digest.hash64_eq_of_ofText digests)
  · exact fun same => by rw [same]

/-- Records whose keys tell them apart: no name that they show holds a mark, no text runs on as the
key of another record does, and no two different values under one name have one text. -/
structure Separable (entityType : String) (objects : List (List (String × Json))) : Prop where
  plain : ∀ fields ∈ objects, Entity.Plain (entity entityType fields).shown.entries
  apart : ∀ a ∈ objects, ∀ b ∈ objects,
    ¬Entity.Blends (entity entityType a).shown.entries (entity entityType b).shown.entries
  clear : ∀ a ∈ objects, ∀ b ∈ objects, ∀ name,
    ¬Entity.Confused ((entity entityType a).get name) ((entity entityType b).get name)

theorem id_entity_eq_iff_get {a b : List (String × Json)}
    (anonymous : ∀ fields ∈ objects, Anonymous entityType fields)
    (apart : NoCollision entityType objects) (separable : Separable entityType objects)
    (first : a ∈ objects) (second : b ∈ objects) :
    (entity entityType a).id = (entity entityType b).id ↔
      ∀ name, (entity entityType a).get name = (entity entityType b).get name := by
  rw [id_entity_eq_iff anonymous apart first second, keyOf, keyOf,
    Entity.keyText_eq_iff (separable.plain a first) (separable.plain b second)
      (separable.apart a first b second) (separable.apart b second a first)]
  exact ⟨Entity.get_eq_of_shown (separable.clear a first b second), Entity.shown_congr⟩

/-- Whether rows keep records: there is one for each identifier of a record, in the order of the
records, with the values of the record, and records share one just if they have the same values. -/
structure Keeps (entityType : String) (objects : List (List (String × Json)))
    (rows : List Entity) : Prop where
  ids : rows.map Entity.id = (objects.map (fun o => (entity entityType o).id)).eraseDups
  held : ∀ a ∈ objects, ∃ row ∈ rows, row.id = (entity entityType a).id ∧
    ∀ name, row.get name = (entity entityType a).get name
  apart : ∀ a ∈ objects, ∀ b ∈ objects,
    (entity entityType a).id = (entity entityType b).id ↔
      ∀ name, (entity entityType a).get name = (entity entityType b).get name

/-- Records without identifiers that their keys tell apart are all kept: two become one row only if
they have the same values. -/
theorem typed_keeps {given : Option String}
    (resolves : Resolves given (objects.map Json.obj) entityType)
    (anonymous : ∀ fields ∈ objects, Anonymous entityType fields)
    (apart : NoCollision entityType objects) (separable : Separable entityType objects) :
    ∃ rows, typed given (objects.map Json.obj) = .ok (entityType, rows) ∧
      Keeps entityType objects rows := by
  have told : ∀ a ∈ objects, ∀ b ∈ objects, _ := fun a first b second =>
    id_entity_eq_iff_get anonymous apart separable first second
  refine ⟨_, typed_objects resolves, ?_, fun a first => ?_, told⟩
  · rw [Table.ids_mergeRows, List.map_map]
    rfl
  · refine Table.exists_merged (List.mem_map_of_mem first) (List.forall_mem_map.2 ?_)
    exact fun b second => (told b second a first).1

/-- Two records with the same values become one row, and one whose text holds both marks is kept
apart from one with less text and more values. -/
theorem typed_keeps_marked :
    let first := [("type", Json.str "process"), ("host", .str "a|b=c"), ("port", .int 1)]
    let again := [("type", Json.str "process"), ("host", .str "a|b=c"), ("port", .int 1),
      ("user", .null)]
    let other := [("type", Json.str "process"), ("host", .str "a"), ("port", .int 1),
      ("started", .str "2024-01-01T00:00:00Z")]
    let objects := [first, again, other]
    Resolves none (objects.map Json.obj) "process" ∧
      (∀ fields ∈ objects, Anonymous "process" fields) ∧ NoCollision "process" objects ∧
      Separable "process" objects ∧
      (∃ rows, typed none (objects.map Json.obj) = .ok ("process", rows) ∧
        Keeps "process" objects rows) ∧
      (entity "process" first).id = (entity "process" again).id ∧
      (entity "process" first).id ≠ (entity "process" other).id := by
  intro first again other objects
  have resolves : Resolves none (objects.map Json.obj) "process" := ⟨some "process", rfl, rfl⟩
  have anonymous : ∀ fields ∈ objects, Anonymous "process" fields := by decide +kernel
  have apart : NoCollision "process" objects := by decide +kernel
  let kinds : String → Kind := fun name =>
    if name = "port" then .int else if name = "started" then .time else .str
  have texts : ∀ host : String, ∀ rest : List (String × Value),
      (∀ a ∈ rest, a.2.isNull = false → a.2.Scalar ∧ a.2.kind = kinds a.1) →
      ∀ a ∈ ("host", Value.str host) :: ("port", .int 1) :: rest, a.2.isNull = false →
        a.2.Scalar ∧ a.2.kind = kinds a.1 := fun host _ others =>
    List.forall_mem_cons.2 ⟨fun _ => ⟨.str host, rfl⟩,
      List.forall_mem_cons.2 ⟨fun _ => ⟨.int 1, rfl⟩, others⟩⟩
  have second : Instant.Millisecond ⟨1704067200, 0⟩ := ⟨by decide, by decide, by decide⟩
  have typed : ∀ fields ∈ objects, (entity "process" fields).HasKinds kinds := by
    refine List.forall_mem_cons.2 ⟨?_, List.forall_mem_cons.2 ⟨?_, List.forall_mem_singleton.2 ?_⟩⟩
    · exact texts "a|b=c" [] (by simp)
    · exact texts "a|b=c" [("user", .null)]
        (List.forall_mem_singleton.2 (fun there => nomatch there))
    · exact texts "a" [("started", .time ⟨1704067200, 0⟩)]
        (List.forall_mem_singleton.2 (fun _ => ⟨.time second, rfl⟩))
  have separable : Separable "process" objects :=
    { plain := by decide +kernel
      apart := by decide +kernel
      clear := fun a first b second =>
        Entity.not_confused_of_kinds (typed a first) (typed b second) }
  exact ⟨resolves, anonymous, apart, separable,
    typed_keeps resolves anonymous apart separable, by decide +kernel, by decide +kernel⟩

/-- A record whose one text reads like two values becomes one row with the record that has the two:
these do not differ in their keys. -/
theorem typed_loses :
    ¬∀ (given : Option String) (entityType : String) (objects : List (List (String × Json))),
      Resolves given (objects.map Json.obj) entityType →
      (∀ fields ∈ objects, Anonymous entityType fields) → NoCollision entityType objects →
      ∀ rows, typed given (objects.map Json.obj) = .ok (entityType, rows) →
        ∀ a ∈ objects, ∀ b ∈ objects, ∀ row ∈ rows,
          row.id = (entity entityType a).id → row.id = (entity entityType b).id →
          ∀ name, (entity entityType a).get name = (entity entityType b).get name := by
  intro exact
  let whole : List (String × Json) := [("a", .str "1|b=2")]
  let split : List (String × Json) := [("a", .str "1"), ("b", .str "2")]
  have resolves : Resolves (some "process") ([whole, split].map Json.obj) "process" := rfl
  have anonymous : ∀ fields ∈ [whole, split], Anonymous "process" fields := by decide +kernel
  have keys : keyOf "process" whole = keyOf "process" split := by decide +kernel
  have apart : NoCollision "process" [whole, split] := by
    have all : ∀ fields ∈ [whole, split], keyOf "process" fields = keyOf "process" whole :=
      List.forall_mem_cons.2 ⟨rfl, List.forall_mem_singleton.2 keys.symm⟩
    exact fun a first b second _ => (all a first).trans (all b second).symm
  have ids : (entity "process" whole).id = (entity "process" split).id :=
    (id_entity_eq_iff anonymous apart (by simp) (by simp)).2 keys
  obtain ⟨row, member, own⟩ : ∃ row ∈ Table.mergeRows ([whole, split].map (entity "process")),
      row.id = (entity "process" whole).id := by
    refine List.mem_map.1 ?_
    rw [Table.ids_mergeRows]
    exact List.mem_eraseDups.2 (List.mem_cons_self ..)
  have values := exact (some "process") "process" [whole, split] resolves anonymous apart _
    (typed_objects resolves) whole (by simp) split (by simp) row member own (own.trans ids) "b"
  have missing : (entity "process" whole).get "b" = .null := rfl
  have there : (entity "process" split).get "b" = .str "2" := rfl
  rw [missing, there] at values
  cases values

end Records
end ThreatHunt
