import ThreatHunt.Proofs.Source.Met
import ThreatHunt.Proofs.Source.Placed

/-!
A statement between what stands before it and what stands behind. What is seen from a byte of the
statement depends on the statement alone: its lexemes, what is cut out of it, and positions in it up
to the position of its start.
-/

namespace ThreatHunt.Source

open Text (Located locateFrom byteLength)

/-- The lexemes that are met in a statement, up to the first fault. -/
def lexemesMet (s : String) (span : Span) : List Met :=
  metFrom span.stop none (charactersFrom s span.start)

namespace Stands

variable {s : String} {span : Span} {front inner behind : List Char}

theorem locate_eq (stands : Stands s span front inner behind) :
    Text.locate s = locateFrom 0 front ++
      (locateFrom span.start inner ++ locateFrom span.stop behind) := by
  rw [Text.locate, stands.text, Text.locateFrom_append, Text.locateFrom_append, Nat.zero_add,
    ← stands.start, stands.start, ← stands.stop]

theorem order (stands : Stands s span front inner behind) : span.start ≤ span.stop := by
  rw [stands.start, stands.stop]
  exact Nat.le_add_right _ _

theorem front_lt (stands : Stands s span front inner behind) :
    ∀ c ∈ locateFrom 0 front, c.offset < span.start := by
  intro c member
  have within := Text.offset_lt_of_mem_locateFrom member
  rwa [Nat.zero_add, ← stands.start] at within

theorem inner_within (stands : Stands s span front inner behind) :
    ∀ c ∈ locateFrom span.start inner,
      span.start ≤ c.offset ∧ c.offset + c.char.utf8Size ≤ span.stop := by
  intro c member
  have within := Text.offset_of_mem_locateFrom member
  rwa [stands.stop, ← stands.start]

theorem charactersFrom_eq (stands : Stands s span front inner behind) :
    charactersFrom s span.start =
      locateFrom span.start inner ++ locateFrom span.stop behind := by
  rw [charactersFrom, stands.locate_eq, List.dropWhile_append_of_pos
    (fun c member => decide_eq_true (stands.front_lt c member))]
  have low : ∀ c ∈ locateFrom span.start inner ++ locateFrom span.stop behind,
      ¬c.offset < span.start := by
    intro c member
    rw [Nat.not_lt]
    rcases List.mem_append.1 member with here | later
    · exact (stands.inner_within c here).1
    · exact stands.order.trans (Text.offset_of_mem_locateFrom later).1
  generalize locateFrom span.start inner ++ locateFrom span.stop behind = rest at low ⊢
  cases rest with
  | nil => rfl
  | cons c rest =>
    exact List.dropWhile_cons_of_neg (by simpa using low c List.mem_cons_self)

/-- Up to a byte of a statement stand the characters before the statement and some of its own. -/
theorem before_eq (stands : Stands s span front inner behind) {offset : Nat}
    (held : span.Holds offset) : Text.before (Text.locate s) offset =
      front ++ Text.before (locateFrom span.start inner) offset := by
  have far : ∀ c ∈ locateFrom span.stop behind, ¬c.offset < offset := fun c member =>
    Nat.not_lt.2 (held.2.trans (Text.offset_of_mem_locateFrom member).1)
  have none : (locateFrom span.stop behind).takeWhile (fun c => c.offset < offset) = [] := by
    cases behind with
    | nil => rfl
    | cons c behind => exact List.takeWhile_cons_of_neg (by simpa using far _ List.mem_cons_self)
  have inside : (locateFrom span.start inner ++ locateFrom span.stop behind).takeWhile
      (fun c => c.offset < offset) =
      (locateFrom span.start inner).takeWhile (fun c => c.offset < offset) := by
    rw [List.takeWhile_append, none, List.append_nil]
    split
    · rename_i whole
      exact ((List.takeWhile_prefix _).eq_of_length whole).symm
    · rfl
  rw [Text.before, Text.before, stands.locate_eq, List.takeWhile_append_of_pos
    (fun c member => decide_eq_true ((stands.front_lt c member).trans_le held.1)), inside,
    List.map_append, Text.map_char_locateFrom]

theorem positionAt_eq (stands : Stands s span front inner behind) {offset : Nat}
    (held : span.Holds offset) : Text.positionAt s offset =
      (Text.before (locateFrom span.start inner) offset).foldl Text.Position.advance
        (Text.positionAt s span.start) := by
  have first : span.Holds span.start := ⟨Nat.le_refl _, stands.order⟩
  have none : Text.before (locateFrom span.start inner) span.start = [] := by
    cases inner with
    | nil => rfl
    | cons c inner => simp [Text.before, locateFrom]
  rw [Text.positionAt, Text.positionAt, stands.before_eq held, stands.before_eq first, none,
    List.append_nil, List.foldl_append]

/-- What is cut out of a source from a byte of a statement to the end of the statement. -/
theorem slice_eq (stands : Stands s span front inner behind) {offset : Nat}
    (held : span.Holds offset) : Text.slice s offset span.stop =
      Text.textOf ((locateFrom span.start inner).filter (fun c => offset ≤ c.offset)) := by
  have early : (locateFrom 0 front).filter
      (fun c => offset ≤ c.offset && c.offset < span.stop) = [] := by
    rw [List.filter_eq_nil_iff]
    intro c member
    have low := stands.front_lt c member
    have start := held.1
    simp only [Bool.and_eq_true, decide_eq_true_eq, not_and]
    omega
  have late : (locateFrom span.stop behind).filter
      (fun c => offset ≤ c.offset && c.offset < span.stop) = [] := by
    rw [List.filter_eq_nil_iff]
    intro c member
    have high := (Text.offset_of_mem_locateFrom member).1
    simp only [Bool.and_eq_true, decide_eq_true_eq, not_and]
    omega
  rw [Text.slice, stands.locate_eq, List.filter_append, List.filter_append, early, late,
    List.append_nil, List.nil_append]
  congr 1
  apply List.filter_congr
  intro c member
  have within := (stands.inner_within c member).2
  have size := Char.utf8Size_pos c.char
  have inside : c.offset < span.stop := by omega
  rw [decide_eq_true inside, Bool.and_true]

theorem slice_whole (stands : Stands s span front inner behind) :
    Text.slice s span.start span.stop = String.ofList inner := by
  rw [stands.slice_eq ⟨Nat.le_refl _, stands.order⟩, List.filter_eq_self.2, Text.textOf,
    Text.map_char_locateFrom]
  exact fun c member => decide_eq_true (stands.inner_within c member).1

/-- The characters from some byte of a part on take no more bytes than are left of it. -/
theorem length_filter_le {start offset : Nat} {cs : List Char}
    (held : offset ≤ start + byteLength cs) :
    offset + byteLength (((locateFrom start cs).filter (fun c => offset ≤ c.offset)).map
      Located.char) ≤ start + byteLength cs := by
  induction cs generalizing start with
  | nil => exact held
  | cons c cs ih =>
    by_cases early : offset ≤ start
    · have all : (locateFrom start (c :: cs)).filter (fun c => offset ≤ c.offset) =
          locateFrom start (c :: cs) := by
        rw [List.filter_eq_self]
        intro d member
        exact decide_eq_true (early.trans (Text.offset_of_mem_locateFrom member).1)
      rw [all, Text.map_char_locateFrom]
      omega
    · have within : offset ≤ start + c.utf8Size + byteLength cs := by
        rw [Text.byteLength_cons] at held
        omega
      have later := ih within
      rw [locateFrom, List.filter_cons_of_neg (by simpa using early), Text.byteLength_cons]
      omega

/-- A statement whose URIs close their quotes is lexed for itself. -/
theorem lex_eq (stands : Stands s span front inner behind)
    (closed : (∀ m ∈ lexemesMet s span, m.Closed) ∨
      ∀ m ∈ metFrom span.stop none (locateFrom span.start inner), m.Closed) :
    lex s span = lexFrom span.stop none (locateFrom span.start inner) ∧
      lexemesMet s span = metFrom span.stop none (locateFrom span.start inner) := by
  unfold lexemesMet at closed
  unfold lex lexemesMet
  rw [stands.charactersFrom_eq] at closed ⊢
  have beyond : Beyond span.stop (locateFrom span.stop behind) :=
    fun _ member => (Text.offset_of_mem_locateFrom member).1
  refine lexFrom_append beyond ?_ closed
  rw [Text.map_char_locateFrom]
  refine stands.closed.imp_right (fun blank d member => blank d.char ?_)
  rw [← Text.map_char_locateFrom span.stop behind]
  exact List.mem_map_of_mem member

/-- The tokens of a statement that is lexed for itself stand in it. -/
theorem placed_of_lexFrom (stands : Stands s span front inner behind) {tokens : List Token}
    (read : lexFrom span.stop none (locateFrom span.start inner) = .ok tokens) :
    Placed span tokens := by
  refine ⟨stands.order, fun t member => ?_⟩
  rw [eq_of_lexFrom read] at member
  obtain ⟨m, met, rfl⟩ := List.mem_map.1 member
  obtain ⟨low, high⟩ := stands.inner_within _ (mem_of_mem_metFrom met _ List.mem_cons_self)
  exact ⟨low, (Nat.le_add_right _ _).trans high⟩

theorem holds_of_lexFrom (stands : Stands s span front inner behind) {misread : Misread}
    (read : lexFrom span.stop none (locateFrom span.start inner) = .error misread) :
    span.Holds misread.offset := by
  obtain ⟨c, member, low, high⟩ := offset_of_lexFrom read
  exact ⟨(stands.inner_within c member).1.trans low, high⟩

end Stands

theorem eq_of_byteLength {front front' back back' : List Char}
    (same : front ++ back = front' ++ back') (length : byteLength front = byteLength front') :
    front = front' := by
  have empty : ∀ cs : List Char, byteLength cs = 0 → cs = [] := by
    intro cs none
    cases cs with
    | nil => rfl
    | cons c cs =>
      have size := Char.utf8Size_pos c
      rw [Text.byteLength_cons] at none
      omega
  rcases List.append_eq_append_iff.1 same with ⟨more, rfl, -⟩ | ⟨more, rfl, -⟩
  all_goals
    rw [Text.byteLength_append] at length
    rw [empty more (by omega), List.append_nil]

end ThreatHunt.Source
