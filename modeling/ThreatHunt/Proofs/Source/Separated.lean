import Mathlib.Data.List.DropRight
import ThreatHunt.Proofs.Source.Joined
import ThreatHunt.Proofs.Source.SplitBytes

/-!
Where statements are separated. A semicolon or a line feed separates statements if it stands outside
of quotes and brackets and no backslash joins its line with the next. Statements are what is left
between separators without the blanks around it, so the source of a single statement is that
statement: behind a separator all quotes and brackets are closed, as at the start of a source.
-/

namespace ThreatHunt.Source

open Text (Located locateFrom byteLength isBlank)

/-! Separators. -/

/-- How a place stands to the quotes and brackets before it. -/
structure Standing where
  quotation : Quotation
  /-- Open brackets; a closing bracket too many is ignored. -/
  depth : Nat
  deriving DecidableEq, Repr

namespace Standing

/-- Outside of quotes and brackets. -/
def free : Standing := ⟨.outside, 0⟩

/-- Moves over one character; brackets between quotes count for nothing. -/
def step (p : Standing) (c : Char) : Standing :=
  { quotation := p.quotation.step c
    depth :=
      if p.quotation ≠ .outside then p.depth
      else if isOpening c then p.depth + 1
      else if isClosing c then p.depth - 1
      else p.depth }

def after (p : Standing) (cs : List Char) : Standing := cs.foldl step p

end Standing

/-- Whether a line that ends behind some characters goes on with the next one: it ends in a
backslash outside of quotes, with nothing but blanks behind it. -/
def Continues (front : List Char) : Prop :=
  ∃ head trail, front = head ++ '\\' :: trail ∧ Quotation.outside.after head = .outside ∧
    ∀ c ∈ trail, isBlank c = true ∧ c ≠ '\n'

/-- Whether a character separates statements, behind the characters before it in a source. -/
def Separates (front : List Char) (c : Char) : Prop :=
  Standing.free.after front = .free ∧ (c = ';' ∨ c = '\n' ∧ ¬Continues front)

/-- Whether no character of a part of a source separates statements. -/
def Whole (front cs : List Char) : Prop :=
  ∀ before c, before ++ [c] <+: cs → ¬Separates (front ++ before) c

variable {front back cs : List Char} {c d quote : Char} {s : Splitter} {l : Located}
  {piece rest : List Located}

namespace Standing

theorem after_append (p : Standing) (front back : List Char) :
    p.after (front ++ back) = (p.after front).after back := List.foldl_append

theorem after_snoc (p : Standing) (front : List Char) (c : Char) :
    p.after (front ++ [c]) = (p.after front).step c := after_append p front [c]

theorem quotation_after (p : Standing) (cs : List Char) :
    (p.after cs).quotation = p.quotation.after cs := by
  induction cs generalizing p with
  | nil => rfl
  | cons c cs ih => exact ih (p.step c)

theorem quotation_of_after {p : Standing} (stands : free.after front = p) :
    Quotation.outside.after front = p.quotation :=
  stands ▸ (quotation_after free front).symm

theorem step_of_class {inClass : Char → Bool} (member : inClass c = true)
    (outside : splitterSigns.all (fun d => !inClass d) = true) : free.step c = free := by
  have inert := isInert_of_class member outside
  simp only [isInert, Bool.and_eq_true, Bool.not_eq_true', bne_iff_ne, ne_eq] at inert
  obtain ⟨⟨⟨quoted, opens⟩, closes⟩, -⟩ := inert
  simp [step, free, Quotation.step, quoted, opens, closes]

theorem after_blanks (blank : ∀ c ∈ cs, isBlank c = true) : free.after cs = free := by
  induction cs with
  | nil => rfl
  | cons c cs ih =>
    obtain ⟨here, others⟩ := List.forall_mem_cons.1 blank
    have first : free.step c = free := step_of_class here (by decide)
    exact (congrArg (fun p => after p cs) first).trans (ih others)

end Standing

/-- Behind a separator a source stands as at its start. -/
theorem Separates.free (separates : Separates front c) :
    Standing.free.after (front ++ [c]) = .free := by
  rw [Standing.after_snoc, separates.1]
  rcases separates.2 with rfl | ⟨rfl, -⟩ <;> decide

theorem Separates.outside (separates : Separates front c) :
    Quotation.outside.after front = .outside :=
  Standing.quotation_of_after separates.1

theorem Separates.isBlank_or (separates : Separates front c) : isBlank c = true ∨ c = ';' := by
  rcases separates.2 with semicolon | ⟨rfl, -⟩
  · exact .inr semicolon
  · exact .inl (by decide)

theorem Continues.outside (continues : Continues front) :
    Quotation.outside.after front = .outside := by
  obtain ⟨head, trail, rfl, closed, blank⟩ := continues
  rw [Quotation.after_append, closed, Quotation.after_unquoted (by decide)]
  exact Quotation.after_blanks (fun c member => (blank c member).1)

/-- A line that goes on behind a further character went on before it, and the character is a
blank. -/
theorem continues_snoc (plain : c = '\\' → Quotation.outside.after front ≠ .outside) :
    Continues (front ++ [c]) ↔ Continues front ∧ isBlank c = true ∧ c ≠ '\n' := by
  constructor
  · rintro ⟨head, trail, text, closed, blank⟩
    rcases List.eq_nil_or_concat trail with rfl | ⟨inner, last, rfl⟩
    · obtain ⟨rfl, same⟩ := List.append_inj' text rfl
      exact absurd closed (plain (List.cons.inj same).1)
    · rw [List.concat_eq_append] at text blank
      have longer : front ++ [c] = (head ++ '\\' :: inner) ++ [last] := by simp [text]
      obtain ⟨rfl, same⟩ := List.append_inj' longer rfl
      obtain rfl := (List.cons.inj same).1
      obtain ⟨before, here⟩ := List.forall_mem_append.1 blank
      exact ⟨⟨head, inner, rfl, closed, before⟩, here c (List.mem_singleton_self c)⟩
  · rintro ⟨⟨head, trail, rfl, closed, blank⟩, here⟩
    refine ⟨head, trail ++ [c], by simp, closed, ?_⟩
    exact List.forall_mem_append.2 ⟨blank, List.forall_mem_singleton.2 here⟩

theorem continues_backslash (outside : Quotation.outside.after front = .outside) :
    Continues (front ++ ['\\']) :=
  ⟨front, [], rfl, outside, List.forall_mem_nil _⟩

/-! The splitter. -/

/-- How the splitter stands to quotes and brackets. -/
def Splitter.standing (s : Splitter) : Standing := ⟨s.quotation, s.depth⟩

/-- Whether the splitter stands behind some characters and before the rest of a source. -/
structure Sees (s : Splitter) (front : List Char) (rest : List Located) : Prop where
  standing : Standing.free.after front = s.standing
  continued : s.continued = true ↔ Continues front ∧ restOfLineBlank rest = true

theorem Sees.quotation (sees : Sees s front rest) :
    Quotation.outside.after front = s.quotation :=
  Standing.quotation_of_after sees.standing

theorem Sees.outside (sees : Sees s front rest) :
    s.quote = none ↔ Quotation.outside.after front = .outside := by
  rw [sees.quotation, Splitter.quotation]
  cases s.quote <;> simp

theorem restOfLineBlank_cons (other : l.char ≠ '\n') :
    restOfLineBlank (l :: rest) = (isBlank l.char && restOfLineBlank rest) := by
  simp [restOfLineBlank, other]

theorem not_bracket_of_isQuote (quoted : isQuote c = true) :
    isOpening c = false ∧ isClosing c = false := by
  rcases (by simpa [isQuote] using quoted : c = '\'' ∨ c = '\x22') with rfl | rfl <;> decide

theorem Splitter.standing_step (unquoted : s.quote = none) (c : Char) (rest : List Located) :
    (s.step c rest).standing = s.standing.step c := by
  have quotation : s.quotation = .outside := Splitter.quotation_of_none unquoted
  have depth : (s.step c rest).depth = (s.standing.step c).depth := by
    unfold Splitter.step Standing.step Splitter.standing
    rw [quotation]
    by_cases quoted : isQuote c = true
    · obtain ⟨opens, closes⟩ := not_bracket_of_isQuote quoted
      simp [quoted, opens, closes]
    · simp only [quoted, Bool.false_eq_true, if_false, ne_eq, not_true_eq_false]
      repeat' split
      all_goals rfl
  rw [Splitter.standing, Splitter.quotation_step unquoted, depth, ← quotation]
  rfl

/-- Between quotes brackets count for nothing. -/
theorem Splitter.step_standing (quoted : s.quote = some quote) (c : Char) :
    s.standing.step c = ⟨s.quotation.step c, s.depth⟩ := by
  have inside : s.standing.quotation ≠ .outside := by
    rw [Splitter.standing, Splitter.quotation_of_some quoted]
    exact nofun
  rw [Standing.step, if_pos inside]
  rfl

theorem Splitter.standing_quoted (quoted : s.quote = some quote) (plain : c ≠ '\\') :
    Splitter.standing { s with quote := if c == quote then none else some quote } =
      s.standing.step c := by
  rw [Splitter.step_standing quoted, ← Splitter.quotation_quoted quoted plain]
  rfl

theorem Splitter.standing_escape (quoted : s.quote = some quote) (d : Char) :
    (s.standing.step '\\').step d = s.standing := by
  have escaped : s.quotation.step '\\' ≠ .outside := by
    rw [Splitter.quotation_of_some quoted]
    exact nofun
  rw [Splitter.step_standing quoted, Standing.step, if_pos escaped,
    Splitter.quotation_escape quoted]
  rfl

theorem Splitter.continued_step (s : Splitter) (c : Char) (rest : List Located) :
    (s.step c rest).continued =
      if c = '\\' then s.continued || restOfLineBlank rest
      else if c = '\n' then false
      else s.continued := by
  unfold Splitter.step
  repeat' split
  all_goals simp_all [isQuote, isOpening, isClosing]

theorem Splitter.ends_iff (unquoted : s.quote = none) :
    s.ends c = true ↔ s.standing = .free ∧ (c = ';' ∨ c = '\n' ∧ s.continued = false) := by
  have free : s.standing = .free ↔ s.depth = 0 := by
    simp [Splitter.standing, Splitter.quotation_of_none unquoted, Standing.free]
  rw [free]
  simp [Splitter.ends]

/-- Where the splitter ends a statement, a character separates statements. -/
theorem Sees.ends_iff (sees : Sees s front (l :: rest)) (unquoted : s.quote = none) :
    s.ends l.char = true ↔ Separates front l.char := by
  rw [Splitter.ends_iff unquoted, Separates, sees.standing]
  refine and_congr_right (fun _ => or_congr_right (and_congr_right (fun line => ?_)))
  have blank : restOfLineBlank (l :: rest) = true := by simp [restOfLineBlank, line]
  rw [← Bool.not_eq_true, sees.continued, blank, and_iff_left rfl]

theorem not_separates (quoted : Quotation.outside.after front ≠ .outside) : ¬Separates front c :=
  fun separates => quoted separates.outside

theorem not_continues_snoc (quoted : Quotation.outside.after front ≠ .outside) :
    ¬Continues (front ++ [c]) :=
  fun continues => quoted ((continues_snoc (fun _ => quoted)).1 continues).1.outside

theorem sees_initial (cs : List Located) : Sees .initial [] cs where
  standing := rfl
  continued := by
    refine iff_of_false Bool.false_ne_true ?_
    rintro ⟨⟨head, trail, none, -⟩, -⟩
    exact absurd none.symm (by simp)

/-- Outside of quotes. -/
theorem Sees.step (sees : Sees s front (l :: rest)) (unquoted : s.quote = none) :
    Sees (s.step l.char rest) (front ++ [l.char]) rest where
  standing := by rw [Standing.after_snoc, sees.standing, Splitter.standing_step unquoted]
  continued := by
    have before := sees.continued
    rw [Splitter.continued_step]
    by_cases backslash : l.char = '\\'
    · have visible : restOfLineBlank (l :: rest) = false := by
        rw [restOfLineBlank_cons (by rw [backslash]; decide), backslash]
        rfl
      have stays : s.continued = false := by simpa [visible] using before
      have continues := continues_backslash (sees.outside.1 unquoted)
      simp [backslash, stays, continues]
    · rw [if_neg backslash, continues_snoc (fun same => absurd same backslash)]
      by_cases line : l.char = '\n'
      · simp [line]
      · rw [restOfLineBlank_cons line, Bool.and_eq_true] at before
        rw [if_neg line, before]
        simp only [ne_eq, line, not_false_eq_true, and_true, and_assoc]

theorem Sees.not_outside (sees : Sees s front rest) (quoted : s.quote = some quote) :
    Quotation.outside.after front ≠ .outside := by
  intro outside
  rw [sees.outside.2 outside] at quoted
  cases quoted

/-- Between quotes. -/
theorem Sees.quoted (sees : Sees s front (l :: rest)) (quoted : s.quote = some quote)
    (plain : l.char ≠ '\\') :
    Sees { s with quote := if l.char == quote then none else some quote } (front ++ [l.char])
      rest where
  standing := by
    rw [Standing.after_snoc, sees.standing, Splitter.standing_quoted quoted plain]
  continued := by
    have inside := sees.not_outside quoted
    have before : ¬Continues front := fun continues => inside continues.outside
    have behind : ¬Continues (front ++ [l.char]) := not_continues_snoc inside
    rw [sees.continued]
    exact iff_of_false (fun both => before both.1) (fun both => behind both.1)

theorem Sees.escaped (sees : Sees s front rest) (quoted : s.quote = some quote) :
    Quotation.outside.after (front ++ ['\\']) ≠ .outside := by
  rw [Quotation.after_append, sees.quotation, Splitter.quotation_of_some quoted]
  simp [Quotation.after, Quotation.step]

/-- Over an escape between quotes. -/
theorem Sees.escape (sees : Sees s front (l :: m :: rest)) (quoted : s.quote = some quote)
    (backslash : l.char = '\\') : Sees s (front ++ [l.char] ++ [m.char]) rest where
  standing := by
    rw [Standing.after_snoc, Standing.after_snoc, sees.standing, backslash,
      Splitter.standing_escape quoted]
  continued := by
    have inside := sees.not_outside quoted
    have before : ¬Continues front := fun continues => inside continues.outside
    have behind : ¬Continues (front ++ [l.char] ++ [m.char]) :=
      not_continues_snoc (backslash ▸ sees.escaped quoted)
    rw [sees.continued]
    exact iff_of_false (fun both => before both.1) (fun both => behind both.1)

/-! Pieces. -/

theorem whole_nil (front : List Char) : Whole front [] := by
  intro before c first
  exact absurd (List.prefix_nil.1 first) (by simp)

theorem whole_snoc : Whole front (cs ++ [c]) ↔ Whole front cs ∧ ¬Separates (front ++ cs) c := by
  constructor
  · intro whole
    exact ⟨fun before d first => whole before d (first.trans (List.prefix_append cs [c])),
      whole cs c (List.prefix_refl _)⟩
  · rintro ⟨whole, goes⟩ before d first
    rcases List.prefix_concat_iff.1 first with same | earlier
    · obtain ⟨rfl, last⟩ := List.append_inj' same rfl
      obtain rfl := (List.cons.inj last).1
      exact goes
    · exact whole before d earlier

/-- The statement that a piece of a source is, behind the characters before it. -/
def spanBehind? (front piece : List Char) : Option Span :=
  spanOf? (locateFrom (byteLength front) piece)

/-- The statements in a part of a source, cut at its separators. -/
inductive Cuts : List Char → List Char → List Span → Prop
  | last {front piece : List Char} : Whole front piece →
    Cuts front piece (spanBehind? front piece).toList
  | cut {front piece back : List Char} {c : Char} {spans : List Span} : Whole front piece →
    Separates (front ++ piece) c → Cuts (front ++ (piece ++ [c])) back spans →
    Cuts front (piece ++ c :: back) ((spanBehind? front piece).toList ++ spans)

theorem filterMap_spanOf?_cons (piece : List Located) (pieces : List (List Located)) :
    (piece :: pieces).filterMap spanOf? = (spanOf? piece).toList ++ pieces.filterMap spanOf? := by
  rw [List.filterMap_cons]
  cases spanOf? piece <;> rfl

/-- The splitter cuts a source at its separators; `mid` is what the current piece has already. -/
theorem cuts_splitFrom (s : Splitter) (front mid cs : List Char)
    (sees : Sees s (front ++ mid) (locateFrom (byteLength front + byteLength mid) cs))
    (whole : Whole front mid) :
    Cuts front (mid ++ cs) ((splitFrom s (locateFrom (byteLength front) mid).reverse
      (locateFrom (byteLength front + byteLength mid) cs)).filterMap spanOf?) := by
  induction size : cs.length using Nat.strongRecOn generalizing s front mid cs with
  | ind n ih =>
    cases cs with
    | nil =>
      rw [locateFrom, splitFrom_nil, List.reverse_reverse, filterMap_spanOf?_cons,
        List.filterMap_nil, List.append_nil, List.append_nil]
      exact .last whole
    | cons c cs =>
      rw [List.length_cons] at size
      have next : mid ++ c :: cs = (mid ++ [c]) ++ cs := by simp
      rw [locateFrom] at sees ⊢
      cases quoted : s.quote with
      | none =>
        have step := sees.step quoted
        have separates := sees.ends_iff quoted
        cases ends : s.ends c with
        | true =>
          have place : byteLength front + byteLength mid + c.utf8Size =
              byteLength (front ++ (mid ++ [c])) + byteLength [] := by
            rw [Text.byteLength_append, length_snoc]
            rfl
          rw [splitFrom_ends quoted ends, List.reverse_reverse, filterMap_spanOf?_cons, place]
          rw [List.append_assoc, ← List.append_nil (front ++ (mid ++ [c])), place] at step
          exact .cut whole (separates.1 ends)
            (ih cs.length (by omega) _ _ [] _ step (whole_nil _) rfl)
        | false =>
          have goes : ¬Separates (front ++ mid) c := by rw [← separates, ends]; decide
          rw [splitFrom_goes quoted ends, next, ← locateFrom_snoc, ← length_snoc]
          rw [List.append_assoc, ← length_snoc] at step
          exact ih cs.length (by omega) _ _ _ _ step (whole_snoc.2 ⟨whole, goes⟩) rfl
      | some quote =>
        have goes : ¬Separates (front ++ mid) c := not_separates (sees.not_outside quoted)
        have longer : Whole front (mid ++ [c]) := whole_snoc.2 ⟨whole, goes⟩
        by_cases backslash : c = '\\'
        · cases cs with
          | nil =>
            rw [locateFrom, splitFrom_last quoted backslash, ← locateFrom_snoc,
              filterMap_spanOf?_cons, List.reverse_reverse, List.filterMap_nil, List.append_nil]
            exact .last longer
          | cons d cs =>
            rw [List.length_cons] at size
            have step := sees.escape quoted backslash
            have escaped : ¬Separates (front ++ (mid ++ [c])) d := by
              rw [← List.append_assoc, backslash]
              exact not_separates (sees.escaped quoted)
            have later : mid ++ c :: d :: cs = (mid ++ [c] ++ [d]) ++ cs := by simp
            rw [locateFrom, splitFrom_escape quoted backslash, later, ← locateFrom_snoc,
              ← length_snoc, ← locateFrom_snoc, ← length_snoc]
            rw [List.append_assoc front, List.append_assoc front, ← length_snoc,
              ← length_snoc] at step
            exact ih cs.length (by omega) _ _ _ _ step (whole_snoc.2 ⟨longer, escaped⟩) rfl
        · have step := sees.quoted quoted backslash
          rw [splitFrom_quoted quoted backslash, next, ← locateFrom_snoc, ← length_snoc]
          rw [List.append_assoc, ← length_snoc] at step
          exact ih cs.length (by omega) _ _ _ _ step longer rfl

theorem cuts_splitStatements (s : String) : Cuts [] s.toList (splitStatements s) := by
  have zero : byteLength [] + byteLength [] = 0 := rfl
  have cuts := cuts_splitFrom .initial [] [] s.toList (sees_initial _) (whole_nil [])
  rwa [zero] at cuts

end ThreatHunt.Source

/-!
The statements of a source. They stand one behind the other, with nothing but blanks and separators
around them, and each is the only statement of its own text.
-/

namespace ThreatHunt.Source

open Text (Located locateFrom byteLength isBlank cut?)

variable {front piece inner lead trail back cs : List Char} {span : Span} {spans : List Span}
  {c : Char}

/-! What is left of a piece. -/

/-- What is left begins with a visible character. -/
theorem visible_of_trimChars (left : Text.trimChars cs = c :: inner) : isBlank c = false := by
  obtain ⟨trail, split, -⟩ := exists_trimEndChars (cs.dropWhile isBlank)
  have first : (cs.dropWhile isBlank).head? = some c := by
    rw [split, ← Text.trimChars, left]
    rfl
  have visible := List.head?_dropWhile_not isBlank cs
  rw [first] at visible
  simpa using visible

theorem trimChars_trimChars (cs : List Char) :
    Text.trimChars (Text.trimChars cs) = Text.trimChars cs := by
  have begins : (Text.trimChars cs).dropWhile isBlank = Text.trimChars cs := by
    cases left : Text.trimChars cs with
    | nil => rfl
    | cons c inner => exact List.dropWhile_cons_of_neg (by simp [visible_of_trimChars left])
  have ends : Text.trimEndChars (Text.trimChars cs) = Text.trimChars cs :=
    List.rdropWhile_idempotent isBlank (cs.dropWhile isBlank)
  rw [Text.trimChars, begins, ends]

/-- A statement and the piece that it is left of. -/
structure Left (front piece : List Char) (span : Span) (lead inner trail : List Char) : Prop where
  text : piece = lead ++ (inner ++ trail)
  lead_blank : ∀ c ∈ lead, isBlank c = true
  trail_blank : ∀ c ∈ trail, isBlank c = true
  trimmed : Text.trimChars inner = inner
  some : inner ≠ []
  start : span.start = byteLength (front ++ lead)
  stop : span.stop = byteLength (front ++ lead) + byteLength inner

theorem exists_left (found : spanBehind? front piece = some span) :
    ∃ lead inner trail, Left front piece span lead inner trail := by
  obtain ⟨trail, text, blank⟩ := exists_trimChars piece
  have left := trimPiece_locateFrom (byteLength front) piece
  rw [← Text.byteLength_append] at left
  obtain ⟨start, stop⟩ := span_of_trimPiece left found
  refine ⟨_, _, trail, text, isBlank_of_mem_takeWhile piece, blank, trimChars_trimChars piece, ?_,
    start, stop⟩
  intro none
  unfold spanBehind? spanOf? at found
  rw [left, none] at found
  cases found

theorem blank_of_spanBehind? (none : spanBehind? front piece = none) :
    ∀ c ∈ piece, isBlank c = true := by
  intro c member
  rw [← Text.map_char_locateFrom (byteLength front) piece] at member
  obtain ⟨l, located, rfl⟩ := List.mem_map.1 member
  by_contra visible
  obtain ⟨span, found⟩ := exists_span located (eq_false_of_ne_true visible)
  rw [spanBehind?, found] at none
  cases none

theorem Left.visible (left : Left front piece span lead inner trail) :
    ∃ c rest, inner = c :: rest ∧ isBlank c = false := by
  cases text : inner with
  | nil => exact absurd text left.some
  | cons c rest =>
    exact ⟨c, rest, rfl, visible_of_trimChars (left.trimmed.trans text)⟩

/-- A text with nothing to leave out is a statement as a whole. -/
theorem spanBehind?_trimmed (left : Left front piece span lead inner trail) :
    spanBehind? [] inner = some ⟨0, byteLength inner⟩ := by
  obtain ⟨c, rest, text, visible⟩ := left.visible
  cases found : spanBehind? [] inner with
  | none =>
    have blank := blank_of_spanBehind? found c (text ▸ List.mem_cons_self)
    exact absurd (visible.symm.trans blank) Bool.false_ne_true
  | some span =>
    have none : inner.takeWhile isBlank = [] := by
      rw [text]
      exact List.takeWhile_cons_of_neg (by simp [visible])
    have kept := trimPiece_locateFrom (byteLength []) inner
    rw [none, left.trimmed] at kept
    obtain ⟨start, stop⟩ := span_of_trimPiece kept found
    have zero : byteLength [] + byteLength [] = 0 := rfl
    rw [zero] at start stop
    rw [Nat.zero_add] at stop
    rw [← stop, ← start]

/-! Statements by themselves. -/

/-- Behind a place outside of quotes, a line with a visible character behind that place goes on only
by what stands there. -/
theorem continues_of_append (outside : Quotation.outside.after front = .outside)
    (visible : isBlank c = false) (continues : Continues (front ++ c :: back)) :
    Continues (c :: back) := by
  obtain ⟨head, trail, text, closed, blank⟩ := continues
  rcases List.append_eq_append_iff.1 text with ⟨more, rfl, behind⟩ | ⟨more, rfl, behind⟩
  · rw [Quotation.after_append, outside] at closed
    exact ⟨more, trail, behind, closed, blank⟩
  · cases more with
    | nil =>
      rw [List.nil_append] at behind
      exact ⟨[], trail, behind.symm, rfl, blank⟩
    | cons e more =>
      obtain ⟨-, rfl⟩ := List.cons.inj behind
      obtain ⟨here, -⟩ := blank c (by simp)
      exact absurd (visible.symm.trans here) Bool.false_ne_true

/-- What separates statements in a statement by itself separates them in its source. -/
theorem whole_of_left (left : Left front piece span lead inner trail) (whole : Whole front piece)
    (free : Standing.free.after front = .free) : Whole [] inner := by
  obtain ⟨c, rest, text, visible⟩ := left.visible
  have start : Standing.free.after (front ++ lead) = .free := by
    rw [Standing.after_append, free, Standing.after_blanks left.lead_blank]
  have outside : Quotation.outside.after (front ++ lead) = .outside :=
    Standing.quotation_of_after start
  rintro before d first ⟨standing, sign⟩
  have within : (lead ++ before) ++ [d] <+: piece := by
    rw [left.text, List.append_assoc]
    exact (List.prefix_append_right_inj lead).2 (first.trans (List.prefix_append inner trail))
  refine whole (lead ++ before) d within ⟨?_, sign.imp_right (fun line => ⟨line.1, ?_⟩)⟩
  · rw [← List.append_assoc, Standing.after_append, start]
    exact standing
  · obtain ⟨rfl, goes⟩ := line
    intro continues
    rw [text] at first
    cases before with
    | nil =>
      obtain ⟨same, -⟩ := List.cons_prefix_cons.1 first
      rw [← same] at visible
      exact absurd visible (by decide)
    | cons e before =>
      obtain ⟨rfl, -⟩ := List.cons_prefix_cons.1 first
      rw [← List.append_assoc] at continues
      exact goes (continues_of_append outside visible continues)

/-- A part of a source without separators holds one statement at most. -/
theorem Cuts.eq_of_whole (cuts : Cuts front cs spans) (whole : Whole front cs) :
    spans = (spanBehind? front cs).toList := by
  cases cuts with
  | last => rfl
  | @cut _ piece back c spans _ separates _ =>
    have first : piece ++ [c] <+: piece ++ c :: back := ⟨back, by simp⟩
    exact absurd separates (whole piece c first)

/-- A statement is the only one in its own text. -/
theorem splitStatements_inner (left : Left front piece span lead inner trail)
    (whole : Whole front piece) (free : Standing.free.after front = .free) :
    splitStatements (String.ofList inner) = [⟨0, byteLength inner⟩] := by
  have cuts := cuts_splitStatements (String.ofList inner)
  rw [String.toList_ofList] at cuts
  rw [cuts.eq_of_whole (whole_of_left left whole free), spanBehind?_trimmed left]
  rfl

/-! Statements in a source. -/

/-- Every statement is that of a piece between separators. -/
theorem Cuts.exists_piece (cuts : Cuts front cs spans) (free : Standing.free.after front = .free)
    (member : span ∈ spans) :
    ∃ before piece behind, cs = before ++ (piece ++ behind) ∧ Whole (front ++ before) piece ∧
      Standing.free.after (front ++ before) = .free ∧
        spanBehind? (front ++ before) piece = some span := by
  induction cuts with
  | @last front piece whole =>
    refine ⟨[], piece, [], by simp, ?_⟩
    rw [List.append_nil]
    exact ⟨whole, free, Option.mem_toList.1 member⟩
  | @cut front piece back c spans whole separates _ ih =>
    rcases List.mem_append.1 member with here | later
    · refine ⟨[], piece, c :: back, by simp, ?_⟩
      rw [List.append_nil]
      exact ⟨whole, free, Option.mem_toList.1 here⟩
    · have behind : Standing.free.after (front ++ (piece ++ [c])) = .free := by
        rw [← List.append_assoc]
        exact separates.free
      obtain ⟨before, next, after, rfl, rest⟩ := ih behind later
      refine ⟨piece ++ [c] ++ before, next, after, by simp, ?_⟩
      rwa [← List.append_assoc]

theorem Cuts.start_le (cuts : Cuts front cs spans) (free : Standing.free.after front = .free)
    (member : span ∈ spans) : byteLength front ≤ span.start := by
  obtain ⟨before, piece, behind, -, -, -, found⟩ := cuts.exists_piece free member
  obtain ⟨lead, inner, trail, left⟩ := exists_left found
  rw [left.start, Text.byteLength_append, Text.byteLength_append, Nat.add_assoc]
  exact Nat.le_add_right _ _

/-- Each statement stands behind those before it. -/
theorem Cuts.pairwise (cuts : Cuts front cs spans) (free : Standing.free.after front = .free) :
    spans.Pairwise (fun a b => a.stop ≤ b.start) := by
  induction cuts with
  | @last front piece _ =>
    cases spanBehind? front piece <;> simp
  | @cut front piece back c spans whole separates later ih =>
    have behind : Standing.free.after (front ++ (piece ++ [c])) = .free := by
      rw [← List.append_assoc]
      exact separates.free
    refine List.pairwise_append.2 ⟨?_, ih behind, ?_⟩
    · cases spanBehind? front piece <;> simp
    · intro a found b member
      obtain ⟨lead, inner, trail, left⟩ := exists_left (Option.mem_toList.1 found)
      have start := later.start_le behind member
      have stop := left.stop
      rw [left.text] at start
      simp only [Text.byteLength_append] at start stop
      omega

/-- A visible character of a piece stands in what is left of the piece. -/
theorem Left.exists_within {before behind : List Char}
    (left : Left front piece span lead inner trail) (split : piece = before ++ c :: behind)
    (visible : isBlank c = false) :
    ∃ first last, inner = first ++ c :: last ∧ before = lead ++ first := by
  have other : ∀ {cs : List Char}, (∀ d ∈ cs, isBlank d = true) → c ∉ cs := by
    intro cs blank member
    exact absurd (visible.symm.trans (blank c member)) Bool.false_ne_true
  have text := left.text.symm.trans split
  rcases List.append_eq_append_iff.1 text with ⟨first, rfl, inside⟩ | ⟨more, early, inside⟩
  · rcases List.append_eq_append_iff.1 inside with ⟨more, -, late⟩ | ⟨last, here, late⟩
    · exact absurd (late ▸ by simp) (other left.trail_blank)
    · cases last with
      | nil =>
        rw [List.nil_append] at late
        exact absurd (late ▸ List.mem_cons_self) (other left.trail_blank)
      | cons d last =>
        obtain ⟨rfl, -⟩ := List.cons.inj late
        exact ⟨first, last, here, rfl⟩
  · cases more with
    | nil =>
      obtain ⟨d, rest, begins, -⟩ := left.visible
      rw [begins] at inside
      obtain ⟨rfl, -⟩ := List.cons.inj inside
      exact ⟨[], rest, begins, by rw [early, List.append_nil, List.append_nil]⟩
    | cons d more =>
      obtain ⟨rfl, -⟩ := List.cons.inj inside
      exact absurd (early ▸ by simp) (other left.lead_blank)

/-- Whether a character behind some others stands in one of the statements. -/
def Covered (spans : List Span) (before : List Char) (c : Char) : Prop :=
  ∃ span ∈ spans, span.start ≤ byteLength before ∧ byteLength before + c.utf8Size ≤ span.stop

theorem covered_piece {before behind : List Char} (split : piece = before ++ c :: behind) :
    Covered (spanBehind? front piece).toList (front ++ before) c ∨ isBlank c = true := by
  cases visible : isBlank c with
  | true => exact .inr rfl
  | false =>
    left
    cases found : spanBehind? front piece with
    | none =>
      have blank := blank_of_spanBehind? found c (by simp [split])
      exact absurd (visible.symm.trans blank) Bool.false_ne_true
    | some span =>
      obtain ⟨lead, inner, trail, left⟩ := exists_left found
      obtain ⟨first, last, rfl, rfl⟩ := left.exists_within split visible
      refine ⟨span, List.mem_singleton_self span, ?_⟩
      rw [left.start, left.stop]
      simp only [Text.byteLength_append, Text.byteLength_cons]
      omega

/-- Outside of statements stand blanks and separators. -/
theorem Cuts.between {before behind : List Char} (cuts : Cuts front cs spans)
    (split : cs = before ++ c :: behind) :
    Covered spans (front ++ before) c ∨ isBlank c = true ∨ Separates (front ++ before) c := by
  induction cuts generalizing before with
  | last => exact (covered_piece split).imp_right .inl
  | @cut front piece back d spans _ separates _ ih =>
    rcases List.append_eq_append_iff.1 split with ⟨more, rfl, rest⟩ | ⟨more, early, rest⟩
    · cases more with
      | nil =>
        obtain ⟨rfl, -⟩ := List.cons.inj rest
        rw [List.append_nil]
        exact .inr (.inr separates)
      | cons e more =>
        obtain ⟨rfl, later⟩ := List.cons.inj rest
        have place : front ++ (piece ++ d :: more) = front ++ (piece ++ [d]) ++ more := by simp
        rw [place]
        refine (ih later).imp_left ?_
        rintro ⟨span, member, bounds⟩
        exact ⟨span, List.mem_append_right _ member, bounds⟩
    · cases more with
      | nil =>
        obtain ⟨rfl, -⟩ := List.cons.inj rest
        rw [List.append_nil] at early
        exact .inr (.inr (early ▸ separates))
      | cons e more =>
        obtain ⟨rfl, -⟩ := List.cons.inj rest
        have here : Covered (spanBehind? front piece).toList (front ++ before) c ∨
            isBlank c = true := covered_piece early
        rcases here with ⟨span, member, bounds⟩ | blank
        · exact .inl ⟨span, List.mem_append_left _ member, bounds⟩
        · exact .inr (.inl blank)

/-- Every byte of a text belongs to a character. -/
theorem exists_char {i : Nat} (inside : i < byteLength cs) :
    ∃ before c behind, cs = before ++ c :: behind ∧ byteLength before ≤ i ∧
      i < byteLength before + c.utf8Size := by
  induction cs generalizing i with
  | nil => cases inside
  | cons d cs ih =>
    by_cases here : i < d.utf8Size
    · exact ⟨[], d, cs, rfl, Nat.zero_le i, by simpa [byteLength] using here⟩
    · rw [Text.byteLength_cons] at inside
      obtain ⟨before, c, behind, rfl, low, high⟩ := @ih (i - d.utf8Size) (by omega)
      refine ⟨d :: before, c, behind, rfl, ?_, ?_⟩
      all_goals
        rw [Text.byteLength_cons]
        omega

/-- How statements stand in a source. -/
structure Separated (s : String) (spans : List Span) : Prop where
  /-- Each has a text of its own, with nothing to leave out, and is the only one in it. -/
  alone : ∀ span ∈ spans, ∃ text, cut? s span.start span.stop = some text ∧ text ≠ "" ∧
    Text.trim text = text ∧ splitStatements text = [⟨0, byteLength text.toList⟩]
  nonempty : ∀ span ∈ spans, span.start < span.stop
  ordered : spans.Pairwise (fun a b => a.stop ≤ b.start)
  /-- A byte that belongs to no statement is one of a blank or a semicolon between statements. -/
  between : ∀ i < byteLength s.toList, (∀ span ∈ spans, ¬(span.start ≤ i ∧ i < span.stop)) →
    ∃ front c back, s.toList = front ++ c :: back ∧ byteLength front ≤ i ∧
      i < byteLength front + c.utf8Size ∧ (isBlank c = true ∨ c = ';' ∧ Separates front c)

/-- The statements of a source are nonempty and stand apart in order, nothing but blanks and
separators is left out, and each is a statement by itself. -/
theorem separated_splitStatements (s : String) : Separated s (splitStatements s) := by
  have cuts := cuts_splitStatements s
  have free : Standing.free.after [] = .free := rfl
  refine ⟨fun span member => ?_, fun span member => ?_, cuts.pairwise free, fun i inside out => ?_⟩
  · obtain ⟨before, piece, behind, split, whole, free, found⟩ := cuts.exists_piece free member
    obtain ⟨lead, inner, trail, left⟩ := exists_left found
    rw [List.nil_append] at whole free left
    have text : s.toList = (before ++ lead) ++ (inner ++ (trail ++ behind)) := by
      rw [split, left.text]
      simp only [List.append_assoc]
    refine ⟨String.ofList inner, ?_, ?_, ?_, ?_⟩
    · rw [left.start, left.stop]
      exact Text.cut?_middle text
    · intro none
      exact left.some (String.ofList_injective none)
    · rw [Text.trim, String.toList_ofList, left.trimmed]
    · rw [splitStatements_inner left whole free, String.toList_ofList]
  · obtain ⟨before, piece, behind, -, -, -, found⟩ := cuts.exists_piece free member
    obtain ⟨lead, inner, trail, left⟩ := exists_left found
    obtain ⟨c, rest, text, -⟩ := left.visible
    have size := Char.utf8Size_pos c
    rw [left.start, left.stop, text, Text.byteLength_cons]
    omega
  · obtain ⟨before, c, behind, split, low, high⟩ := exists_char inside
    refine ⟨before, c, behind, split, low, high, ?_⟩
    rcases cuts.between split with ⟨span, member, start, stop⟩ | blank | separates
    · rw [List.nil_append] at start stop
      exact absurd ⟨by omega, by omega⟩ (out span member)
    · exact .inl blank
    · exact separates.isBlank_or.imp_right (fun semicolon => ⟨semicolon, separates⟩)

end ThreatHunt.Source
