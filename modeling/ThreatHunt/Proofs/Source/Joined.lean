import Mathlib.Data.List.TakeWhile
import ThreatHunt.Proofs.Source.Parts
import ThreatHunt.Proofs.Source.Pieces

/-!
Characters that stand in one statement. Brackets and quotes keep the lines between them together,
so a part of a source whose brackets match is passed as a whole; blanks behind it make no further
statement.
-/

namespace ThreatHunt.Source

open Text (Located locateFrom byteLength isBlank)

variable {before between after : Nat} {c quote : Char} {cs front back : List Char}

/-- Characters that are passed as one, outside of quotes, and change how many brackets are open. -/
def Joins (before after : Nat) (cs : List Char) : Prop :=
  ∀ (piece : List Located) (start : Nat) (rest : List Char),
    splitFrom ⟨none, before, false⟩ piece (locateFrom start (cs ++ rest)) =
      splitFrom ⟨none, after, false⟩ ((locateFrom start cs).reverse ++ piece)
        (locateFrom (start + byteLength cs) rest)

theorem joins_nil (depth : Nat) : Joins depth depth [] := fun _ _ _ => rfl

theorem Joins.append (first : Joins before between front) (second : Joins between after back) :
    Joins before after (front ++ back) := by
  intro piece start rest
  rw [List.append_assoc, first, second, Text.locateFrom_append, List.reverse_append,
    List.append_assoc, Text.byteLength_append, Nat.add_assoc]

/-- A character that separates no statements here is passed. -/
theorem joins_one (goes : Splitter.ends ⟨none, before, false⟩ c = false)
    (steps : ∀ rest, Splitter.step ⟨none, before, false⟩ c rest = ⟨none, after, false⟩) :
    Joins before after [c] := by
  intro piece start rest
  rw [List.singleton_append, locateFrom, splitFrom_goes rfl goes, steps]
  rfl

theorem joins_open (opens : isOpening c = true) (depth : Nat) : Joins depth (depth + 1) [c] := by
  have cases : c = '(' ∨ c = '[' ∨ c = '\x7b' := by simpa [isOpening, or_assoc] using opens
  refine joins_one ?_ (fun rest => ?_)
  all_goals rcases cases with rfl | rfl | rfl <;> simp [Splitter.ends, Splitter.step, isQuote, opens]

theorem joins_close (closes : isClosing c = true) (depth : Nat) : Joins (depth + 1) depth [c] := by
  have cases : c = ')' ∨ c = ']' ∨ c = '\x7d' := by simpa [isClosing, or_assoc] using closes
  refine joins_one ?_ (fun rest => ?_)
  all_goals
    rcases cases with rfl | rfl | rfl <;>
      simp [Splitter.ends, Splitter.step, isQuote, isOpening, closes]

/-- A character that means nothing to the splitter, but may end a line or a statement. -/
def isInert (c : Char) : Bool := !isQuote c && !isOpening c && !isClosing c && c != '\\'

/-- The characters that mean something to the splitter on one line of one statement. -/
def splitterSigns : List Char := ['\'', '\x22', '(', '[', '\x7b', ')', ']', '\x7d', '\\']

theorem isInert_of_class {inClass : Char → Bool} (member : inClass c = true)
    (outside : splitterSigns.all (fun d => !inClass d) = true) : isInert c = true := by
  have plain : ∀ d ∈ splitterSigns, c ≠ d := fun d sign =>
    ne_of_class member d (Bool.not_eq_true' _ ▸ List.all_eq_true.1 outside d sign)
  simp (disch := decide) [isInert, isQuote, isOpening, isClosing, plain]

theorem joins_inert (inert : isInert c = true) (depth : Nat) :
    Joins (depth + 1) (depth + 1) [c] := by
  simp only [isInert, Bool.and_eq_true, Bool.not_eq_true', bne_iff_ne, ne_eq] at inert
  obtain ⟨⟨⟨quoted, opens⟩, closes⟩, backslash⟩ := inert
  refine joins_one (by simp [Splitter.ends]) (fun rest => ?_)
  simp [Splitter.step, quoted, opens, closes, backslash]

/-- On one line of one statement, brackets need not be open. -/
theorem joins_inert_line (inert : isInert c = true) (line : c ≠ '\n') (separator : c ≠ ';')
    (depth : Nat) : Joins depth depth [c] := by
  simp only [isInert, Bool.and_eq_true, Bool.not_eq_true', bne_iff_ne, ne_eq] at inert
  obtain ⟨⟨⟨quoted, opens⟩, closes⟩, backslash⟩ := inert
  refine joins_one ?_ (fun rest => ?_)
  · simp [Splitter.ends, line, separator]
  · simp [Splitter.step, quoted, opens, closes, backslash, line]

theorem joins_all (each : ∀ c ∈ cs, Joins before before [c]) : Joins before before cs := by
  induction cs with
  | nil => exact joins_nil before
  | cons c cs ih =>
    obtain ⟨first, others⟩ := List.forall_mem_cons.1 each
    exact first.append (ih others)

/-! Quoted texts. -/

theorem splitFrom_between {s : Splitter} (inside : s.quote = some quote) (opens : isQuote quote = true)
    (quoted : Quoted quote cs) (piece : List Located) (start : Nat) (rest : List Char) :
    splitFrom s piece (locateFrom start (cs ++ quote :: rest)) =
      splitFrom { s with quote := none } ((locateFrom start (cs ++ [quote])).reverse ++ piece)
        (locateFrom (start + byteLength (cs ++ [quote])) rest) := by
  induction quoted generalizing piece start with
  | nil =>
    rw [List.nil_append, List.nil_append, locateFrom,
      splitFrom_quoted inside (ne_backslash_of_isQuote opens)]
    simp [locateFrom, byteLength]
  | @escaped c cs _ ih =>
    rw [List.cons_append, List.cons_append, locateFrom, locateFrom, splitFrom_escape inside rfl, ih]
    simp [locateFrom, Text.byteLength_cons, Nat.add_assoc]
  | @plain c cs backslash other _ ih =>
    have stays : ({ s with quote := if c == quote then none else some quote } : Splitter) = s := by
      rw [if_neg (by simpa using other), ← inside]
    rw [List.cons_append, locateFrom, splitFrom_quoted inside backslash, stays, ih]
    simp [locateFrom, Text.byteLength_cons, Nat.add_assoc]

theorem joins_quoted (opens : isQuote quote = true) (quoted : Quoted quote cs) (depth : Nat) :
    Joins depth depth (quote :: (cs ++ [quote])) := by
  intro piece start rest
  have goes : Splitter.ends ⟨none, depth, false⟩ quote = false := by
    rcases (by simpa [isQuote] using opens : quote = '\'' ∨ quote = '\x22') with rfl | rfl <;>
      simp [Splitter.ends]
  have steps : Splitter.step ⟨none, depth, false⟩ quote
      (locateFrom (start + quote.utf8Size) (cs ++ quote :: rest)) = ⟨some quote, depth, false⟩ := by
    rw [Splitter.step, if_pos opens]
  rw [List.cons_append, List.append_assoc, List.singleton_append, locateFrom,
    splitFrom_goes rfl goes, steps, splitFrom_between rfl opens quoted]
  simp [locateFrom, Text.byteLength_cons, Nat.add_assoc]

/-! Blanks around statements. -/

theorem trimPiece_concat (blank : isBlank c = true) (offset : Nat) (piece : List Located) :
    trimPiece (piece ++ [⟨offset, c⟩]) = trimPiece piece := by
  unfold trimPiece
  dsimp only
  rw [List.dropWhile_append]
  cases piece.dropWhile (fun c => isBlank c.char) with
  | nil => simp [blank]
  | cons d front => simp [blank]

theorem spanOf?_concat (blank : isBlank c = true) (offset : Nat) (piece : List Located) :
    spanOf? (⟨offset, c⟩ :: piece).reverse = spanOf? piece.reverse := by
  rw [List.reverse_cons]
  unfold spanOf?
  rw [trimPiece_concat blank]

theorem inert_of_isBlank (blank : isBlank c = true) : isInert c = true ∧ c ≠ ';' :=
  ⟨isInert_of_class blank (by decide), ne_of_class blank ';' (by decide)⟩

/-- A line feed outside of brackets ends a statement. -/
theorem splitFrom_line (piece : List Located) (start : Nat) (rest : List Char) :
    splitFrom .initial piece (locateFrom start ('\n' :: rest)) =
      piece.reverse :: splitFrom .initial [] (locateFrom (start + 1) rest) := by
  have ends : Splitter.initial.ends '\n' = true := by decide
  have steps : ∀ rest, Splitter.initial.step '\n' rest = .initial := fun _ => rfl
  have size : '\n'.utf8Size = 1 := rfl
  rw [locateFrom, splitFrom_ends rfl ends, steps, size]

theorem splitFrom_blank (blank : isBlank c = true) (other : c ≠ '\n') (piece : List Located)
    (start : Nat) (rest : List Char) :
    splitFrom .initial piece (locateFrom start (c :: rest)) =
      splitFrom .initial (⟨start, c⟩ :: piece) (locateFrom (start + c.utf8Size) rest) := by
  obtain ⟨inert, separator⟩ := inert_of_isBlank blank
  have goes : Splitter.initial.ends c = false := by
    simp [Splitter.ends, other, separator]
  have steps : Splitter.initial.step c (locateFrom (start + c.utf8Size) rest) = .initial := by
    simp only [isInert, Bool.and_eq_true, Bool.not_eq_true', bne_iff_ne, ne_eq] at inert
    obtain ⟨⟨⟨quoted, opens⟩, closes⟩, backslash⟩ := inert
    simp [Splitter.step, quoted, opens, closes, backslash, other]
  rw [locateFrom, splitFrom_goes rfl goes, steps]

/-- Blanks before the end of a source make no statement. -/
theorem spans_blanks {trail : List Char} (blank : ∀ c ∈ trail, isBlank c = true)
    (piece : List Located) (start : Nat) :
    (splitFrom .initial piece (locateFrom start trail)).filterMap spanOf? =
      (spanOf? piece.reverse).toList := by
  induction trail generalizing piece start with
  | nil => cases found : spanOf? piece.reverse <;> simp [locateFrom, splitFrom_nil, found]
  | cons c trail ih =>
    obtain ⟨here, others⟩ := List.forall_mem_cons.1 blank
    by_cases line : c = '\n'
    · have none : spanOf? [] = none := rfl
      rw [line, splitFrom_line, List.filterMap_cons, ih others, List.reverse_nil, none]
      cases spanOf? piece.reverse <;> rfl
    · rw [splitFrom_blank here line, ih others, spanOf?_concat here]

/-- Behind blanks with a line feed among them stands another statement. -/
theorem splitFrom_blanks {lead : List Char} (blank : ∀ c ∈ lead, isBlank c = true)
    (piece : List Located) (start : Nat) (rest : List Char) :
    ∃ pieces last, splitFrom .initial piece (locateFrom start (lead ++ rest)) =
        pieces ++ splitFrom .initial last (locateFrom (start + byteLength lead) rest) ∧
      ('\n' ∈ lead → (spanOf? piece.reverse).toList.length ≤ (pieces.filterMap spanOf?).length) := by
  induction lead generalizing piece start with
  | nil => exact ⟨[], piece, rfl, nofun⟩
  | cons c lead ih =>
    obtain ⟨here, others⟩ := List.forall_mem_cons.1 blank
    rw [List.cons_append, Text.byteLength_cons, ← Nat.add_assoc]
    by_cases line : c = '\n'
    · obtain ⟨pieces, last, split, -⟩ := ih others [] (start + 1)
      refine ⟨piece.reverse :: pieces, last, ?_, fun _ => ?_⟩
      · rw [line, splitFrom_line, split]
        rfl
      · rw [List.filterMap_cons]
        cases spanOf? piece.reverse <;> simp
    · obtain ⟨pieces, last, split, longer⟩ := ih others (⟨start, c⟩ :: piece) (start + c.utf8Size)
      refine ⟨pieces, last, by rw [splitFrom_blank here line, split], fun member => ?_⟩
      rw [← spanOf?_concat here start piece]
      exact longer ((List.mem_cons.1 member).resolve_left (fun same => line same.symm))

/-- What begins and ends with visible characters is what is left without the blanks behind it. -/
theorem trimChars_append {d : Char} {trail : List Char} (first : isBlank c = false)
    (last : isBlank d = false) (middle : List Char) (blank : ∀ c ∈ trail, isBlank c = true) :
    Text.trimChars (c :: (middle ++ [d]) ++ trail) = c :: (middle ++ [d]) := by
  have begins : (c :: (middle ++ [d]) ++ trail).dropWhile isBlank = c :: (middle ++ [d]) ++ trail :=
    List.dropWhile_cons_of_neg (by simp [first])
  have ends : (d :: (c :: middle).reverse).dropWhile isBlank = d :: (c :: middle).reverse :=
    List.dropWhile_cons_of_neg (by simp [last])
  have turned : (c :: (middle ++ [d]) ++ trail).reverse =
      trail.reverse ++ d :: (c :: middle).reverse := by simp
  rw [Text.trimChars, begins, Text.trimEndChars, turned, List.dropWhile_append_of_pos
    (fun c member => blank c (List.mem_reverse.1 member)), ends]
  simp

/-- What begins and ends with characters that are no blanks is a statement as a whole. -/
theorem spanOf?_locateFrom {d : Char} (first : isBlank c = false) (last : isBlank d = false)
    (middle : List Char) (start : Nat) :
    spanOf? (locateFrom start (c :: (middle ++ [d]))) =
      some ⟨start, start + byteLength (c :: (middle ++ [d]))⟩ := by
  have none : (c :: (middle ++ [d])).takeWhile isBlank = [] :=
    List.takeWhile_cons_of_neg (by simp [first])
  have whole : Text.trimChars (c :: (middle ++ [d])) = c :: (middle ++ [d]) := by
    have trimmed := trimChars_append first last middle (List.forall_mem_nil _)
    rwa [List.append_nil] at trimmed
  have trimmed := trimPiece_locateFrom start (c :: (middle ++ [d]))
  rw [none, whole] at trimmed
  have same : start + byteLength [] = start := rfl
  rw [same] at trimmed
  cases found : spanOf? (locateFrom start (c :: (middle ++ [d]))) with
  | none =>
    obtain ⟨ending, ends, -⟩ := getLast?_locateFrom start c (middle ++ [d])
    unfold spanOf? at found
    rw [trimmed] at found
    dsimp only at found
    rw [ends] at found
    cases found
  | some span =>
    obtain ⟨begins, ends⟩ := span_of_trimPiece trimmed found
    rw [← ends, ← begins]

/-- A statement that begins and ends with visible characters, with blanks behind it. -/
theorem spans_joined {d : Char} {middle trail : List Char} (first : isBlank c = false)
    (last : isBlank d = false) (joins : Joins 0 0 (c :: (middle ++ [d])))
    (blank : ∀ c ∈ trail, isBlank c = true) (start : Nat) :
    (splitFrom .initial [] (locateFrom start (c :: (middle ++ [d]) ++ trail))).filterMap spanOf? =
      [⟨start, start + byteLength (c :: (middle ++ [d]))⟩] := by
  have passed := joins [] start trail
  have initial : Splitter.initial = ⟨none, 0, false⟩ := rfl
  rw [← initial] at passed
  rw [passed, spans_blanks blank, List.append_nil, List.reverse_reverse,
    spanOf?_locateFrom first last]
  rfl

/-- A piece with a visible character is a statement. -/
theorem exists_span {c : Located} {piece : List Located} (member : c ∈ piece)
    (visible : isBlank c.char = false) : ∃ span, spanOf? piece = some span := by
  have front : c ∈ piece.dropWhile (fun c => isBlank c.char) := by
    have split : piece.takeWhile (fun c => isBlank c.char) ++
        piece.dropWhile (fun c => isBlank c.char) = piece := List.takeWhile_append_dropWhile
    rw [← split] at member
    rcases List.mem_append.1 member with blank | left
    · have here := List.all_eq_true.1 List.all_takeWhile c blank
      exact absurd (visible.symm.trans here) Bool.false_ne_true
    · exact left
  have some : trimPiece piece ≠ [] := by
    unfold trimPiece
    dsimp only
    rw [ne_eq, List.reverse_eq_nil_iff, List.dropWhile_eq_nil_iff]
    intro blank
    exact absurd (visible.symm.trans (blank c (List.mem_reverse.2 front))) Bool.false_ne_true
  unfold spanOf?
  dsimp only
  rw [List.head?_eq_some_head some, List.getLast?_eq_some_getLast some]
  exact ⟨_, rfl⟩

/-- What stands in one statement with something before it and behind it has no line feed between
them, as there are no brackets that keep the lines together. -/
theorem line_of_one {lead trail : List Char} {c d : Char} (head : Joins 0 0 front)
    (core : Joins 0 0 back) (visible : c ∈ front ∧ isBlank c = false)
    (visible' : d ∈ back ∧ isBlank d = false) (spaces : ∀ c ∈ lead, isBlank c = true)
    (blank : ∀ c ∈ trail, isBlank c = true) {start : Nat}
    (one : ((splitFrom .initial [] (locateFrom start (front ++ (lead ++ (back ++ trail))))).filterMap
      spanOf?).length = 1) : '\n' ∉ lead := by
  have found : ∀ {cs : List Char} {c : Char} (start : Nat) (piece : List Located), c ∈ cs →
      isBlank c = false → ∃ span, spanOf? ((locateFrom start cs).reverse ++ piece).reverse =
        some span := by
    intro cs c start piece member visible
    rw [← Text.map_char_locateFrom start cs] at member
    obtain ⟨l, located, rfl⟩ := List.mem_map.1 member
    exact exists_span (by simp [located]) visible
  intro line
  have initial : Splitter.initial = ⟨none, 0, false⟩ := rfl
  have first := head [] start (lead ++ (back ++ trail))
  rw [← initial] at first
  obtain ⟨pieces, last, split, longer⟩ := splitFrom_blanks spaces
    ((locateFrom start front).reverse ++ []) (start + byteLength front) (back ++ trail)
  have second := core last (start + byteLength front + byteLength lead) trail
  rw [← initial] at second
  obtain ⟨before, isBefore⟩ := found start [] visible.1 visible.2
  obtain ⟨behind, isBehind⟩ := found (start + byteLength front + byteLength lead) last visible'.1
    visible'.2
  have some := longer line
  rw [isBefore] at some
  rw [first, split, second, List.filterMap_append, spans_blanks blank, isBehind,
    List.length_append] at one
  simp only [Option.toList_some, List.length_singleton] at some one
  omega

end ThreatHunt.Source
