import Mathlib.Data.List.Induction
import Mathlib.Data.List.Forall2
import ThreatHunt.Proofs.Source.Parts
import ThreatHunt.Proofs.Text.Located
import ThreatHunt.Command.Script

/-!
Places in a source of which the comments are blanked. Blanking keeps the lines, but a character of
several bytes gives way to as many blanks, so behind a comment with such a character the columns of
its line are larger than those of the source.
-/

namespace ThreatHunt.Source

open Text (Located Position locateFrom locate byteLength before positionAt)

/-- A character of a source in its place. -/
structure Marked extends Located where
  commented : Bool

namespace Marked

/-- What is left of a character before byte `offset` when comments are blanked. -/
def shown (offset : Nat) (m : Marked) : List Char :=
  if m.commented then (blank m.char).take (offset - m.offset) else [m.char]

/-- The columns that are left of a character before byte `offset`. -/
def columns (offset : Nat) (m : Marked) : Nat :=
  if m.commented then min m.char.utf8Size (offset - m.offset) else 1

end Marked

def Part.flagged (p : Part) : List (Char × Bool) := p.chars.map (·, p.isComment)

def markFrom : Nat → List (Char × Bool) → List Marked
  | _, [] => []
  | start, (c, commented) :: cs => ⟨⟨start, c⟩, commented⟩ :: markFrom (start + c.utf8Size) cs

/-- The characters of a source of some parts. -/
def markParts (parts : List Part) : List Marked := markFrom 0 (parts.flatMap Part.flagged)

/-- The characters behind the last line feed. -/
def lastMarked (ms : List Marked) : List Marked := (ms.reverse.takeWhile (·.char != '\n')).reverse

/-- The characters that stand before byte `offset` on its line. -/
def lineBefore (parts : List Part) (offset : Nat) : List Marked :=
  lastMarked ((markParts parts).takeWhile (·.offset < offset))

/-- The columns that blanking adds before byte `offset` on its line. -/
def surplus (parts : List Part) (offset : Nat) : Nat :=
  ((lineBefore parts offset).map (fun m => m.columns offset - 1)).sum

variable {start offset : Nat} {c : Char} {cs back : List Char} {m : Marked} {ms : List Marked}
  {flags : List (Char × Bool)} {parts : List Part} {text : String}

/-! Characters before a byte. -/

theorem before_late (late : offset ≤ start) (cs : List Char) :
    before (locateFrom start cs) offset = [] := by
  cases cs with
  | nil => rfl
  | cons c cs => simp [before, locateFrom, late]

theorem before_cons (early : start < offset) (c : Char) (cs : List Char) :
    before (locateFrom start (c :: cs)) offset =
      c :: before (locateFrom (start + c.utf8Size) cs) offset := by
  simp [before, locateFrom, early]

/-- Characters of one byte each. -/
theorem before_small (small : ∀ c ∈ cs, c.utf8Size = 1) (start : Nat) (back : List Char) :
    before (locateFrom start (cs ++ back)) offset =
      cs.take (offset - start) ++ before (locateFrom (start + cs.length) back) offset := by
  induction cs generalizing start with
  | nil => simp
  | cons c cs ih =>
    obtain ⟨size, others⟩ := List.forall_mem_cons.1 small
    rw [List.cons_append, List.length_cons]
    by_cases early : start < offset
    · have taken : offset - start = (offset - (start + 1)) + 1 := by omega
      rw [before_cons early, size, ih others, taken, List.take_succ_cons, List.cons_append,
        Nat.add_assoc, Nat.add_comm 1]
    · have late : offset - start = 0 := by omega
      rw [before_late (by omega), before_late (by omega), late]
      rfl

theorem small_of_mem_blank {d : Char} (member : d ∈ blank c) : d.utf8Size = 1 := by
  unfold blank at member
  split at member
  · rename_i breaks
    simp only [Bool.or_eq_true, beq_iff_eq] at breaks
    rw [List.mem_singleton.1 member]
    rcases breaks with rfl | rfl <;> rfl
  · rw [List.eq_of_mem_replicate member]
    rfl

theorem length_blank (c : Char) : (blank c).length = c.utf8Size := by
  unfold blank
  split
  · rename_i breaks
    simp only [Bool.or_eq_true, beq_iff_eq] at breaks
    rcases breaks with rfl | rfl <;> rfl
  · exact List.length_replicate

/-- What is written for characters, if each takes the bytes of its character: what is written
before a byte is what is left of the characters before it. -/
theorem before_flatMap {write : Char × Bool → List Char} {left : Marked → List Char}
    (each : ∀ (m : Marked) (back : List Char), m.offset < offset →
      before (locateFrom m.offset (write (m.char, m.commented) ++ back)) offset =
        left m ++ before (locateFrom (m.offset + m.char.utf8Size) back) offset)
    (start : Nat) (flags : List (Char × Bool)) :
    before (locateFrom start (flags.flatMap write)) offset =
      ((markFrom start flags).takeWhile (·.offset < offset)).flatMap left := by
  induction flags generalizing start with
  | nil => rfl
  | cons f flags ih =>
    obtain ⟨c, commented⟩ := f
    by_cases early : start < offset
    · rw [markFrom, List.takeWhile_cons_of_pos (by simpa using early), List.flatMap_cons,
        List.flatMap_cons, ← ih]
      exact each ⟨⟨start, c⟩, commented⟩ _ early
    · rw [markFrom, List.takeWhile_cons_of_neg (by simpa using early), before_late (by omega)]
      rfl

/-- What is left of a character when comments are blanked. -/
def shownChar (f : Char × Bool) : List Char := if f.2 then blank f.1 else [f.1]

theorem before_shown (start : Nat) (flags : List (Char × Bool)) :
    before (locateFrom start (flags.flatMap shownChar)) offset =
      ((markFrom start flags).takeWhile (·.offset < offset)).flatMap (Marked.shown offset) := by
  refine before_flatMap (fun m back early => ?_) start flags
  cases commented : m.commented with
  | false =>
    rw [Marked.shown, commented]
    exact before_cons early m.char back
  | true =>
    have parts : before (locateFrom m.offset (blank m.char ++ back)) offset =
        (blank m.char).take (offset - m.offset) ++
          before (locateFrom (m.offset + (blank m.char).length) back) offset :=
      before_small (fun _ => small_of_mem_blank) m.offset back
    rw [length_blank] at parts
    rw [Marked.shown, commented]
    exact parts

theorem before_marked (start : Nat) (flags : List (Char × Bool)) :
    before (locateFrom start (flags.map Prod.fst)) offset =
      ((markFrom start flags).takeWhile (·.offset < offset)).map (·.char) := by
  rw [List.map_eq_flatMap, List.map_eq_flatMap]
  exact before_flatMap (fun m back early => before_cons early m.char back) start flags

/-! Positions. -/

theorem advance_line (plain : '\n' ∉ cs) (p : Position) :
    cs.foldl Position.advance p = ⟨p.line, p.column + cs.length⟩ := by
  induction cs generalizing p with
  | nil => rfl
  | cons c cs ih =>
    rw [List.mem_cons, not_or] at plain
    have other : (c == '\n') = false := beq_eq_false_iff_ne.2 (Ne.symm plain.1)
    rw [List.foldl_cons, ih plain.2, Position.advance, other, List.length_cons]
    simp only [Bool.false_eq_true, if_false, Position.mk.injEq, true_and]
    omega

theorem lastMarked_snoc (ms : List Marked) (m : Marked) :
    lastMarked (ms ++ [m]) = if m.char = '\n' then [] else lastMarked ms ++ [m] := by
  rw [lastMarked, List.reverse_append, List.reverse_singleton, List.singleton_append,
    List.takeWhile_cons]
  by_cases line : m.char = '\n'
  · simp [line]
  · simp [line, lastMarked]

/-- Line feeds stay, and other characters stay on their line. -/
theorem shown_line (early : m.offset < offset) (line : m.char = '\n') :
    m.shown offset = ['\n'] := by
  have taken : offset - m.offset = (offset - m.offset - 1) + 1 := by omega
  unfold Marked.shown
  rw [line, taken]
  cases m.commented <;> simp [blank]

theorem shown_other (early : m.offset < offset) (other : m.char ≠ '\n') :
    '\n' ∉ m.shown offset ∧ (m.shown offset).length = m.columns offset ∧
      0 < m.columns offset := by
  have size := Char.utf8Size_pos m.char
  unfold Marked.shown Marked.columns
  cases m.commented with
  | false => exact ⟨by simpa using Ne.symm other, rfl, Nat.one_pos⟩
  | true =>
    simp only [if_true, List.length_take, length_blank]
    refine ⟨fun member => ?_, Nat.min_comm _ _, by omega⟩
    have blanked := List.mem_of_mem_take member
    unfold blank at blanked
    split at blanked
    · exact other (List.mem_singleton.1 blanked).symm
    · exact absurd (List.eq_of_mem_replicate blanked) (by decide)

/-- Behind what is left of characters the line is that behind the characters themselves. -/
theorem advance_shown (early : ∀ m ∈ ms, m.offset < offset) (p : Position) :
    ((ms.flatMap (Marked.shown offset)).foldl Position.advance p).line =
        ((ms.map (·.char)).foldl Position.advance p).line ∧
      ((ms.flatMap (Marked.shown offset)).foldl Position.advance p).column =
        ((ms.map (·.char)).foldl Position.advance p).column +
          ((lastMarked ms).map (fun m => m.columns offset - 1)).sum := by
  induction ms using List.reverseRecOn with
  | nil => exact ⟨rfl, rfl⟩
  | append_singleton ms m ih =>
    obtain ⟨before, here⟩ := List.forall_mem_append.1 early
    obtain ⟨line, column⟩ := ih before
    have place : m.offset < offset := here m (List.mem_singleton_self m)
    rw [List.flatMap_append, List.map_append, List.foldl_append, List.foldl_append,
      lastMarked_snoc, List.flatMap_singleton]
    by_cases ends : m.char = '\n'
    · rw [shown_line place ends, if_pos ends]
      simp [Position.advance, ends, line]
    · obtain ⟨plain, length, some⟩ := shown_other place ends
      rw [advance_line plain, if_neg ends, length]
      simp only [line, column, List.map_cons, List.map_nil, List.foldl_cons, List.foldl_nil,
        Position.advance, beq_iff_eq, ends, if_false, List.map_append, List.sum_append,
        List.sum_cons, List.sum_nil, true_and]
      omega

theorem markParts_chars (parts : List Part) :
    (parts.flatMap Part.flagged).map Prod.fst = joinParts parts := by
  rw [List.map_flatMap, joinParts]
  refine congrArg parts.flatMap (funext fun p => ?_)
  rw [Part.flagged, List.map_map]
  exact List.map_id _

theorem shown_parts (parts : List Part) :
    (parts.flatMap Part.flagged).flatMap shownChar = joinParts (parts.flatMap Part.blanked) := by
  rw [joinParts, List.flatMap_assoc, List.flatMap_assoc]
  refine congrArg parts.flatMap (funext fun p => ?_)
  rw [Part.flagged, List.flatMap_map]
  cases p with
  | plain c => rfl
  | literal cs => simp [Part.blanked, Part.isComment, Part.chars, shownChar]
  | comment cs => simp [Part.blanked, Part.isComment, Part.chars, shownChar, List.flatMap_map]

/-- Where a byte of a source is shown that is read with its comments blanked. -/
def shownAt (text : String) (parts : List Part) (offset : Nat) : Position :=
  ⟨(positionAt text offset).line, (positionAt text offset).column + surplus parts offset⟩

theorem positionAt_stripComments (parted : Parted text.toList parts) (offset : Nat) :
    positionAt (stripComments text) offset = shownAt text parts offset := by
  have source : text.toList = (parts.flatMap Part.flagged).map Prod.fst := by
    rw [markParts_chars, joinParts_of_parted parted]
  have stripped : (stripComments text).toList =
      (parts.flatMap Part.flagged).flatMap shownChar := by
    rw [stripComments, String.toList_ofList, shown_parts, joinParts_of_parted parted.blank]
  have early : ∀ m ∈ (markParts parts).takeWhile (·.offset < offset), m.offset < offset := by
    intro m member
    exact of_decide_eq_true (List.all_eq_true.1 List.all_takeWhile m member)
  obtain ⟨line, column⟩ := advance_shown early ⟨1, 1⟩
  rw [shownAt, positionAt, positionAt, locate, locate, source, stripped, before_shown,
    before_marked]
  exact congrArg₂ Position.mk line column

theorem columns_eq_one_iff (m : Marked) : m.columns offset - 1 = 0 ↔
    (m.commented = true → m.char.utf8Size = 1 ∨ offset ≤ m.offset + 1) := by
  have size := Char.utf8Size_pos m.char
  unfold Marked.columns
  cases m.commented with
  | false => simp
  | true =>
    simp only [if_true, forall_const]
    omega

/-- A place is that of the source unless a commented character of several bytes has more than its
first byte before the place on its line. -/
theorem shownAt_eq_iff : shownAt text parts offset = positionAt text offset ↔
    ∀ m ∈ lineBefore parts offset, m.commented = true →
      m.char.utf8Size = 1 ∨ offset ≤ m.offset + 1 := by
  have same : shownAt text parts offset = positionAt text offset ↔ surplus parts offset = 0 := by
    cases place : positionAt text offset
    simp [shownAt, place]
  rw [same, surplus, List.sum_eq_zero_iff_forall_eq_nat]
  simp only [List.mem_map, forall_exists_index, and_imp, forall_apply_eq_imp_iff₂,
    columns_eq_one_iff]

end ThreatHunt.Source

/-!
Where statements and their faults are shown. Lines are those of the source as it was given, and
columns are too unless blanking a comment made its line longer.
-/

namespace ThreatHunt.Script

open Source (Part Parted Span stripComments splitStatements shownAt lineBefore)

/-- Whether a statement of a source, or the fault for which it was refused, is shown where it
stands in the source with its comments blanked. -/
def IsShown (text : String) (parts : List Part) (span : Span) :
    Except Failure PlacedStatement → Prop
  | .ok placed => (⟨placed.line, placed.column⟩ : Text.Position) = shownAt text parts span.start
  | .error failure => failure.line = (Text.positionAt text span.start).line ∧
      ∃ misread, Command.readStatement (stripComments text) span = .error misread ∧
        failure.error = .malformed (shownAt text parts misread.offset) misread.fault

variable {text : String} {parts : List Part}

theorem isShown_readSpan (parted : Parted text.toList parts) (span : Span) :
    IsShown text parts span (readSpan (stripComments text) span) := by
  have place := Source.positionAt_stripComments parted
  unfold readSpan
  cases found : Command.readStatement (stripComments text) span with
  | ok statement =>
    dsimp only [IsShown]
    rw [place]
  | error misread =>
    dsimp only [IsShown]
    rw [place, HuntError.ofMisread, place]
    exact ⟨rfl, misread, found, rfl⟩

/-- Statements, their faults and those of patterns are shown on their lines in the source, and in
their columns unless comments on the line have characters of several bytes before them. -/
theorem exists_isShown (text : String) : ∃ parts, Parted text.toList parts ∧
    List.Forall₂ (IsShown text parts) (splitStatements (stripComments text)) (read text) ∧
    (∀ misread, Pattern.read (stripComments text) = .error misread →
      readPattern text = .error (.malformed (shownAt text parts misread.offset) misread.fault)) ∧
    ∀ offset, (shownAt text parts offset).line = (Text.positionAt text offset).line ∧
      (shownAt text parts offset = Text.positionAt text offset ↔
        ∀ m ∈ lineBefore parts offset, m.commented = true →
          m.char.utf8Size = 1 ∨ offset ≤ m.offset + 1) := by
  obtain ⟨parts, parted⟩ := Source.exists_parted text.toList
  refine ⟨parts, parted, ?_, fun misread found => ?_, fun offset => ⟨rfl, Source.shownAt_eq_iff⟩⟩
  · exact List.forall₂_map_right_iff.2
      (List.forall₂_same.2 (fun span _ => isShown_readSpan parted span))
  · rw [readPattern, found, ← Source.positionAt_stripComments parted]
    rfl

/-- A statement behind a comment with a character of two bytes is shown one column too far. -/
theorem read_shows_further :
    ¬∀ text, List.Forall₂ (fun span result => ∀ placed, result = .ok placed →
      (⟨placed.line, placed.column⟩ : Text.Position) = Text.positionAt text span.start)
      (splitStatements (stripComments text)) (read text) := by
  intro shown
  have spans : splitStatements (stripComments "/* é */ v = a") = [⟨9, 14⟩] := by decide +kernel
  have columns : (read "/* é */ v = a").map (fun r => r.toOption.map (·.column)) = [some 10] := by
    decide +kernel
  have place : Text.positionAt "/* é */ v = a" 9 = ⟨1, 9⟩ := by decide +kernel
  have first := shown "/* é */ v = a"
  rw [spans] at first
  generalize read "/* é */ v = a" = results at first columns
  obtain ⟨result, none, here, -, rfl⟩ := List.forall₂_cons_left_iff.1 first
  cases result with
  | error failure => cases columns
  | ok placed =>
    have column : placed.column = 10 := Option.some.inj (List.cons.inj columns).1
    have same := here placed rfl
    rw [place, column] at same
    exact absurd (Text.Position.mk.inj same).2 (by decide)

end ThreatHunt.Script
