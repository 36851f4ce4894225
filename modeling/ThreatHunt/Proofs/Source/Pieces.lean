import Mathlib.Data.List.Induction
import ThreatHunt.Source.Span
import ThreatHunt.Proofs.Text.Located

/-!
Where statements stand. A source is cut into pieces at its separators, and a statement is a piece
without the blanks around it. It begins outside of quotes, and all quotes in it are closed unless
nothing but blanks is left of the source behind it.
-/

namespace ThreatHunt.Source

open Text (Located locateFrom byteLength isBlank)

/-! Quotes. -/

/-- How a place stands to the quotes before it. -/
inductive Quotation where
  | outside
  | inside (quote : Char)
  /-- Behind a backslash between quotes. -/
  | escaped (quote : Char)
  deriving DecidableEq, Repr

namespace Quotation

/-- Moves over one character. -/
def step : Quotation → Char → Quotation
  | .outside, c => if isQuote c then .inside c else .outside
  | .inside quote, c =>
    if c == '\\' then .escaped quote else if c == quote then .outside else .inside quote
  | .escaped quote, _ => .inside quote

def after (state : Quotation) (cs : List Char) : Quotation := cs.foldl step state

theorem after_append (state : Quotation) (front back : List Char) :
    state.after (front ++ back) = (state.after front).after back := List.foldl_append

section Inside

variable {quote c d : Char} {cs : List Char}

theorem after_open (quoted : isQuote c = true) :
    Quotation.outside.after (c :: cs) = (Quotation.inside c).after cs := by
  simp [after, step, quoted]

theorem after_unquoted (plain : isQuote c = false) :
    Quotation.outside.after (c :: cs) = Quotation.outside.after cs := by
  simp [after, step, plain]

theorem after_escape (quote d : Char) (cs : List Char) :
    (Quotation.inside quote).after ('\\' :: d :: cs) = (Quotation.inside quote).after cs := by
  simp [after, step]

theorem after_other (plain : c ≠ '\\') (other : c ≠ quote) :
    (Quotation.inside quote).after (c :: cs) = (Quotation.inside quote).after cs := by
  simp [after, step, plain, other]

theorem after_close (plain : quote ≠ '\\') :
    (Quotation.inside quote).after (quote :: cs) = Quotation.outside.after cs := by
  simp [after, step, plain]

end Inside

/-- Whether only quotes open a quotation. -/
def IsProper : Quotation → Prop
  | .outside => True
  | .inside quote => isQuote quote = true
  | .escaped quote => isQuote quote = true

theorem IsProper.step {state : Quotation} (proper : state.IsProper) (c : Char) :
    (state.step c).IsProper := by
  cases state with
  | outside =>
    rw [Quotation.step]
    split
    · rename_i quoted
      exact quoted
    · trivial
  | inside quote =>
    rw [Quotation.step]
    split
    · exact proper
    · split
      · trivial
      · exact proper
  | escaped quote => exact proper

theorem IsProper.after {state : Quotation} (proper : state.IsProper) (cs : List Char) :
    (state.after cs).IsProper := by
  induction cs generalizing state with
  | nil => exact proper
  | cons c cs ih => exact ih (proper.step c)

theorem ne_of_isBlank {c : Char} (blank : isBlank c = true) :
    c ≠ '\\' ∧ isQuote c = false := by
  have plain : ∀ d, isBlank d = false → c ≠ d := by
    rintro d other rfl
    rw [other] at blank
    exact Bool.false_ne_true blank
  refine ⟨plain '\\' (by decide), ?_⟩
  simp [isQuote, plain '\'' (by decide), plain '\x22' (by decide)]

/-- Blanks neither open nor close a quotation. -/
theorem outside_of_after_blanks {state : Quotation} {cs : List Char} (proper : state.IsProper)
    (blank : ∀ c ∈ cs, isBlank c = true) (closed : state.after cs = .outside) :
    state = .outside := by
  induction cs generalizing state with
  | nil => exact closed
  | cons c cs ih =>
    obtain ⟨here, others⟩ := List.forall_mem_cons.1 blank
    obtain ⟨backslash, quoted⟩ := ne_of_isBlank here
    have next := ih (proper.step c) others closed
    cases state with
    | outside => rfl
    | inside quote =>
      have opens : isQuote quote = true := proper
      have other : c ≠ quote := by
        rintro rfl
        rw [quoted] at opens
        exact Bool.false_ne_true opens
      simp [step, backslash, other] at next
    | escaped quote => cases next

theorem after_plain {cs : List Char} (plain : ∀ c ∈ cs, isQuote c = false) :
    Quotation.outside.after cs = .outside := by
  induction cs with
  | nil => rfl
  | cons c cs ih =>
    obtain ⟨here, others⟩ := List.forall_mem_cons.1 plain
    rw [after_unquoted here, ih others]

theorem after_blanks {cs : List Char} (blank : ∀ c ∈ cs, isBlank c = true) :
    Quotation.outside.after cs = .outside :=
  after_plain (fun c member => (ne_of_isBlank (blank c member)).2)

end Quotation

/-! Pieces. -/

/-- How a place stands to quotes as the splitter sees it. -/
def Splitter.quotation (s : Splitter) : Quotation :=
  match s.quote with
  | none => .outside
  | some quote => .inside quote

section Quotations

variable {s : Splitter} {quote c : Char}

theorem Splitter.quotation_of_none (unquoted : s.quote = none) : s.quotation = .outside := by
  rw [Splitter.quotation, unquoted]

theorem Splitter.quotation_of_some (quoted : s.quote = some quote) :
    s.quotation = .inside quote := by
  rw [Splitter.quotation, quoted]

theorem Splitter.quotation_step (outside : s.quote = none) (c : Char) (rest : List Located) :
    (s.step c rest).quotation = Quotation.outside.step c := by
  unfold Splitter.step
  repeat' split
  all_goals simp_all [Splitter.quotation, Quotation.step]

/-- Between quotes the splitter looks for the end of the quote alone. -/
theorem Splitter.quotation_quoted (quoted : s.quote = some quote) (plain : c ≠ '\\') :
    Splitter.quotation { s with quote := if c == quote then none else some quote } =
      s.quotation.step c := by
  rw [Splitter.quotation_of_some quoted]
  by_cases closes : c = quote
  · simp [Splitter.quotation, Quotation.step, plain, ← closes]
  · simp [Splitter.quotation, Quotation.step, plain, closes]

theorem Splitter.quotation_escape (quoted : s.quote = some quote) (d : Char) :
    (s.quotation.step '\\').step d = s.quotation := by
  rw [Splitter.quotation_of_some quoted]
  rfl

/-- A character that ends a piece is no quote. -/
theorem Splitter.outside_of_ends (ends : s.ends c = true) :
    Quotation.outside.step c = .outside := by
  simp only [Splitter.ends, Bool.and_eq_true, Bool.or_eq_true, beq_iff_eq] at ends
  rcases ends.2 with semicolon | ⟨line, -⟩
  · simp [Quotation.step, semicolon, isQuote]
  · simp [Quotation.step, line, isQuote]

end Quotations

section Steps

variable {s : Splitter} {quote : Char} {c d : Located} {piece rest : List Located}

theorem splitFrom_nil (s : Splitter) (piece : List Located) :
    splitFrom s piece [] = [piece.reverse] := rfl

/-- What becomes of one character, by the two kinds of places. -/
theorem splitFrom_cons (s : Splitter) (piece : List Located) (c : Located) (rest : List Located) :
    splitFrom s piece (c :: rest) =
      match s.quote with
      | some quote =>
        if c.char == '\\' then
          match rest with
          | [] => splitFrom s (c :: piece) []
          | d :: rest => splitFrom s (d :: c :: piece) rest
        else
          splitFrom { s with quote := if c.char == quote then none else some quote } (c :: piece)
            rest
      | none =>
        if s.ends c.char then piece.reverse :: splitFrom (s.step c.char rest) [] rest
        else splitFrom (s.step c.char rest) (c :: piece) rest := by
  obtain ⟨quote, depth, continued⟩ := s
  cases quote <;> cases rest <;> rfl

/-- A backslash between quotes takes the next character with it. -/
theorem splitFrom_escape (quoted : s.quote = some quote) (backslash : c.char = '\\') :
    splitFrom s piece (c :: d :: rest) = splitFrom s (d :: c :: piece) rest := by
  rw [splitFrom_cons]
  simp [quoted, backslash]

theorem splitFrom_last (quoted : s.quote = some quote) (backslash : c.char = '\\') :
    splitFrom s piece [c] = [(c :: piece).reverse] := by
  rw [splitFrom_cons]
  simp [quoted, backslash, splitFrom_nil]

theorem splitFrom_quoted (quoted : s.quote = some quote) (plain : c.char ≠ '\\') :
    splitFrom s piece (c :: rest) =
      splitFrom { s with quote := if c.char == quote then none else some quote } (c :: piece)
        rest := by
  rw [splitFrom_cons]
  simp [quoted, plain]

theorem splitFrom_ends (unquoted : s.quote = none) (ends : s.ends c.char = true) :
    splitFrom s piece (c :: rest) = piece.reverse :: splitFrom (s.step c.char rest) [] rest := by
  rw [splitFrom_cons]
  simp [unquoted, ends]

theorem splitFrom_goes (unquoted : s.quote = none) (goes : s.ends c.char = false) :
    splitFrom s piece (c :: rest) = splitFrom (s.step c.char rest) (c :: piece) rest := by
  rw [splitFrom_cons]
  simp [unquoted, goes]

end Steps

theorem after_reverse_cons (state : Quotation) (c : Located) (piece : List Located) :
    state.after ((c :: piece).reverse.map Located.char) =
      (state.after (piece.reverse.map Located.char)).step c.char := by
  rw [List.reverse_cons, List.map_append, Quotation.after_append]
  rfl

/-- A piece is a part of the source, and at its end quotes are closed if anything follows it. -/
theorem piece_of_mem_splitFrom {s : Splitter} {piece cs p : List Located}
    (state : Quotation.outside.after (piece.reverse.map Located.char) = s.quotation)
    (member : p ∈ splitFrom s piece cs) :
    ∃ front behind, piece.reverse ++ cs = front ++ (p ++ behind) ∧
      (Quotation.outside.after (p.map Located.char) = .outside ∨ behind = []) := by
  induction s, piece, cs using splitFrom.induct with
  | case1 s piece =>
    rw [splitFrom_nil, List.mem_singleton] at member
    subst member
    exact ⟨[], [], by simp, .inr rfl⟩
  | case2 s piece c quote quoted backslash ih =>
    rw [splitFrom_last quoted (eq_of_beq backslash), List.mem_singleton] at member
    subst member
    exact ⟨[], [], by simp, .inr rfl⟩
  | case3 s piece c quote quoted backslash d rest ih =>
    rw [splitFrom_escape quoted (eq_of_beq backslash)] at member
    have later : Quotation.outside.after ((d :: c :: piece).reverse.map Located.char) =
        s.quotation := by
      rw [after_reverse_cons, after_reverse_cons, state, eq_of_beq backslash,
        Splitter.quotation_escape quoted]
    have next := ih later member
    rwa [List.reverse_cons, List.reverse_cons, ← List.append_cons, ← List.append_cons] at next
  | case4 s piece c rest quote quoted plain ih =>
    have other : c.char ≠ '\\' := by simpa using plain
    rw [splitFrom_quoted quoted other] at member
    have later : Quotation.outside.after ((c :: piece).reverse.map Located.char) =
        Splitter.quotation { s with quote := if c.char == quote then none else some quote } := by
      rw [after_reverse_cons, state, Splitter.quotation_quoted quoted other]
    have next := ih later member
    rwa [List.reverse_cons, ← List.append_cons] at next
  | case5 s piece c rest unquoted ends ih =>
    rw [splitFrom_ends unquoted ends, List.mem_cons] at member
    rcases member with rfl | later
    · exact ⟨[], c :: rest, rfl, .inl (state.trans (Splitter.quotation_of_none unquoted))⟩
    · have stays : (s.step c.char rest).quotation = .outside :=
        (Splitter.quotation_step unquoted _ _).trans (Splitter.outside_of_ends ends)
      obtain ⟨front, behind, whole, closed⟩ := ih stays.symm later
      refine ⟨piece.reverse ++ c :: front, behind, ?_, closed⟩
      rw [List.reverse_nil, List.nil_append] at whole
      rw [whole, List.append_assoc, List.cons_append]
  | case6 s piece c rest unquoted goes ih =>
    rw [splitFrom_goes unquoted (by simpa using goes)] at member
    have later : Quotation.outside.after ((c :: piece).reverse.map Located.char) =
        (s.step c.char rest).quotation := by
      rw [after_reverse_cons, state, Splitter.quotation_step unquoted,
        Splitter.quotation_of_none unquoted]
    have next := ih later member
    rwa [List.reverse_cons, ← List.append_cons] at next

/-! What is left of a piece. -/

theorem dropWhile_locateFrom (start : Nat) (cs : List Char) :
    (locateFrom start cs).dropWhile (fun c => isBlank c.char) =
      locateFrom (start + byteLength (cs.takeWhile isBlank)) (cs.dropWhile isBlank) := by
  induction cs generalizing start with
  | nil => rfl
  | cons c cs ih =>
    rw [locateFrom, List.dropWhile_cons, List.dropWhile_cons, List.takeWhile_cons]
    dsimp only
    cases isBlank c with
    | true => simp only [if_true, ih, Text.byteLength_cons, Nat.add_assoc]
    | false => rfl

theorem trimEnd_locateFrom (start : Nat) (cs : List Char) :
    ((locateFrom start cs).reverse.dropWhile (fun c => isBlank c.char)).reverse =
      locateFrom start (Text.trimEndChars cs) := by
  induction cs using List.reverseRecOn with
  | nil => rfl
  | append_singleton cs c ih =>
    rw [Text.trimEndChars] at ih ⊢
    rw [Text.locateFrom_append, List.reverse_append, List.reverse_append]
    simp only [locateFrom, List.reverse_singleton, List.singleton_append, List.dropWhile_cons]
    cases isBlank c with
    | true => exact ih
    | false =>
      simp only [Bool.false_eq_true, if_false, List.reverse_cons, List.reverse_reverse,
        Text.locateFrom_append, locateFrom]

theorem trimPiece_locateFrom (start : Nat) (cs : List Char) :
    trimPiece (locateFrom start cs) =
      locateFrom (start + byteLength (cs.takeWhile isBlank)) (Text.trimChars cs) := by
  rw [trimPiece, dropWhile_locateFrom, trimEnd_locateFrom]
  rfl

theorem isBlank_of_mem_takeWhile (cs : List Char) : ∀ c ∈ cs.takeWhile isBlank, isBlank c = true :=
  fun c member => List.all_eq_true.1 List.all_takeWhile c member

/-- Trimming leaves out blanks. -/
theorem exists_trimEndChars (cs : List Char) :
    ∃ trail, cs = Text.trimEndChars cs ++ trail ∧ ∀ c ∈ trail, isBlank c = true := by
  refine ⟨(cs.reverse.takeWhile isBlank).reverse, ?_, fun c member => ?_⟩
  · rw [Text.trimEndChars, ← List.reverse_append, List.takeWhile_append_dropWhile,
      List.reverse_reverse]
  · exact isBlank_of_mem_takeWhile cs.reverse c (List.mem_reverse.1 member)

theorem exists_trimChars (cs : List Char) :
    ∃ trail, cs = cs.takeWhile isBlank ++ (Text.trimChars cs ++ trail) ∧
      ∀ c ∈ trail, isBlank c = true := by
  obtain ⟨trail, cut, blank⟩ := exists_trimEndChars (cs.dropWhile isBlank)
  refine ⟨trail, ?_, blank⟩
  rw [Text.trimChars, ← cut, List.takeWhile_append_dropWhile]

/-! Statements. -/

/-- Parts of located characters are located. -/
theorem locateFrom_eq_append {start : Nat} {cs : List Char} {front back : List Located}
    (whole : locateFrom start cs = front ++ back) :
    cs = front.map Located.char ++ back.map Located.char ∧
      front = locateFrom start (front.map Located.char) ∧
      back = locateFrom (start + byteLength (front.map Located.char)) (back.map Located.char) := by
  have text : cs = front.map Located.char ++ back.map Located.char := by
    rw [← List.map_append, ← whole, Text.map_char_locateFrom]
  rw [text, Text.locateFrom_append] at whole
  have length : (locateFrom start (front.map Located.char)).length = front.length := by
    rw [Text.length_locateFrom, List.length_map]
  obtain ⟨first, second⟩ := List.append_inj whole length
  exact ⟨text, first.symm, second.symm⟩

theorem getLast?_locateFrom (start : Nat) (c : Char) (cs : List Char) :
    ∃ last, (locateFrom start (c :: cs)).getLast? = some last ∧
      last.offset + last.char.utf8Size = start + byteLength (c :: cs) := by
  induction cs generalizing start c with
  | nil => exact ⟨⟨start, c⟩, rfl, rfl⟩
  | cons d cs ih =>
    obtain ⟨last, found, stop⟩ := ih (start + c.utf8Size) d
    refine ⟨last, ?_, ?_⟩
    · rw [locateFrom, ← found]
      rfl
    · rw [stop, Text.byteLength_cons c (d :: cs), Nat.add_assoc]

/-- The bytes of a statement are those of what is left of its piece. -/
theorem span_of_trimPiece {piece : List Located} {start : Nat} {inner : List Char} {span : Span}
    (left : trimPiece piece = locateFrom start inner) (found : spanOf? piece = some span) :
    span.start = start ∧ span.stop = start + byteLength inner := by
  unfold spanOf? at found
  rw [left] at found
  dsimp only at found
  cases inner with
  | nil => cases found
  | cons c cs =>
    obtain ⟨last, ends, stop⟩ := getLast?_locateFrom start c cs
    rw [ends, locateFrom, List.head?_cons] at found
    obtain rfl := Option.some.inj found
    exact ⟨rfl, stop⟩

/-- A statement in its source: what stands before it, in it and behind it. -/
structure Stands (s : String) (span : Span) (front inner behind : List Char) : Prop where
  text : s.toList = front ++ (inner ++ behind)
  start : span.start = byteLength front
  stop : span.stop = byteLength front + byteLength inner
  /-- No quote is left open but at the end of the source. -/
  closed : Quotation.outside.after inner = .outside ∨ ∀ c ∈ behind, isBlank c = true

theorem exists_stands {s : String} {span : Span} (member : span ∈ splitStatements s) :
    ∃ front inner behind, Stands s span front inner behind := by
  obtain ⟨piece, cut, found⟩ := List.mem_filterMap.1 member
  obtain ⟨before, after, whole, quotes⟩ := piece_of_mem_splitFrom rfl cut
  rw [List.reverse_nil, List.nil_append, Text.locate] at whole
  obtain ⟨text, -, later⟩ := locateFrom_eq_append whole
  obtain ⟨more, here, -⟩ := locateFrom_eq_append later.symm
  generalize piece.map Located.char = chars at here more quotes
  obtain ⟨trail, around, blank⟩ := exists_trimChars chars
  have left := trimPiece_locateFrom (0 + byteLength (before.map Located.char)) chars
  rw [← here, Nat.zero_add, ← Text.byteLength_append] at left
  obtain ⟨start, stop⟩ := span_of_trimPiece left found
  have lead : ∀ c ∈ chars.takeWhile isBlank, isBlank c = true := isBlank_of_mem_takeWhile chars
  refine ⟨before.map Located.char ++ chars.takeWhile isBlank, Text.trimChars chars,
    trail ++ after.map Located.char, ?_, start, stop, ?_⟩
  · rw [text, more]
    conv => lhs; rw [around]
    simp only [List.append_assoc]
  · rcases quotes with closed | none
    · left
      rw [around, Quotation.after_append, Quotation.after_append, Quotation.after_blanks lead]
        at closed
      have proper : Quotation.outside.IsProper := trivial
      exact Quotation.outside_of_after_blanks (proper.after _) blank closed
    · right
      rw [none, List.map_nil, List.append_nil]
      exact blank

end ThreatHunt.Source
