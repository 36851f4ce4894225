import Mathlib.Data.List.TakeWhile
import ThreatHunt.Proofs.Source.Pieces
import ThreatHunt.Proofs.Source.Stripped

/-!
Cutting a source into statements byte by byte. The splitter passes single bytes, and two at once
behind a backslash between quotes; wherever it cuts the source, a character begins.
-/

namespace ThreatHunt.Source

open Text (Located locateFrom byteLength bytes utf8 cut? lineAt? isBlank isHigh ofAscii)

/-! The splitter of bytes. -/

/-- Where the splitting of bytes stands. -/
structure ByteSplitter where
  quote : Option UInt8
  depth : Nat
  continued : Bool

def Splitter.onBytes (s : Splitter) : ByteSplitter :=
  ⟨s.quote.map Char.toUInt8, s.depth, s.continued⟩

/-- Whether a byte is a backslash with only blanks behind it on its line. -/
def lookAhead? (src : String) (i : Nat) (b : UInt8) : Option Bool :=
  if b == '\\'.toUInt8 then do
    let line ← lineAt? src (i + 1) (utf8 src).length
    return Text.trim line == ""
  else some false

/-- Moves over one byte outside quotes; `blank` tells whether the line is blank behind it. -/
def ByteSplitter.step (s : ByteSplitter) (b : UInt8) (blank : Bool) : ByteSplitter :=
  if isQuoteByte b then { s with quote := some b }
  else if ofAscii isOpening b then { s with depth := s.depth + 1 }
  else if ofAscii isClosing b then { s with depth := s.depth - 1 }
  else if b == '\\'.toUInt8 then { s with continued := s.continued || blank }
  else if b == '\n'.toUInt8 then { s with continued := false }
  else s

def ByteSplitter.ends (s : ByteSplitter) (b : UInt8) : Bool :=
  s.depth == 0 && (b == ';'.toUInt8 || (b == '\n'.toUInt8 && !s.continued))

/-- The bytes of a piece without the blanks around it, if anything is left. -/
def keptSpan? (start stop : Nat) (piece : String) : Option Span :=
  let length := byteLength piece.toList
  let lead := length - byteLength (piece.toList.dropWhile isBlank)
  let trail := length - byteLength (Text.trimEndChars piece.toList)
  if lead + trail < length then some ⟨start + lead, stop - trail⟩ else none

/-- The statements of a source from byte `i` on, if all cuts fall between characters; the current
piece starts at byte `start`. -/
def splitBytes (src : String) : ByteSplitter → Nat → Nat → List UInt8 → Option (List Span)
  | _, start, _, [] =>
    if start < (utf8 src).length then do
      let piece ← cut? src start (utf8 src).length
      return (keptSpan? start (utf8 src).length piece).toList
    else some []
  | s, start, i, b :: rest =>
    match s.quote with
    | some quote =>
      if b == '\\'.toUInt8 then
        match rest with
        | [] => splitBytes src s start (i + 2) []
        | _ :: rest => splitBytes src s start (i + 2) rest
      else
        splitBytes src { s with quote := if b == quote then none else some quote } start (i + 1)
          rest
    | none => do
      let blank ← lookAhead? src i b
      if s.ends b then
        let piece ← cut? src start i
        let more ← splitBytes src (s.step b blank) (i + 1) (i + 1) rest
        return (keptSpan? start i piece).toList ++ more
      else splitBytes src (s.step b blank) start (i + 1) rest

/-! Cuts. -/

section Cuts

variable {src : String} {front mid cs : List Char}

theorem trimEndChars_eq {cs : List Char} (some : Text.trimChars cs ≠ []) :
    Text.trimEndChars cs = cs.takeWhile isBlank ++ Text.trimChars cs := by
  have split : cs = cs.takeWhile isBlank ++ cs.dropWhile isBlank :=
    List.takeWhile_append_dropWhile.symm
  rw [Text.trimChars, Text.trimEndChars, ne_eq, List.reverse_eq_nil_iff] at some
  rw [Text.trimChars, Text.trimEndChars, Text.trimEndChars]
  conv => lhs; rw [split]
  rw [List.reverse_append, List.dropWhile_append, if_neg (by simpa using some),
    List.reverse_append, List.reverse_reverse]

theorem dropWhile_of_trimChars_eq_nil {cs : List Char} (none : Text.trimChars cs = []) :
    cs.dropWhile isBlank = [] := by
  obtain ⟨trail, cut, blank⟩ := exists_trimEndChars (cs.dropWhile isBlank)
  rw [← Text.trimChars, none, List.nil_append] at cut
  cases left : cs.dropWhile isBlank with
  | nil => rfl
  | cons c rest =>
    have stops := List.head?_dropWhile_not isBlank cs
    have first : isBlank c = true := blank c (by rw [← cut, left]; exact List.mem_cons_self)
    rw [left, List.head?_cons] at stops
    simp [first] at stops

/-- The span of a piece is that of its text. -/
theorem keptSpan?_eq (start : Nat) (cs : List Char) :
    keptSpan? start (start + byteLength cs) (String.ofList cs) =
      spanOf? (locateFrom start cs) := by
  obtain ⟨trail, around, -⟩ := exists_trimChars cs
  have length : byteLength cs = byteLength (cs.takeWhile isBlank) +
      (byteLength (Text.trimChars cs) + byteLength trail) := by
    rw [← Text.byteLength_append, ← Text.byteLength_append, ← around]
  have split : byteLength cs = byteLength (cs.takeWhile isBlank) +
      byteLength (cs.dropWhile isBlank) := by
    rw [← Text.byteLength_append, List.takeWhile_append_dropWhile]
  have left := trimPiece_locateFrom start cs
  unfold keptSpan?
  rw [String.toList_ofList]
  dsimp only
  by_cases none : Text.trimChars cs = []
  · have empty : spanOf? (locateFrom start cs) = Option.none := by
      rw [spanOf?, left, none]
      rfl
    have blank : byteLength (cs.dropWhile isBlank) = 0 :=
      congrArg byteLength (dropWhile_of_trimChars_eq_nil none)
    rw [empty, if_neg (by omega)]
  · have ends : byteLength (Text.trimEndChars cs) =
        byteLength (cs.takeWhile isBlank) + byteLength (Text.trimChars cs) := by
      rw [trimEndChars_eq none, Text.byteLength_append]
    obtain ⟨c, rest, text⟩ := List.exists_cons_of_ne_nil none
    have some : 0 < byteLength (Text.trimChars cs) := by
      have size := Char.utf8Size_pos c
      rw [text, Text.byteLength_cons]
      omega
    obtain ⟨last, found, stop⟩ :=
      getLast?_locateFrom (start + byteLength (cs.takeWhile isBlank)) c rest
    rw [spanOf?, left, text, found, locateFrom, List.head?_cons, if_pos (by omega)]
    dsimp only
    rw [← text] at stop
    congr 2 <;> omega

end Cuts

/-! High bytes. -/

section High

variable {src : String} {s : ByteSplitter} {b : UInt8} {high rest : List UInt8} {start i : Nat}

theorem ByteSplitter.step_high (far : isHigh b = true) (blank : Bool) : s.step b blank = s := by
  have differs : ∀ {c : Char}, c.utf8Size = 1 → b ≠ c.toUInt8 := Text.ne_of_isHigh far
  have quoted : isQuoteByte b = false := by
    simp [isQuoteByte, differs (c := '\'') rfl, differs (c := '\x22') rfl]
  simp [ByteSplitter.step, quoted, Text.ofAscii_high _ far, differs (c := '\\') rfl,
    differs (c := '\n') rfl]

theorem ByteSplitter.ends_high (far : isHigh b = true) : s.ends b = false := by
  have differs : ∀ {c : Char}, c.utf8Size = 1 → b ≠ c.toUInt8 := Text.ne_of_isHigh far
  simp [ByteSplitter.ends, differs (c := ';') rfl, differs (c := '\n') rfl]

/-- The bytes of a character beyond ASCII change nothing. -/
theorem splitBytes_high (ascii : ∀ quote, s.quote = some quote → isHigh quote = false)
    (far : ∀ b ∈ high, isHigh b = true) :
    splitBytes src s start i (high ++ rest) = splitBytes src s start (i + high.length) rest := by
  induction high generalizing i with
  | nil => rfl
  | cons b high ih =>
    obtain ⟨first, others⟩ := List.forall_mem_cons.1 far
    have plain : b ≠ '\\'.toUInt8 := Text.ne_of_isHigh first rfl
    have passed : splitBytes src s start i (b :: (high ++ rest)) =
        splitBytes src s start (i + 1) (high ++ rest) := by
      conv => lhs; unfold splitBytes
      cases quoted : s.quote with
      | none =>
        simp [lookAhead?, plain, ByteSplitter.ends_high first, ByteSplitter.step_high first]
      | some quote =>
        have other : b ≠ quote := by
          rintro rfl
          rw [ascii b quoted] at first
          exact Bool.false_ne_true first
        simp [plain, other, ← quoted]
    rw [List.cons_append, passed, ih others, List.length_cons, Nat.add_assoc, Nat.add_comm 1]

end High

/-! Characters. -/

section Characters

variable {src : String} {s : Splitter} {quote c d : Char} {front mid cs : List Char} {start i : Nat}

theorem trim_eq_empty (cs : List Char) :
    (Text.trim (String.ofList cs) == "") = cs.all isBlank := by
  rw [Bool.eq_iff_iff, beq_iff_eq, List.all_eq_true, Text.trim, String.toList_ofList,
    String.ofList_eq_empty_iff]
  constructor
  · intro none
    have left := dropWhile_of_trimChars_eq_nil none
    intro c member
    rw [← List.takeWhile_append_dropWhile (p := isBlank) (l := cs), left, List.append_nil] at member
    exact isBlank_of_mem_takeWhile cs c member
  · intro blank
    rw [Text.trimChars, List.dropWhile_eq_nil_iff.2 blank]
    rfl

theorem restOfLineBlank_locateFrom (i : Nat) (cs : List Char) :
    restOfLineBlank (locateFrom i cs) = (cs.takeWhile (· != '\n')).all isBlank := by
  conv => rhs; rw [← Text.map_char_locateFrom i cs]
  rw [List.takeWhile_map, List.all_map]
  rfl

theorem Splitter.onBytes_step (ascii : c.utf8Size = 1) (rest : List Located) :
    (s.step c rest).onBytes = s.onBytes.step c.toUInt8 (c == '\\' && restOfLineBlank rest) := by
  unfold Splitter.step ByteSplitter.step
  rw [isQuoteByte_toUInt8 ascii, Text.ofAscii_toUInt8 _ ascii, Text.ofAscii_toUInt8 _ ascii,
    beq_toUInt8 ascii rfl, beq_toUInt8 ascii rfl]
  repeat' split
  all_goals simp_all [Splitter.onBytes]

theorem Splitter.onBytes_ends (ascii : c.utf8Size = 1) :
    s.onBytes.ends c.toUInt8 = s.ends c := by
  rw [ByteSplitter.ends, beq_toUInt8 ascii rfl, beq_toUInt8 ascii rfl]
  rfl

/-- A part of a source is split by bytes as it is by characters. -/
def SplitsAlike (src : String) (s : Splitter) (front mid cs : List Char) : Prop :=
  splitBytes src s.onBytes (byteLength front) (byteLength front + byteLength mid) (bytes cs) =
    some ((splitFrom s (locateFrom (byteLength front) mid).reverse
      (locateFrom (byteLength front + byteLength mid) cs)).filterMap spanOf?)

theorem length_snoc (front mid : List Char) (c : Char) :
    byteLength front + byteLength (mid ++ [c]) = byteLength front + byteLength mid + c.utf8Size := by
  rw [Text.byteLength_append, Nat.add_assoc]
  rfl

theorem locateFrom_snoc (i : Nat) (mid : List Char) (c : Char) :
    (locateFrom i (mid ++ [c])).reverse =
      ⟨i + byteLength mid, c⟩ :: (locateFrom i mid).reverse := by
  rw [Text.locateFrom_append, List.reverse_append]
  rfl

theorem splitsAlike_nil (whole : src.toList = front ++ mid) : SplitsAlike src s front mid [] := by
  have length : (utf8 src).length = byteLength front + byteLength mid := by
    rw [Text.length_utf8, whole, Text.byteLength_append]
  have ended : src.toList = front ++ (mid ++ []) := by rw [whole, List.append_nil]
  have piece := Text.cut?_middle ended
  rw [SplitsAlike, locateFrom, splitFrom_nil, List.reverse_reverse, show bytes [] = [] from rfl,
    splitBytes, length, piece, List.filterMap_cons, ← keptSpan?_eq, Option.bind_eq_bind,
    Option.bind_some]
  by_cases some : byteLength front < byteLength front + byteLength mid
  · rw [if_pos some]
    cases keptSpan? (byteLength front) (byteLength front + byteLength mid) (String.ofList mid) <;> rfl
  · have none : byteLength mid = 0 := by omega
    rw [if_neg some, keptSpan?_eq]
    cases mid with
    | nil => rfl
    | cons c mid =>
      have size := Char.utf8Size_pos c
      rw [Text.byteLength_cons] at none
      omega

/-- Whether only quotes open a quotation. -/
def Splitter.IsProper (s : Splitter) : Prop := ∀ quote, s.quote = some quote → isQuote quote = true

theorem Splitter.IsProper.isHigh (proper : s.IsProper) {b : UInt8}
    (opened : s.onBytes.quote = some b) : isHigh b = false := by
  obtain ⟨quote, quoted, rfl⟩ := Option.map_eq_some_iff.1 opened
  exact Text.isHigh_toUInt8 (isAscii_of_isQuote (proper quote quoted))

theorem Splitter.IsProper.step (proper : s.IsProper) (c : Char) (rest : List Located) :
    (s.step c rest).IsProper := by
  unfold Splitter.step
  repeat' split
  · rename_i quoted
    rintro quote ⟨⟩
    exact quoted
  all_goals exact proper

theorem splitBytes_large (proper : s.IsProper) (high : ∀ b ∈ String.utf8EncodeChar c, isHigh b = true) :
    splitBytes src s.onBytes start i (bytes (c :: cs)) =
      splitBytes src s.onBytes start (i + c.utf8Size) (bytes cs) := by
  rw [Text.bytes_cons, splitBytes_high (fun _ => proper.isHigh) high, String.length_utf8EncodeChar]

/-- Between quotes any character but a backslash is passed, and the quote itself closes them. -/
theorem splitsAlike_quoted (proper : s.IsProper) (quoted : s.quote = some quote) (plain : c ≠ '\\')
    (later : SplitsAlike src { s with quote := if c == quote then none else some quote } front
      (mid ++ [c]) cs) : SplitsAlike src s front mid (c :: cs) := by
  have single : quote.utf8Size = 1 := isAscii_of_isQuote (proper quote quoted)
  unfold SplitsAlike at later ⊢
  rw [locateFrom_snoc, length_snoc] at later
  rw [locateFrom, splitFrom_quoted quoted plain, ← later]
  rcases Text.ascii_or_high c with ⟨small, one⟩ | ⟨large, high⟩
  · rw [Text.bytes_cons, one, List.singleton_append, small]
    have opened : s.onBytes.quote = some quote.toUInt8 := by
      rw [Splitter.onBytes, quoted]
      rfl
    conv => lhs; unfold splitBytes
    rw [opened]
    dsimp only
    rw [beq_toUInt8 small rfl, beq_toUInt8 small single, if_neg (by simpa using plain)]
    cases c == quote <;> rfl
  · have other : (c == quote) = false := beq_eq_false_iff_ne.2 (ne_of_large large single)
    have same : { s with quote := if c == quote then none else some quote } = s := by
      rw [other, ← quoted]
      rfl
    rw [same]
    exact splitBytes_large proper high

/-- A backslash between quotes takes along the first byte of the next character, and the others
change nothing. -/
theorem splitsAlike_escape (proper : s.IsProper) (quoted : s.quote = some quote)
    (later : SplitsAlike src s front (mid ++ ['\\'] ++ [d]) cs) :
    SplitsAlike src s front mid ('\\' :: d :: cs) := by
  obtain ⟨b, more, text⟩ := Text.exists_bytes d
  have size : d.utf8Size = more.length + 1 := by
    rw [← String.length_utf8EncodeChar, text, List.length_cons]
  have high : ∀ b ∈ more, isHigh b = true := by
    rcases Text.ascii_or_high d with ⟨-, one⟩ | ⟨-, high⟩
    · rw [text, List.cons.injEq] at one
      rw [one.2]
      exact fun b member => absurd member List.not_mem_nil
    · exact fun b member => high b (by rw [text]; exact List.mem_cons_of_mem _ member)
  have opened : s.onBytes.quote = some quote.toUInt8 := by
    rw [Splitter.onBytes, quoted]
    rfl
  have taken : ∀ start i rest, splitBytes src s.onBytes start i ('\\'.toUInt8 :: b :: rest) =
      splitBytes src s.onBytes start (i + 2) rest := by
    intro start i rest
    conv => lhs; unfold splitBytes
    rw [opened]
    simp
  have ends : byteLength front + byteLength mid + '\\'.utf8Size + d.utf8Size =
      byteLength front + byteLength mid + 2 + more.length := by
    have single : '\\'.utf8Size = 1 := rfl
    omega
  unfold SplitsAlike at later ⊢
  rw [locateFrom_snoc, locateFrom_snoc, length_snoc, length_snoc] at later
  rw [locateFrom, locateFrom, splitFrom_escape quoted rfl, ← later, ends]
  have whole : bytes ('\\' :: d :: cs) = '\\'.toUInt8 :: b :: (more ++ bytes cs) := by
    rw [Text.bytes_cons, Text.bytes_cons, text]
    rfl
  rw [whole, taken, splitBytes_high (fun _ => proper.isHigh) high]

/-- A source may end in a backslash between quotes. -/
theorem splitsAlike_last (quoted : s.quote = some quote)
    (whole : src.toList = front ++ (mid ++ ['\\'])) : SplitsAlike src s front mid ['\\'] := by
  have opened : s.onBytes.quote = some quote.toUInt8 := by
    rw [Splitter.onBytes, quoted]
    rfl
  have later := splitsAlike_nil (s := s) whole
  unfold SplitsAlike at later ⊢
  rw [locateFrom_snoc, length_snoc, show bytes [] = [] from rfl, locateFrom, splitFrom_nil] at later
  rw [locateFrom, locateFrom, splitFrom_last quoted rfl, ← later]
  have single : bytes ['\\'] = ['\\'.toUInt8] := rfl
  rw [single]
  conv => lhs; unfold splitBytes
  rw [opened]
  simp only [BEq.rfl, if_true]
  unfold splitBytes
  rfl

theorem lookAhead?_eq (whole : src.toList = front ++ (mid ++ c :: cs)) (small : c.utf8Size = 1) :
    lookAhead? src (byteLength front + byteLength mid) c.toUInt8 = some (c == '\\' &&
      restOfLineBlank (locateFrom (byteLength front + byteLength mid + 1) cs)) := by
  have before : byteLength (front ++ mid ++ [c]) = byteLength front + byteLength mid + 1 := by
    rw [List.append_assoc, Text.byteLength_append, length_snoc, small]
  have around : src.toList = (front ++ mid ++ [c]) ++ (cs ++ []) := by
    rw [whole]
    simp only [List.append_assoc, List.singleton_append, List.append_nil]
  have stop : (utf8 src).length = byteLength (front ++ mid ++ [c]) + byteLength cs := by
    rw [Text.length_utf8, around, Text.byteLength_append, List.append_nil]
  have line := Text.lineAt?_middle around
  rw [lookAhead?, beq_toUInt8 small rfl, ← before, stop, line, Option.bind_eq_bind,
    Option.bind_some, trim_eq_empty, restOfLineBlank_locateFrom]
  cases c == '\\' <;> rfl

theorem Splitter.eq_of_large (large : c.utf8Size ≠ 1) (rest : List Located) :
    s.step c rest = s ∧ s.ends c = false := by
  have other : ∀ {d : Char}, d.utf8Size = 1 → c ≠ d := ne_of_large large
  constructor
  · simp (disch := decide) [Splitter.step, isQuote, isOpening, isClosing, other]
  · simp (disch := decide) [Splitter.ends, other]

/-- A character that does not end a statement. -/
theorem splitsAlike_goes (whole : src.toList = front ++ (mid ++ c :: cs)) (proper : s.IsProper)
    (unquoted : s.quote = none) (goes : s.ends c = false)
    (later : SplitsAlike src
      (s.step c (locateFrom (byteLength front + byteLength (mid ++ [c])) cs)) front (mid ++ [c]) cs) :
    SplitsAlike src s front mid (c :: cs) := by
  unfold SplitsAlike at later ⊢
  rw [locateFrom_snoc, length_snoc] at later
  rw [locateFrom, splitFrom_goes unquoted goes, ← later]
  rcases Text.ascii_or_high c with ⟨small, one⟩ | ⟨large, high⟩
  · have opened : s.onBytes.quote = none := by rw [Splitter.onBytes, unquoted]; rfl
    rw [Text.bytes_cons, one, List.singleton_append, Splitter.onBytes_step small, small]
    conv => lhs; unfold splitBytes
    rw [opened]
    dsimp only
    rw [lookAhead?_eq whole small, Splitter.onBytes_ends small, goes]
    rfl
  · obtain ⟨same, -⟩ := Splitter.eq_of_large (s := s) large
      (locateFrom (byteLength front + byteLength mid + c.utf8Size) cs)
    rw [same]
    exact splitBytes_large proper high

/-- A character that ends a statement; it is of ASCII. -/
theorem splitsAlike_ends (whole : src.toList = front ++ (mid ++ c :: cs))
    (unquoted : s.quote = none) (ends : s.ends c = true)
    (later : SplitsAlike src (s.step c (locateFrom (byteLength (front ++ mid ++ [c])) cs))
      (front ++ mid ++ [c]) [] cs) : SplitsAlike src s front mid (c :: cs) := by
  have small : c.utf8Size = 1 := by
    by_contra large
    rw [(Splitter.eq_of_large large []).2] at ends
    exact Bool.false_ne_true ends
  have one := Text.utf8EncodeChar_of_ascii small
  have opened : s.onBytes.quote = none := by rw [Splitter.onBytes, unquoted]; rfl
  have before : byteLength (front ++ mid ++ [c]) = byteLength front + byteLength mid + 1 := by
    rw [List.append_assoc, Text.byteLength_append, length_snoc, small]
  unfold SplitsAlike at later ⊢
  rw [before, show byteLength [] = 0 from rfl, Nat.add_zero, locateFrom, List.reverse_nil,
    Splitter.onBytes_step small] at later
  rw [locateFrom, splitFrom_ends unquoted ends, Text.bytes_cons, one, List.singleton_append, small,
    List.reverse_reverse, List.filterMap_cons, ← keptSpan?_eq]
  conv => lhs; unfold splitBytes
  rw [opened]
  dsimp only
  rw [lookAhead?_eq whole small, Splitter.onBytes_ends small, ends, Text.cut?_middle whole]
  simp only [Option.bind_eq_bind, Option.bind_some, if_true, later]
  cases keptSpan? (byteLength front) (byteLength front + byteLength mid) (String.ofList mid) <;> rfl

theorem splitsAlike (s : Splitter) (proper : s.IsProper) (front mid cs : List Char)
    (whole : src.toList = front ++ (mid ++ cs)) : SplitsAlike src s front mid cs := by
  induction size : cs.length using Nat.strongRecOn generalizing s front mid cs with
  | ind n ih =>
    cases cs with
    | nil => exact splitsAlike_nil (by rw [whole, List.append_nil])
    | cons c cs =>
      rw [List.length_cons] at size
      have next : src.toList = front ++ ((mid ++ [c]) ++ cs) := by
        rw [whole, List.append_assoc mid, List.singleton_append]
      cases quoted : s.quote with
      | none =>
        cases ends : s.ends c with
        | true =>
          refine splitsAlike_ends whole quoted ends (ih cs.length (by omega) _ (proper.step _ _) _ _ _
            ?_ rfl)
          rw [whole]
          simp only [List.append_assoc, List.singleton_append, List.nil_append]
        | false =>
          exact splitsAlike_goes whole proper quoted ends
            (ih cs.length (by omega) _ (proper.step _ _) _ _ _ next rfl)
      | some quote =>
        by_cases backslash : c = '\\'
        · subst backslash
          cases cs with
          | nil => exact splitsAlike_last quoted whole
          | cons d cs =>
            rw [List.length_cons] at size
            refine splitsAlike_escape proper quoted (ih cs.length (by omega) s proper _ _ _ ?_ rfl)
            rw [whole]
            simp only [List.append_assoc, List.cons_append, List.nil_append]
        · refine splitsAlike_quoted proper quoted backslash
            (ih cs.length (by omega) _ ?_ _ _ _ next rfl)
          intro other opened
          dsimp only at opened
          split at opened
          · cases opened
          · cases opened
            exact proper _ quoted

/-- Splitting a source byte by byte cuts it only between characters, and gives its statements. -/
theorem splitBytes_eq (src : String) :
    splitBytes src Splitter.initial.onBytes 0 0 (utf8 src) = some (splitStatements src) := by
  have alike : SplitsAlike src .initial [] [] src.toList :=
    splitsAlike .initial (fun _ opened => by cases opened) [] [] src.toList rfl
  rw [Text.utf8_eq_bytes]
  exact alike

end Characters

end ThreatHunt.Source
