import ThreatHunt.Proofs.Source.Lexing
import ThreatHunt.Proofs.Source.Pieces

/-!
How far a reader of lexemes looks. It looks beyond the end of a statement only for the end of a
quoted text, so what it reads does not depend on what stands there, provided that it takes the same
quotes for open as the splitter does. Only a URI can make a difference, since it takes quotes as any
other characters.
-/

namespace ThreatHunt.Source

open Text (Located)

variable {stop : Nat} {xs ys : List Located}

/-- Characters at or behind the end of a statement. -/
def Beyond (stop : Nat) (cs : List Located) : Prop := ∀ c ∈ cs, stop ≤ c.offset

theorem Beyond.drop (beyond : Beyond stop ys) (n : Nat) : Beyond stop (ys.drop n) :=
  fun c member => beyond c (List.mem_of_mem_drop member)

theorem Beyond.cons {c : Located} (beyond : Beyond stop (c :: ys)) (d : Bool) :
    (decide (c.offset < stop) && d) = false := by
  have far := beyond c List.mem_cons_self
  simp [Nat.not_lt.2 far]

/-! Signs and runs. -/

theorem startsWith_append (beyond : Beyond stop ys) (d : Char) :
    startsWith stop d (xs ++ ys) = startsWith stop d xs := by
  cases xs with
  | cons c xs => rfl
  | nil =>
    cases ys with
    | nil => rfl
    | cons c ys => exact beyond.cons _

theorem startsWith_drop_append (beyond : Beyond stop ys) (d : Char) (n : Nat) :
    startsWith stop d ((xs ++ ys).drop n) = startsWith stop d (xs.drop n) := by
  rw [List.drop_append]
  exact startsWith_append (beyond.drop _) d

theorem takeWhile_append_beyond (beyond : Beyond stop ys) (inClass : Char → Bool) :
    (xs ++ ys).takeWhile (fun c => c.offset < stop && inClass c.char) =
      xs.takeWhile (fun c => c.offset < stop && inClass c.char) := by
  induction xs with
  | nil =>
    cases ys with
    | nil => rfl
    | cons c ys => rw [List.nil_append, List.takeWhile_cons, beyond.cons]; rfl
  | cons c xs ih => rw [List.cons_append, List.takeWhile_cons, List.takeWhile_cons, ih]

theorem runLength_append (beyond : Beyond stop ys) (inClass : Char → Bool) :
    runLength stop inClass (xs ++ ys) = runLength stop inClass xs :=
  congrArg List.length (takeWhile_append_beyond beyond inClass)

theorem runLength_le (stop : Nat) (inClass : Char → Bool) (cs : List Located) :
    runLength stop inClass cs ≤ cs.length := (List.takeWhile_sublist _).length_le

theorem wordLength_beyond (beyond : Beyond stop ys) : wordLength stop ys = 0 := by
  cases ys with
  | nil => rfl
  | cons c ys =>
    unfold wordLength
    rw [beyond.cons, if_neg Bool.false_ne_true]
    split
    · cases ys with
      | nil => rfl
      | cons d ys =>
        have later : Beyond stop (d :: ys) := fun e member => beyond e (List.mem_cons_of_mem _ member)
        dsimp only
        rw [later.cons, if_neg Bool.false_ne_true]
    · rfl

theorem wordLength_append (beyond : Beyond stop ys) :
    wordLength stop (xs ++ ys) = wordLength stop xs := by
  induction xs with
  | nil => exact wordLength_beyond beyond
  | cons c xs ih =>
    rw [List.cons_append]
    unfold wordLength
    rw [ih]
    cases xs with
    | cons d xs => rfl
    | nil =>
      cases ys with
      | nil => rfl
      | cons d ys =>
        dsimp only [List.nil_append]
        rw [beyond.cons, if_neg Bool.false_ne_true]

theorem wordLength_le (stop : Nat) (cs : List Located) : wordLength stop cs ≤ cs.length := by
  induction cs with
  | nil => exact Nat.le_refl 0
  | cons c cs ih =>
    unfold wordLength
    rw [List.length_cons]
    repeat' split
    all_goals omega

theorem uriLength?_append (beyond : Beyond stop ys) :
    uriLength? stop (xs ++ ys) = uriLength? stop xs := by
  have behind : ∀ n, (xs ++ ys).drop n = xs.drop n ++ ys.drop (n - xs.length) :=
    fun n => List.drop_append
  have run : ∀ (n : Nat) (inClass : Char → Bool),
      runLength stop inClass ((xs ++ ys).drop n) = runLength stop inClass (xs.drop n) := by
    intro n inClass
    rw [behind]
    exact runLength_append (beyond.drop _) inClass
  unfold uriLength?
  simp only [List.drop_drop, runLength_append beyond, startsWith_drop_append beyond, run]

theorem startsWith_length {d : Char} {cs : List Located} (starts : startsWith stop d cs = true) :
    0 < cs.length := by
  cases cs with
  | nil => cases starts
  | cons c cs => exact Nat.zero_lt_succ _

theorem uriLength?_le {cs : List Located} {n : Nat} (found : uriLength? stop cs = some n) :
    0 < n ∧ n ≤ cs.length := by
  unfold uriLength? at found
  dsimp only at found
  split at found
  · rename_i mark
    obtain ⟨-, third⟩ := Bool.and_eq_true _ _ ▸ mark
    have long := startsWith_length third
    rw [List.drop_drop, List.length_drop] at long
    obtain rfl := Option.some.inj found
    have run := runLength_le stop isUriPart ((cs.drop (runLength stop isSchemePart cs)).drop 3)
    rw [List.drop_drop, List.length_drop] at run
    rw [List.drop_drop]
    omega
  · cases found

theorem readMark?_append (beyond : Beyond stop ys) (c : Char) :
    readMark? stop c (xs ++ ys) = readMark? stop c xs := by
  unfold readMark?
  rw [startsWith_append beyond, startsWith_append beyond]

/-- A sign takes one character more only if it is the second half of the sign. -/
theorem readMark?_taken {c : Char} {cs : List Located} {m : Mark} {n : Nat}
    (found : readMark? stop c cs = some (m, n)) :
    n = 0 ∨ n = 1 ∧ (startsWith stop '=' cs = true ∨ startsWith stop '>' cs = true) := by
  have sign := mem_signStarts found
  simp only [signStarts, List.mem_cons, List.not_mem_nil, or_false] at sign
  rcases sign with rfl | rfl | rfl | rfl | rfl | rfl | rfl | rfl | rfl | rfl | rfl | rfl | rfl | rfl |
    rfl
  all_goals
    simp only [readMark?, Char.reduceBEq, if_true, Bool.false_eq_true, if_false] at found
    grind

/-! Quoted texts. -/

section Quoted

variable {quote e : Char} {c d : Located} {rest : List Located}

theorem readQuoted_close (quoted : isQuote quote = true) (closes : c.char = quote) :
    readQuoted quote (c :: rest) = some ([], 1) := by
  have plain := ne_backslash_of_isQuote quoted
  rw [readQuoted.eq_def]
  cases rest <;> simp [closes, plain]

theorem readQuoted_plain (plain : c.char ≠ '\\') (other : c.char ≠ quote) :
    readQuoted quote (c :: rest) =
      (readQuoted quote rest).map (fun r => (c.char :: r.1, r.2 + 1)) := by
  rw [readQuoted.eq_def]
  cases rest with
  | nil => simp [other, readQuoted]
  | cons d rest => simp [plain, other]

theorem readQuoted_escaped (backslash : c.char = '\\') (stands : unescape? quote d.char = some e) :
    readQuoted quote (c :: d :: rest) =
      (readQuoted quote rest).map (fun r => (e :: r.1, r.2 + 2)) := by
  rw [readQuoted.eq_def]
  simp [backslash, stands]

theorem readQuoted_kept (backslash : c.char = '\\') (keeps : unescape? quote d.char = none) :
    readQuoted quote (c :: d :: rest) =
      (readQuoted quote (d :: rest)).map (fun r => ('\\' :: r.1, r.2 + 1)) := by
  rw [readQuoted.eq_def]
  simp [backslash, keeps]

theorem ne_of_unescape? (keeps : unescape? quote e = none) : e ≠ '\\' ∧ e ≠ quote := by
  unfold unescape? at keeps
  repeat' split at keeps
  all_goals simp_all

/-- A quoted text that is read ends where its quote closes, whatever stands behind. -/
structure Ended (quote : Char) (xs : List Located) (text : List Char) (n : Nat) : Prop where
  short : n ≤ xs.length
  closed : (Quotation.inside quote).after ((xs.take n).map Located.char) = .outside
  any : ∀ ys, readQuoted quote (xs ++ ys) = some (text, n)

section Ended

variable {text : List Char} {n : Nat}

theorem ended_close (quoted : isQuote quote = true) (closes : c.char = quote) :
    Ended quote (c :: rest) [] 1 := by
  constructor
  case short => simp
  case any => exact fun ys => readQuoted_close quoted closes
  case closed =>
    rw [List.take_succ_cons, List.map_cons, closes,
      Quotation.after_close (ne_backslash_of_isQuote quoted)]
    rfl

theorem Ended.plain (ended : Ended quote rest text n) (plain : c.char ≠ '\\')
    (other : c.char ≠ quote) : Ended quote (c :: rest) (c.char :: text) (n + 1) := by
  constructor
  case short => exact Nat.succ_le_succ ended.short
  case closed =>
    rw [List.take_succ_cons, List.map_cons, Quotation.after_other plain other, ended.closed]
  case any =>
    intro ys
    rw [List.cons_append, readQuoted_plain plain other, ended.any]
    rfl

theorem Ended.escaped (ended : Ended quote rest text n) (backslash : c.char = '\\')
    (stands : unescape? quote d.char = some e) :
    Ended quote (c :: d :: rest) (e :: text) (n + 2) := by
  constructor
  case short => exact Nat.succ_le_succ (Nat.succ_le_succ ended.short)
  case closed =>
    rw [List.take_succ_cons, List.take_succ_cons, List.map_cons, List.map_cons, backslash,
      Quotation.after_escape, ended.closed]
  case any =>
    intro ys
    rw [List.cons_append, List.cons_append, readQuoted_escaped backslash stands, ended.any]
    rfl

/-- A backslash that escapes nothing is part of the text, and so is what stands behind it. -/
theorem Ended.kept (ended : Ended quote (d :: rest) text n) (backslash : c.char = '\\')
    (keeps : unescape? quote d.char = none) :
    Ended quote (c :: d :: rest) ('\\' :: text) (n + 1) := by
  obtain ⟨plain, other⟩ := ne_of_unescape? keeps
  constructor
  case short => exact Nat.succ_le_succ ended.short
  case closed =>
    have closed := ended.closed
    cases n with
    | zero => cases closed
    | succ n =>
      rw [List.take_succ_cons, List.map_cons, Quotation.after_other plain other] at closed
      rw [List.take_succ_cons, List.take_succ_cons, List.map_cons, List.map_cons, backslash,
        Quotation.after_escape, closed]
  case any =>
    intro ys
    rw [List.cons_append, List.cons_append, readQuoted_kept backslash keeps, ← List.cons_append,
      ended.any]
    rfl

theorem ended_of_readQuoted (quoted : isQuote quote = true)
    (read : readQuoted quote xs = some (text, n)) : Ended quote xs text n := by
  induction xs using readQuoted.induct quote generalizing text n with
  | case1 => cases read
  | case2 c d rest backslash e stands ih =>
    have same := eq_of_beq backslash
    rw [readQuoted_escaped same stands] at read
    obtain ⟨⟨more, k⟩, later, made⟩ := Option.map_eq_some_iff.1 read
    cases made
    exact (ih later).escaped same stands
  | case3 c d rest backslash keeps ih =>
    have same := eq_of_beq backslash
    rw [readQuoted_kept same keeps] at read
    obtain ⟨⟨more, k⟩, later, made⟩ := Option.map_eq_some_iff.1 read
    cases made
    exact (ih later).kept same keeps
  | case4 c d rest plain closes =>
    rw [readQuoted_close quoted (eq_of_beq closes)] at read
    cases read
    exact ended_close quoted (eq_of_beq closes)
  | case5 c d rest plain other ih =>
    have backslash : c.char ≠ '\\' := by simpa using plain
    have differs : c.char ≠ quote := by simpa using other
    rw [readQuoted_plain backslash differs] at read
    obtain ⟨⟨more, k⟩, later, made⟩ := Option.map_eq_some_iff.1 read
    cases made
    exact (ih later).plain backslash differs
  | case6 c closes =>
    rw [readQuoted_close quoted (eq_of_beq closes)] at read
    cases read
    exact ended_close quoted (eq_of_beq closes)
  | case7 c other => simp [readQuoted, other] at read

end Ended

/-- A quoted text without an end leaves its quote open, and blanks do not close it. -/
structure Unended (quote : Char) (xs : List Located) : Prop where
  opened : (Quotation.inside quote).after (xs.map Located.char) ≠ .outside
  blanks : ∀ ys : List Located, (∀ c ∈ ys, Text.isBlank c.char = true) →
    readQuoted quote (xs ++ ys) = none

theorem ne_of_isBlank (quoted : isQuote quote = true) (blank : Text.isBlank e = true) :
    e ≠ quote := by
  rintro rfl
  rw [(Quotation.ne_of_isBlank blank).2] at quoted
  cases quoted

theorem readQuoted_blanks (quoted : isQuote quote = true)
    (blank : ∀ c ∈ xs, Text.isBlank c.char = true) : readQuoted quote xs = none := by
  induction xs with
  | nil => rfl
  | cons c xs ih =>
    obtain ⟨here, others⟩ := List.forall_mem_cons.1 blank
    have plain := (Quotation.ne_of_isBlank here).1
    rw [readQuoted_plain plain (ne_of_isBlank quoted here), ih others]
    rfl

/-- An escaped blank stands for itself. -/
theorem unescape?_blank (quoted : isQuote quote = true) (blank : Text.isBlank e = true) :
    unescape? quote e = none := by
  have differs := ne_of_isBlank quoted blank
  have plain := (Quotation.ne_of_isBlank blank).1
  have letter : e ≠ 'n' ∧ e ≠ 't' := by
    constructor <;>
    · rintro rfl
      exact absurd blank (by decide)
  simp [unescape?, differs, plain, letter]

theorem unended_nil (quoted : isQuote quote = true) : Unended quote [] :=
  ⟨nofun, fun _ => readQuoted_blanks quoted⟩

theorem Unended.plain (unended : Unended quote rest) (plain : c.char ≠ '\\')
    (other : c.char ≠ quote) : Unended quote (c :: rest) := by
  constructor
  case opened =>
    rw [List.map_cons, Quotation.after_other plain other]
    exact unended.opened
  case blanks =>
    intro ys blank
    rw [List.cons_append, readQuoted_plain plain other, unended.blanks ys blank]
    rfl

theorem Unended.escaped (unended : Unended quote rest) (backslash : c.char = '\\')
    (stands : unescape? quote d.char = some e) : Unended quote (c :: d :: rest) := by
  constructor
  case opened =>
    rw [List.map_cons, List.map_cons, backslash, Quotation.after_escape]
    exact unended.opened
  case blanks =>
    intro ys blank
    rw [List.cons_append, List.cons_append, readQuoted_escaped backslash stands,
      unended.blanks ys blank]
    rfl

theorem Unended.kept (unended : Unended quote (d :: rest)) (backslash : c.char = '\\')
    (keeps : unescape? quote d.char = none) : Unended quote (c :: d :: rest) := by
  obtain ⟨plain, other⟩ := ne_of_unescape? keeps
  constructor
  case opened =>
    have opened := unended.opened
    rw [List.map_cons, Quotation.after_other plain other] at opened
    rw [List.map_cons, List.map_cons, backslash, Quotation.after_escape]
    exact opened
  case blanks =>
    intro ys blank
    rw [List.cons_append, List.cons_append, readQuoted_kept backslash keeps, ← List.cons_append,
      unended.blanks ys blank]
    rfl

/-- A backslash at the end waits for what it escapes, and a blank behind it stands for itself. -/
theorem unended_backslash (quoted : isQuote quote = true) (backslash : c.char = '\\') :
    Unended quote [c] := by
  constructor
  case opened => simp [Quotation.after, Quotation.step, backslash]
  case blanks =>
    intro ys blank
    cases ys with
    | nil =>
      have differs : c.char ≠ quote := by
        rw [backslash]
        exact (ne_backslash_of_isQuote quoted).symm
      simp [readQuoted, differs]
    | cons d ys =>
      have keeps := unescape?_blank quoted (blank d List.mem_cons_self)
      rw [List.singleton_append, readQuoted_kept backslash keeps, readQuoted_blanks quoted blank]
      rfl

theorem unended_of_readQuoted (quoted : isQuote quote = true) (read : readQuoted quote xs = none) :
    Unended quote xs := by
  induction xs using readQuoted.induct quote with
  | case1 => exact unended_nil quoted
  | case2 c d rest backslash e stands ih =>
    have same := eq_of_beq backslash
    rw [readQuoted_escaped same stands, Option.map_eq_none_iff] at read
    exact (ih read).escaped same stands
  | case3 c d rest backslash keeps ih =>
    have same := eq_of_beq backslash
    rw [readQuoted_kept same keeps, Option.map_eq_none_iff] at read
    exact (ih read).kept same keeps
  | case4 c d rest plain closes =>
    rw [readQuoted_close quoted (eq_of_beq closes)] at read
    cases read
  | case5 c d rest plain other ih =>
    have backslash : c.char ≠ '\\' := by simpa using plain
    have differs : c.char ≠ quote := by simpa using other
    rw [readQuoted_plain backslash differs, Option.map_eq_none_iff] at read
    exact (ih read).plain backslash differs
  | case6 c closes =>
    rw [readQuoted_close quoted (eq_of_beq closes)] at read
    cases read
  | case7 c other =>
    by_cases backslash : c.char = '\\'
    · exact unended_backslash quoted backslash
    · exact (unended_nil quoted).plain backslash (by simpa using other)

/-- A quoted text is read within a part of a source alike if its quote is closed there, or if only
blanks stand behind. -/
theorem readQuoted_append (quoted : isQuote quote = true)
    (closed : (Quotation.inside quote).after (xs.map Located.char) = .outside ∨
      ∀ c ∈ ys, Text.isBlank c.char = true) :
    readQuoted quote (xs ++ ys) = readQuoted quote xs := by
  cases read : readQuoted quote xs with
  | some found => exact (ended_of_readQuoted quoted read).any ys
  | none =>
    obtain ⟨opened, blanks⟩ := unended_of_readQuoted quoted read
    rcases closed with closed | blank
    · exact absurd closed opened
    · exact blanks ys blank

end Quoted

/-! The ways in which a lexeme begins. -/

/-- What a reader of lexemes gives: a lexeme, if there is one, and the number of characters that it
takes behind its first. -/
abbrev Found : Type := Except Fault (Option Lexeme × Nat)

/-- A backslash, which must be the last visible character of its line. -/
def continuation (stop : Nat) (rest : List Located) : Found :=
  let line := rest.takeWhile (fun d => d.offset < stop && d.char != '\n')
  if line.all (fun d => Text.isBlank d.char) then .ok (none, line.length)
  else .error .strayBackslash

/-- A quoted text; `passed` characters stand before its characters and behind the first. -/
def quotedLexeme (make : String → Lexeme) (passed : Nat) (quote : Char) (rest : List Located) :
    Found :=
  match readQuoted quote rest with
  | some (text, n) => .ok (some (make (String.ofList text)), n + passed)
  | none => .error .openText

def marksInstant (stop : Nat) (c : Located) (rest : List Located) : Bool :=
  (c.char == 't' || c.char == 'T') && startsWith stop '\'' rest

def digitFollows (stop : Nat) : List Located → Bool
  | d :: _ => d.offset < stop && d.char.isDigit
  | [] => false

def startsNumber (stop : Nat) (previous : Option Lexeme) (c : Located) (rest : List Located) :
    Bool :=
  c.char.isDigit ||
    (c.char == '-' && !(previous.map Lexeme.endsOperand).getD false && digitFollows stop rest)

def numberLexeme (stop : Nat) (c : Located) (rest : List Located) : Found :=
  let n := runLength stop isNumberPart rest
  .ok (some (.number (Text.textOf (c :: rest.take n))), n)

/-- A URI, or else a word. -/
def nameLexeme (stop : Nat) (c : Located) (rest : List Located) : Found :=
  match uriLength? stop (c :: rest) with
  | some n => .ok (some (.uri (Text.textOf (c :: rest.take (n - 1)))), n - 1)
  | none =>
    let n := wordLength stop rest
    .ok (some (.word (Text.textOf (c :: rest.take n))), n)

def signLexeme (stop : Nat) (c : Located) (rest : List Located) : Found :=
  match readMark? stop c.char rest with
  | some (mark, n) => .ok (some (.mark mark), n)
  | none => .error (.strayCharacter c.char)

/-- How a lexeme begins decides what it is. -/
theorem readLexeme_eq (stop : Nat) (previous : Option Lexeme) (c : Located)
    (rest : List Located) :
    readLexeme stop previous c rest =
      if c.char == '\\' then continuation stop rest
      else if isQuote c.char then quotedLexeme .text 0 c.char rest
      else if marksInstant stop c rest then quotedLexeme .instant 1 '\'' (rest.drop 1)
      else if startsNumber stop previous c rest then numberLexeme stop c rest
      else if isWordStart c.char then nameLexeme stop c rest
      else signLexeme stop c rest := by
  cases rest <;> rfl

/-! What stands behind a statement makes no difference to its lexemes. -/

variable {previous : Option Lexeme} {c : Located} {n : Nat}

theorem continuation_append (beyond : Beyond stop ys) :
    continuation stop (xs ++ ys) = continuation stop xs := by
  unfold continuation
  rw [takeWhile_append_beyond beyond (· != '\n')]

theorem marksInstant_append (beyond : Beyond stop ys) :
    marksInstant stop c (xs ++ ys) = marksInstant stop c xs := by
  unfold marksInstant
  rw [startsWith_append beyond]

theorem startsNumber_append (beyond : Beyond stop ys) :
    startsNumber stop previous c (xs ++ ys) = startsNumber stop previous c xs := by
  have digit : digitFollows stop (xs ++ ys) = digitFollows stop xs := by
    cases xs with
    | cons d xs => rfl
    | nil =>
      cases ys with
      | nil => rfl
      | cons d ys => exact beyond.cons _
  unfold startsNumber
  rw [digit]

theorem numberLexeme_append (beyond : Beyond stop ys) :
    numberLexeme stop c (xs ++ ys) = numberLexeme stop c xs := by
  unfold numberLexeme
  rw [runLength_append beyond]
  dsimp only
  rw [List.take_append_of_le_length (runLength_le _ _ _)]

theorem nameLexeme_append (beyond : Beyond stop ys) :
    nameLexeme stop c (xs ++ ys) = nameLexeme stop c xs := by
  have uri : uriLength? stop ((c :: xs) ++ ys) = uriLength? stop (c :: xs) :=
    uriLength?_append beyond
  rw [List.cons_append] at uri
  unfold nameLexeme
  rw [uri]
  cases found : uriLength? stop (c :: xs) with
  | none =>
    dsimp only
    rw [wordLength_append beyond, List.take_append_of_le_length (wordLength_le _ _)]
  | some n =>
    have short := (uriLength?_le found).2
    rw [List.length_cons] at short
    dsimp only
    rw [List.take_append_of_le_length (by omega)]

theorem signLexeme_append (beyond : Beyond stop ys) :
    signLexeme stop c (xs ++ ys) = signLexeme stop c xs := by
  unfold signLexeme
  rw [readMark?_append beyond]

/-- The quote of an instant stands behind a letter. -/
theorem exists_of_marksInstant (marked : marksInstant stop c xs = true) :
    isQuote c.char = false ∧ ∃ d rest, xs = d :: rest ∧ d.char = '\'' := by
  obtain ⟨letter, quote⟩ := Bool.and_eq_true _ _ ▸ marked
  constructor
  · rw [Bool.or_eq_true, beq_iff_eq, beq_iff_eq] at letter
    rcases letter with same | same <;> simp [isQuote, same]
  · cases xs with
    | nil => cases quote
    | cons d rest =>
      obtain ⟨-, same⟩ := Bool.and_eq_true _ _ ▸ quote
      exact ⟨d, rest, rfl, eq_of_beq same⟩

/-- A lexeme is read alike if quotes are closed where its statement ends, or if only blanks stand
behind it. -/
theorem readLexeme_append (previous : Option Lexeme) (beyond : Beyond stop ys)
    (closed : Quotation.outside.after ((c :: xs).map Located.char) = .outside ∨
      ∀ d ∈ ys, Text.isBlank d.char = true) :
    readLexeme stop previous c (xs ++ ys) = readLexeme stop previous c xs := by
  rw [readLexeme_eq, readLexeme_eq, continuation_append beyond, marksInstant_append beyond,
    startsNumber_append beyond, numberLexeme_append beyond, nameLexeme_append beyond,
    signLexeme_append beyond]
  have text : isQuote c.char = true →
      quotedLexeme .text 0 c.char (xs ++ ys) = quotedLexeme .text 0 c.char xs := by
    intro quoted
    have inner : (Quotation.inside c.char).after (xs.map Located.char) = .outside ∨
        ∀ d ∈ ys, Text.isBlank d.char = true := by
      refine closed.imp_left (fun whole => ?_)
      rwa [List.map_cons, Quotation.after_open quoted] at whole
    unfold quotedLexeme
    rw [readQuoted_append quoted inner]
  have instant : marksInstant stop c xs = true →
      quotedLexeme .instant 1 '\'' ((xs ++ ys).drop 1) =
        quotedLexeme .instant 1 '\'' (xs.drop 1) := by
    intro marked
    obtain ⟨plain, d, rest, rfl, quote⟩ := exists_of_marksInstant marked
    have inner : (Quotation.inside '\'').after (rest.map Located.char) = .outside ∨
        ∀ d ∈ ys, Text.isBlank d.char = true := by
      refine closed.imp_left (fun whole => ?_)
      rwa [List.map_cons, Quotation.after_unquoted plain, List.map_cons, quote,
        Quotation.after_open rfl] at whole
    unfold quotedLexeme
    rw [List.cons_append, List.drop_one, List.drop_one, List.tail_cons, List.tail_cons,
      readQuoted_append rfl inner]
  repeat' split
  · rfl
  · rename_i quoted
    exact text quoted
  · rename_i marked
    exact instant marked
  · rfl
  · rfl
  · rfl

/-! What a lexeme takes. -/

def Lexeme.isUri : Lexeme → Bool
  | .uri _ => true
  | _ => false

/-- A lexeme takes characters up to some number, and behind them one stands outside of quotes unless
it is a URI. -/
structure Takes (c : Located) (xs : List Located) (l : Option Lexeme) (n : Nat) : Prop where
  short : n ≤ xs.length
  closed : l.any Lexeme.isUri = false →
    Quotation.outside.after ((c :: xs.take n).map Located.char) = .outside

variable {l : Option Lexeme}

theorem takes_plain (short : n ≤ xs.length) (first : isQuote c.char = false)
    (others : ∀ d ∈ xs.take n, isQuote d.char = false) : Takes c xs l n := by
  refine ⟨short, fun _ => Quotation.after_plain ?_⟩
  rw [List.forall_mem_map]
  exact List.forall_mem_cons.2 ⟨first, others⟩

theorem takes_of_continuation (backslash : c.char = '\\')
    (read : continuation stop xs = .ok (l, n)) : Takes c xs l n := by
  unfold continuation at read
  dsimp only at read
  split at read
  · rename_i blank
    cases read
    have front := List.takeWhile_prefix (l := xs) (fun d => d.offset < stop && d.char != '\n')
    refine takes_plain front.length_le (by rw [backslash]; rfl) (fun d member => ?_)
    rw [List.prefix_iff_eq_take.1 front] at blank
    exact (Quotation.ne_of_isBlank (List.all_eq_true.1 blank d member)).2
  · cases read

theorem exists_of_quotedLexeme {make : String → Lexeme} {passed : Nat} {quote : Char}
    (read : quotedLexeme make passed quote xs = .ok (l, n)) :
    ∃ text k, readQuoted quote xs = some (text, k) ∧ n = k + passed ∧
      l = some (make (String.ofList text)) := by
  unfold quotedLexeme at read
  split at read
  · rename_i text k found
    cases read
    exact ⟨text, k, found, rfl, rfl⟩
  · cases read

theorem takes_of_text (quoted : isQuote c.char = true)
    (read : quotedLexeme .text 0 c.char xs = .ok (l, n)) : Takes c xs l n := by
  obtain ⟨text, k, found, rfl, -⟩ := exists_of_quotedLexeme read
  obtain ⟨short, closed, -⟩ := ended_of_readQuoted quoted found
  refine ⟨short, fun _ => ?_⟩
  rw [List.map_cons, Quotation.after_open quoted]
  exact closed

theorem takes_of_instant (marked : marksInstant stop c xs = true)
    (read : quotedLexeme .instant 1 '\'' (xs.drop 1) = .ok (l, n)) : Takes c xs l n := by
  obtain ⟨text, k, found, rfl, -⟩ := exists_of_quotedLexeme read
  obtain ⟨plain, d, rest, rfl, quote⟩ := exists_of_marksInstant marked
  obtain ⟨short, closed, -⟩ := ended_of_readQuoted rfl found
  rw [List.drop_one, List.tail_cons] at short closed
  refine ⟨Nat.succ_le_succ short, fun _ => ?_⟩
  rw [List.map_cons, Quotation.after_unquoted plain, List.take_succ_cons, List.map_cons, quote,
    Quotation.after_open rfl]
  exact closed

theorem isQuote_of_class (inClass : Char → Bool) (single : inClass '\'' = false)
    (double : inClass '\x22' = false) {d : Char} (member : inClass d = true) :
    isQuote d = false := by
  simp [isQuote, ne_of_class member '\'' single, ne_of_class member '\x22' double]

theorem takes_of_number (starts : startsNumber stop previous c xs = true)
    (read : numberLexeme stop c xs = .ok (l, n)) : Takes c xs l n := by
  cases read
  refine takes_plain (runLength_le _ _ _) ?_ (fun d member => ?_)
  · unfold startsNumber at starts
    rcases Bool.or_eq_true _ _ ▸ starts with digit | sign
    · exact isQuote_of_class Char.isDigit rfl rfl digit
    · simp only [Bool.and_eq_true, beq_iff_eq] at sign
      simp [isQuote, sign.1.1]
  · have front := List.takeWhile_prefix (l := xs) (fun d => d.offset < stop && isNumberPart d.char)
    rw [runLength, ← List.prefix_iff_eq_take.1 front] at member
    have part := List.all_eq_true.1 List.all_takeWhile d member
    exact isQuote_of_class isNumberPart rfl rfl (Bool.and_eq_true _ _ ▸ part).2

theorem takes_of_name (starts : isWordStart c.char = true)
    (read : nameLexeme stop c xs = .ok (l, n)) : Takes c xs l n := by
  unfold nameLexeme at read
  split at read
  · rename_i k found
    have length := uriLength?_le found
    rw [List.length_cons] at length
    cases read
    exact ⟨by omega, nofun⟩
  · cases read
    refine takes_plain (wordLength_le _ _)
      (isQuote_of_class isWordStart rfl rfl starts) (fun d member => ?_)
    have tail := isWordTail_take stop xs
    rcases of_mem_wordTail tail (List.mem_map_of_mem member) with part | hyphen
    · exact isQuote_of_class isWordPart rfl rfl part
    · simp [isQuote, hyphen]

theorem takes_of_sign (read : signLexeme stop c xs = .ok (l, n)) : Takes c xs l n := by
  unfold signLexeme at read
  split at read
  · rename_i mark k found
    cases read
    have first : isQuote c.char = false := by
      obtain ⟨-, -, single, double, -⟩ := of_mem_signStarts _ (mem_signStarts found)
      simp [isQuote, single, double]
    rcases readMark?_taken found with rfl | ⟨rfl, next⟩
    · exact takes_plain (Nat.zero_le _) first (fun d member => absurd member List.not_mem_nil)
    · cases xs with
      | nil => rcases next with next | next <;> cases next
      | cons d rest =>
        refine takes_plain (by simp) first (fun e member => ?_)
        rw [List.take_succ_cons, List.take_zero, List.mem_singleton] at member
        subst member
        rcases next with next | next
        all_goals
          have same := eq_of_beq (Bool.and_eq_true _ _ ▸ next).2
          simp [isQuote, same]
  · cases read

theorem takes_of_readLexeme (read : readLexeme stop previous c xs = .ok (l, n)) :
    Takes c xs l n := by
  rw [readLexeme_eq] at read
  repeat' split at read
  · rename_i backslash
    exact takes_of_continuation (eq_of_beq backslash) read
  · rename_i quoted
    exact takes_of_text quoted read
  · rename_i marked
    exact takes_of_instant marked read
  · rename_i starts
    exact takes_of_number starts read
  · rename_i starts
    exact takes_of_name starts read
  · exact takes_of_sign read

end ThreatHunt.Source
