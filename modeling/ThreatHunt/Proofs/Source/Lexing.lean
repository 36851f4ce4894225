import ThreatHunt.Proofs.Source.Written
import ThreatHunt.Proofs.Text.Located

/-!
Lexemes that are written are read. Each lexeme is read up to its end, because what stands behind it
cannot go on with it, and then the reader is where the next one starts.
-/

namespace ThreatHunt.Source

open Text (Located locateFrom byteLength byteLength_cons byteLength_append locateFrom_append
  length_locateFrom drop_locateFrom textOf_take)

/-! Located characters before the byte at which a statement stops. -/

variable {stop start : Nat} {cs front back : List Char}

/-- Whether characters from a byte on end before the statement does. -/
def Inside (stop start : Nat) (cs : List Char) : Prop := start + byteLength cs ≤ stop

theorem Inside.cons {c : Char} (inside : Inside stop start (c :: cs)) :
    start < stop ∧ Inside stop (start + c.utf8Size) cs := by
  unfold Inside at inside ⊢
  rw [byteLength_cons] at inside
  have size := Char.utf8Size_pos c
  omega

theorem Inside.append (inside : Inside stop start (front ++ back)) :
    Inside stop start front ∧ Inside stop (start + byteLength front) back := by
  unfold Inside at inside ⊢
  rw [byteLength_append] at inside
  omega

theorem startsWith_locateFrom (inside : Inside stop start cs) (d : Char) :
    startsWith stop d (locateFrom start cs) = (cs.head? == some d) := by
  cases cs with
  | nil => rfl
  | cons c cs => simp [locateFrom, startsWith, inside.cons.1]

theorem runLength_locateFrom (inside : Inside stop start cs) (inClass : Char → Bool) :
    runLength stop inClass (locateFrom start cs) = (cs.takeWhile inClass).length := by
  induction cs generalizing start with
  | nil => rfl
  | cons c cs ih =>
    obtain ⟨here, later⟩ := inside.cons
    have more := ih later
    rw [runLength] at more
    rw [runLength, locateFrom, List.takeWhile_cons, List.takeWhile_cons]
    cases inClass c <;> simp [here, more]

/-- A run ends where a character does not belong to it. -/
theorem takeWhile_append {inClass : Char → Bool} (all : front.all inClass = true)
    (ends : ∀ d ∈ back.head?, inClass d = false) : (front ++ back).takeWhile inClass = front := by
  rw [List.takeWhile_append_of_pos (fun c member => List.all_eq_true.1 all c member)]
  cases back with
  | nil => simp
  | cons d back => rw [List.takeWhile_cons_of_neg (by simp [ends d rfl]), List.append_nil]

theorem wordLength_locateFrom (inside : Inside stop start (front ++ back))
    (tail : isWordTail front = true)
    (ends : ∀ d ∈ back.head?, isWordPart d = false ∧ d ≠ '-') :
    wordLength stop (locateFrom start (front ++ back)) = front.length := by
  induction front generalizing start with
  | nil =>
    cases back with
    | nil => rfl
    | cons d back =>
      obtain ⟨other, hyphen⟩ := ends d rfl
      simp [locateFrom, wordLength, other, hyphen]
  | cons c front ih =>
    obtain ⟨here, later⟩ := inside.cons
    rw [isWordTail, Bool.and_eq_true, Bool.or_eq_true] at tail
    obtain ⟨part | hyphen, others⟩ := tail
    · rw [List.cons_append, locateFrom, wordLength_part here part, ih later others,
        List.length_cons]
    · rw [Bool.and_eq_true, beq_iff_eq] at hyphen
      obtain ⟨rfl, next⟩ := hyphen
      have more := ih later others
      cases front with
      | nil => exact absurd next (by decide)
      | cons d front =>
        have part : isWordPart d = true := next
        have whole : Inside stop _ (d :: (front ++ back)) := later
        have inner := whole.cons.1
        rw [List.cons_append, locateFrom] at more
        rw [List.cons_append, List.cons_append, locateFrom, locateFrom,
          wordLength_hyphen inner part, more]
        rfl

/-- Whether no colon with a slash behind it ends what may be the scheme of a URI. -/
def SchemeFree (cs : List Char) : Prop :=
  ∀ scheme next, cs = scheme ++ ':' :: next → scheme.all isSchemePart = true → next.head? ≠ some '/'

theorem uriLength?_locateFrom (inside : Inside stop start cs) (free : SchemeFree cs) :
    uriLength? stop (locateFrom start cs) = none := by
  have all : (cs.takeWhile isSchemePart).all isSchemePart = true := List.all_takeWhile
  have split : cs = cs.takeWhile isSchemePart ++ cs.dropWhile isSchemePart :=
    List.takeWhile_append_dropWhile.symm
  have length := runLength_locateFrom inside isSchemePart
  unfold uriLength?
  dsimp only
  rw [length]
  generalize cs.takeWhile isSchemePart = scheme at *
  generalize cs.dropWhile isSchemePart = rest at *
  subst split
  rw [drop_locateFrom]
  have behind := inside.append.2
  rw [if_neg]
  rw [startsWith_locateFrom behind]
  cases rest with
  | nil => simp
  | cons c next =>
    by_cases colon : c = ':'
    · rw [colon] at free
      have slash := startsWith_locateFrom behind.cons.2 '/'
      have apart := free scheme next rfl all
      simp [locateFrom, slash, apart]
    · simp [colon]

/-- A quoted text is read up to its closing quote. -/
theorem readQuoted_escape (start : Nat) (cs back : List Char) :
    readQuoted '\'' (locateFrom start (escape cs ++ '\'' :: back)) =
      some (cs, (escape cs).length + 1) := by
  induction cs generalizing start with
  | nil => cases back <;> simp [escape, locateFrom, readQuoted]
  | cons c cs ih =>
    rw [escape]
    split
    · rename_i special
      have self : unescape? '\'' c = some c := by
        simp only [Bool.or_eq_true, beq_iff_eq] at special
        rcases special with rfl | rfl <;> decide
      simp [locateFrom, readQuoted, self, ih]
    · rename_i plain
      simp only [Bool.or_eq_true, beq_iff_eq, not_or] at plain
      obtain ⟨next, rest, more⟩ : ∃ next rest, escape cs ++ '\'' :: back = next :: rest := by
        cases escape cs <;> simp
      have later := ih (start + c.utf8Size)
      rw [more, locateFrom] at later
      simp [more, locateFrom, readQuoted, plain.1, plain.2, later]

theorem ne_backslash_of_isQuote {quote : Char} (quoted : isQuote quote = true) : quote ≠ '\\' := by
  rintro rfl
  exact absurd quoted (by decide)

/-! One lexeme. -/

variable {previous : Option Lexeme} {l : Lexeme}

/-- The characters that are written right behind lexemes. -/
inductive Closes : Char → Prop where
  | blank : Closes ' '
  | paren : Closes ')'
  | comma : Closes ','
  | dot : Closes '.'
  | colon : Closes ':'

theorem Closes.ends {d : Char} (closes : Closes d) : isWordPart d = false ∧ d ≠ '-' := by
  cases closes <;> decide

theorem Closes.ne {d : Char} (closes : Closes d) : d ≠ '\'' ∧ d ≠ '=' ∧ d ≠ '>' := by
  cases closes <;> decide

theorem Closes.not_isNumberPart {d : Char} (closes : Closes d) (other : d ≠ '.') :
    isNumberPart d = false := by
  cases closes <;> first | decide | exact absurd rfl other

/-- What a lexeme needs of the characters behind it to end before them. -/
structure Ends (l : Lexeme) (back : List Char) : Prop where
  closes : l.opens = false → ∀ d ∈ back.head?, Closes d
  dot : ∀ s, l = .number s → back.head? ≠ some '.'
  scheme : SchemeFree (l.written ++ back)

/-- Whether a lexeme is read at a byte, up to the characters behind it. -/
def IsRead (stop start : Nat) (previous : Option Lexeme) (l : Lexeme) (back : List Char) : Prop :=
  ∃ c rest, l.written = c :: rest ∧ Text.isAsciiBlank c = false ∧
    readLexeme stop previous ⟨start, c⟩ (locateFrom (start + c.utf8Size) (rest ++ back)) =
      .ok (some l, rest.length)

theorem isRead_text (s : String) : IsRead stop start previous (.text s) back := by
  refine ⟨'\'', escape s.toList ++ ['\''], rfl, by decide, ?_⟩
  have quoted := readQuoted_escape (start + '\''.utf8Size) s.toList back
  unfold readLexeme
  simp [quoted]

theorem ne_of_class {inClass : Char → Bool} {c : Char} (member : inClass c = true) (d : Char)
    (other : inClass d = false) : c ≠ d := by
  intro same
  rw [same, other] at member
  exact absurd member Bool.false_ne_true

/-- What words start with is neither a digit nor a blank. -/
theorem code_of_isWordStart {c : Char} (begins : isWordStart c = true) :
    65 ≤ c.toNat ∧ c.toNat ≤ 122 := by
  have range : ∀ {low high : UInt32}, low ≤ c.val ∧ c.val ≤ high →
      low.toNat ≤ c.toNat ∧ c.toNat ≤ high.toNat := fun inside =>
    ⟨UInt32.le_iff_toNat_le.1 inside.1, UInt32.le_iff_toNat_le.1 inside.2⟩
  rcases Bool.or_eq_true _ _ ▸ begins with letter | underscore
  · have letters : (c.isUpper || c.isLower) = true := letter
    rcases Bool.or_eq_true _ _ ▸ letters with upper | lower
    · have many : 65 ≤ c.toNat ∧ c.toNat ≤ 90 := range (of_decide_eq_true upper)
      omega
    · have both := Bool.and_eq_true _ _ ▸ lower
      have many : 97 ≤ c.toNat ∧ c.toNat ≤ 122 :=
        range ⟨of_decide_eq_true both.1, of_decide_eq_true both.2⟩
      omega
  · rw [eq_of_beq underscore]
    decide

theorem not_isDigit_of_isWordStart {c : Char} (begins : isWordStart c = true) :
    c.isDigit = false := by
  apply eq_false_of_ne_true
  intro digit
  have letter := code_of_isWordStart begins
  have both := Bool.and_eq_true _ _ ▸ digit
  have few : c.toNat ≤ 57 := UInt32.le_iff_toNat_le.1 (of_decide_eq_true both.2)
  omega

theorem not_isBlank_of_isWordStart {c : Char} (begins : isWordStart c = true) :
    Text.isBlank c = false := by
  have letter := code_of_isWordStart begins
  simp only [Text.isBlank, Bool.or_eq_false_iff, Bool.and_eq_false_imp, beq_eq_false_iff_ne,
    decide_eq_true_eq, decide_eq_false_iff_not]
  omega

theorem head_wordTail {rest : List Char} (tail : isWordTail rest = true)
    (ends : ∀ d ∈ back.head?, d ≠ '\'') : (rest ++ back).head? ≠ some '\'' := by
  cases rest with
  | nil => exact fun quote => ends '\'' quote rfl
  | cons d rest =>
    rw [List.cons_append, List.head?_cons, ne_eq, Option.some.injEq]
    rcases of_mem_wordTail tail List.mem_cons_self with part | rfl
    · exact ne_of_class part '\'' (by decide)
    · decide

/-- A word is read up to a character that cannot go on with it. -/
theorem readLexeme_word {c : Char} {rest : List Char} (begins : isWordStart c = true)
    (tail : isWordTail rest = true) (inside : Inside stop start (c :: (rest ++ back)))
    (ends : ∀ d ∈ back.head?, (isWordPart d = false ∧ d ≠ '-') ∧ d ≠ '\'')
    (free : SchemeFree (c :: (rest ++ back))) : Text.isAsciiBlank c = false ∧
      readLexeme stop previous ⟨start, c⟩ (locateFrom (start + c.utf8Size) (rest ++ back)) =
        .ok (some (.word (String.ofList (c :: rest))), rest.length) := by
  have later : Inside stop (start + c.utf8Size) (rest ++ back) := inside.cons.2
  have differs := ne_of_class begins
  have blank : Text.isAsciiBlank c = false := by
    simp (disch := decide) [Text.isAsciiBlank, differs]
  refine ⟨blank, ?_⟩
  have digit := not_isDigit_of_isWordStart begins
  have quote : startsWith stop '\'' (locateFrom (start + c.utf8Size) (rest ++ back)) = false := by
    rw [startsWith_locateFrom later]
    exact beq_eq_false_iff_ne.2 (head_wordTail tail (fun d next => (ends d next).2))
  have uri : uriLength? stop (⟨start, c⟩ :: locateFrom (start + c.utf8Size) (rest ++ back)) =
      none := uriLength?_locateFrom inside free
  have length := wordLength_locateFrom later tail (fun d next => (ends d next).1)
  have text := textOf_take (start + c.utf8Size) ⟨start, c⟩ rest back
  unfold readLexeme
  simp (disch := decide) [differs, digit, quote, begins, uri, length, text]

theorem isRead_word {s : String} (plain : isIdentifier s = true)
    (inside : Inside stop start ((Lexeme.word s).written ++ back)) (ends : Ends (.word s) back) :
    IsRead stop start previous (.word s) back := by
  obtain ⟨c, rest, chars, begins, tail⟩ := exists_of_isIdentifier plain
  have written : (Lexeme.word s).written = c :: rest := chars
  have same : s = String.ofList (c :: rest) := by rw [← chars, String.ofList_toList]
  have free := ends.scheme
  have closes := ends.closes rfl
  rw [written] at inside free
  rw [same]
  exact ⟨c, rest, String.toList_ofList, readLexeme_word begins tail inside
    (fun d next => ⟨(closes d next).ends, (closes d next).ne.1⟩) free⟩

/-- A number is read up to a character that cannot go on with it. -/
theorem readLexeme_number {c : Char} {rest : List Char}
    (inside : Inside stop start (c :: (rest ++ back)))
    (first : c.isDigit = true ∨ c = '-' ∧ (previous.map Lexeme.endsOperand).getD false = false ∧
      ∃ d ds, rest = d :: ds ∧ d.isDigit = true)
    (parts : rest.all isNumberPart = true) (stops : ∀ d ∈ back.head?, isNumberPart d = false) :
    Text.isAsciiBlank c = false ∧
      readLexeme stop previous ⟨start, c⟩ (locateFrom (start + c.utf8Size) (rest ++ back)) =
        .ok (some (.number (String.ofList (c :: rest))), rest.length) := by
  have later : Inside stop (start + c.utf8Size) (rest ++ back) := inside.cons.2
  have length : runLength stop isNumberPart (locateFrom (start + c.utf8Size) (rest ++ back)) =
      rest.length := by
    rw [runLength_locateFrom later]
    exact congrArg List.length (takeWhile_append parts stops)
  have text := textOf_take (start + c.utf8Size) ⟨start, c⟩ rest back
  have differs : ∀ d, d.isDigit = false → d ≠ '-' → c ≠ d := by
    intro d other sign
    rcases first with digit | ⟨rfl, -⟩
    · exact ne_of_class digit d other
    · exact sign.symm
  have blank : Text.isAsciiBlank c = false := by
    simp (disch := decide) [Text.isAsciiBlank, differs]
  refine ⟨blank, ?_⟩
  rcases first with digit | ⟨rfl, follows, d, ds, rfl, digit⟩
  · unfold readLexeme
    simp (disch := decide) [differs, digit, length, text]
  · have whole : Inside stop _ (d :: (ds ++ back)) := later
    have inner := whole.cons.1
    unfold readLexeme
    rw [List.cons_append, locateFrom] at length text ⊢
    rw [List.length_cons, List.take_succ_cons] at text
    simp [follows, inner, digit, length, text]

theorem isRead_number {s : String} (plain : isInteger s.toList = true)
    (inside : Inside stop start ((Lexeme.number s).written ++ back)) (ends : Ends (.number s) back)
    (follows : (previous.map Lexeme.endsOperand).getD false = false) :
    IsRead stop start previous (.number s) back := by
  have closes := ends.closes rfl
  have stops : ∀ d ∈ back.head?, isNumberPart d = false := by
    intro d next
    apply (closes d next).not_isNumberPart
    rintro rfl
    exact ends.dot s rfl next
  obtain ⟨c, rest, chars, digits, first⟩ := exists_of_isInteger plain
  have written : (Lexeme.number s).written = c :: rest := chars
  have same : s = String.ofList (c :: rest) := by rw [← chars, String.ofList_toList]
  rw [written] at inside
  have parts : rest.all isNumberPart = true :=
    List.all_eq_true.2 (fun d member => by
      simp [isNumberPart, List.all_eq_true.1 digits d member])
  have read := readLexeme_number inside
    (first.imp_right (fun sign => ⟨sign.1, follows, sign.2⟩)) parts stops
  rw [← same] at read
  exact ⟨c, rest, written, read⟩

theorem startsWith_of_ne {d : Char} (other : back.head? ≠ some d) :
    startsWith stop d (locateFrom start back) = false := by
  cases back with
  | nil => rfl
  | cons c back =>
    have differs : c ≠ d := fun same => other (congrArg some same)
    simp [locateFrom, startsWith, differs]

theorem readMark?_written (m : Mark)
    (inside : Inside stop start ((Lexeme.mark m).written ++ back))
    (closes : (Lexeme.mark m).opens = false → ∀ d ∈ back.head?, Closes d) :
    ∃ c rest, (Lexeme.mark m).written = c :: rest ∧
      readMark? stop c (locateFrom (start + c.utf8Size) (rest ++ back)) =
        some (m, rest.length) := by
  -- Only a sign that may be the first half of another looks at what is behind it.
  have apart : (Lexeme.mark m).opens = false → ∀ start,
      startsWith stop '=' (locateFrom start back) = false ∧
      startsWith stop '>' (locateFrom start back) = false := by
    intro plain start
    constructor
    · exact startsWith_of_ne (fun next => (closes plain '=' next).ne.2.1 rfl)
    · exact startsWith_of_ne (fun next => (closes plain '>' next).ne.2.2 rfl)
  have second : ∀ c, (Lexeme.mark m).written = [c, '='] →
      startsWith stop '=' (locateFrom (start + c.utf8Size) ('=' :: back)) = true := by
    intro c written
    rw [written] at inside
    have later : Inside stop (start + c.utf8Size) ('=' :: back) := inside.cons.2
    rw [startsWith_locateFrom later]
    rfl
  cases m with
  | leftParen => exact ⟨'(', [], rfl, by simp [readMark?]⟩
  | rightParen => exact ⟨')', [], rfl, by simp [readMark?]⟩
  | leftBracket => exact ⟨'[', [], rfl, by simp [readMark?]⟩
  | rightBracket => exact ⟨']', [], rfl, by simp [readMark?]⟩
  | leftBrace => exact ⟨'\x7b', [], rfl, by simp [readMark?]⟩
  | rightBrace => exact ⟨'\x7d', [], rfl, by simp [readMark?]⟩
  | comma => exact ⟨',', [], rfl, by simp [readMark?]⟩
  | colon => exact ⟨':', [], rfl, by simp [readMark?]⟩
  | dot => exact ⟨'.', [], rfl, by simp [readMark?]⟩
  | plus => exact ⟨'+', [], rfl, by simp [readMark?]⟩
  | star => exact ⟨'*', [], rfl, by simp [readMark?]⟩
  | equal => exact ⟨'=', [], rfl, by simp [readMark?, apart rfl]⟩
  | less => exact ⟨'<', [], rfl, by simp [readMark?, apart rfl]⟩
  | greater => exact ⟨'>', [], rfl, by simp [readMark?, apart rfl]⟩
  | notEqual => exact ⟨'!', ['='], rfl, by simp [readMark?, second '!' rfl]⟩
  | lessEqual => exact ⟨'<', ['='], rfl, by simp [readMark?, second '<' rfl]⟩
  | greaterEqual => exact ⟨'>', ['='], rfl, by simp [readMark?, second '>' rfl]⟩

/-- The characters with which signs start. -/
def signStarts : List Char :=
  ['(', ')', '[', ']', '\x7b', '\x7d', ',', ':', '.', '+', '*', '=', '<', '>', '!']

theorem mem_signStarts {c : Char} {rest : List Located} {m : Mark} {n : Nat}
    (sign : readMark? stop c rest = some (m, n)) : c ∈ signStarts := by
  by_contra absent
  simp only [signStarts, List.mem_cons, not_or] at absent
  simp [readMark?, absent] at sign

/-- With a character of a sign nothing else starts. -/
theorem of_mem_signStarts : ∀ c ∈ signStarts, Text.isAsciiBlank c = false ∧ c ≠ '\\' ∧
    c ≠ '\'' ∧ c ≠ '\x22' ∧ c ≠ 't' ∧ c ≠ 'T' ∧ c ≠ '-' ∧ c.isDigit = false ∧
    isWordStart c = false := by
  intro c member
  simp only [signStarts, List.mem_cons, List.not_mem_nil, or_false] at member
  rcases member with rfl | rfl | rfl | rfl | rfl | rfl | rfl | rfl | rfl | rfl | rfl | rfl | rfl |
    rfl | rfl
  all_goals decide

theorem isRead_of_readMark? {c : Char} {rest : List Located} {m : Mark} {n : Nat}
    (sign : readMark? stop c rest = some (m, n)) : Text.isAsciiBlank c = false ∧
      readLexeme stop previous ⟨start, c⟩ rest = .ok (some (.mark m), n) := by
  obtain ⟨blank, backslash, single, double, lower, upper, hyphen, digit, word⟩ :=
    of_mem_signStarts c (mem_signStarts sign)
  apply And.intro blank
  simp [readLexeme, backslash, single, double, lower, upper, hyphen, digit, word, sign]

theorem isRead_mark (m : Mark) (inside : Inside stop start ((Lexeme.mark m).written ++ back))
    (ends : Ends (.mark m) back) : IsRead stop start previous (.mark m) back := by
  obtain ⟨c, rest, written, sign⟩ := readMark?_written m inside ends.closes
  obtain ⟨blank, read⟩ := isRead_of_readMark? sign
  exact ⟨c, rest, written, blank, read⟩

theorem isRead (plain : l.Plain) (follows : Follows previous l)
    (inside : Inside stop start (l.written ++ back)) (ends : Ends l back) :
    IsRead stop start previous l back := by
  cases l with
  | word s => exact isRead_word plain inside ends
  | text s => exact isRead_text s
  | number s => exact isRead_number plain inside ends (follows.number s rfl)
  | mark m => exact isRead_mark m inside ends
  | instant s => exact absurd plain not_false
  | uri s => exact absurd plain not_false

/-! What stands behind a lexeme. -/

theorem SchemeFree.cons {c : Char} (apart : c = ':' → cs.head? ≠ some '/')
    (free : isSchemePart c = true → SchemeFree cs) : SchemeFree (c :: cs) := by
  intro scheme next same all
  cases scheme with
  | nil =>
    obtain ⟨colon, rfl⟩ := List.cons.inj same
    exact apart colon
  | cons d scheme =>
    obtain ⟨rfl, rest⟩ := List.cons.inj same
    obtain ⟨part, others⟩ := Bool.and_eq_true _ _ ▸ all
    exact free part scheme next rest others

theorem SchemeFree.append (plain : ':' ∉ front) (free : SchemeFree back) :
    SchemeFree (front ++ back) := by
  induction front with
  | nil => exact free
  | cons c front ih =>
    rw [List.mem_cons, not_or] at plain
    obtain ⟨other, others⟩ := plain
    exact SchemeFree.cons (fun colon => absurd colon.symm other) (fun _ => ih others)

theorem head_written (plain : l.Plain) : ∃ c cs, l.written = c :: cs ∧ c ≠ '/' := by
  cases l with
  | word s =>
    obtain ⟨c, cs, chars, begins, -⟩ := exists_of_isIdentifier plain
    exact ⟨c, cs, chars, ne_of_class begins '/' (by decide)⟩
  | text s => exact ⟨_, _, rfl, by decide⟩
  | number s =>
    obtain ⟨c, cs, chars, -, digit | ⟨rfl, -⟩⟩ := exists_of_isInteger plain
    · exact ⟨c, cs, chars, ne_of_class digit '/' (by decide)⟩
    · exact ⟨'-', cs, chars, by decide⟩
  | mark m => cases m <;> exact ⟨_, _, rfl, by decide⟩
  | instant s => exact absurd plain not_false
  | uri s => exact absurd plain not_false

theorem head_write {ls : List Lexeme} (legible : Legible previous ls) :
    (write ls).head? ≠ some '/' := by
  cases ls with
  | nil =>
    intro absurdly
    cases absurdly
  | cons l rest =>
    obtain ⟨c, cs, written, other⟩ := head_written legible.1
    rw [write, written, List.cons_append, List.head?_cons]
    exact fun same => other (Option.some.inj same)

theorem colon_not_mem_written (plain : l.Plain) (word : ∀ s, l ≠ .text s)
    (mark : l ≠ .mark .colon) : ':' ∉ l.written := by
  have tails : ∀ cs, isWordTail cs = true → ':' ∉ cs := by
    intro cs tail colon
    rcases of_mem_wordTail tail colon with part | hyphen
    · exact absurd part (by decide)
    · exact absurd hyphen (by decide)
  cases l with
  | word s =>
    obtain ⟨c, cs, chars, begins, tail⟩ := exists_of_isIdentifier plain
    rw [Lexeme.written, chars, List.mem_cons, not_or]
    exact ⟨(ne_of_class begins ':' (by decide)).symm, tails cs tail⟩
  | number s =>
    obtain ⟨c, cs, chars, digits, first⟩ := exists_of_isInteger plain
    rw [Lexeme.written, chars, List.mem_cons, not_or]
    refine ⟨?_, tails cs (isWordTail_of_digits digits)⟩
    rcases first with digit | ⟨rfl, -⟩
    · exact (ne_of_class digit ':' (by decide)).symm
    · decide
  | text s => exact absurd rfl (word s)
  | mark m => cases m <;> first | decide | exact absurd rfl mark
  | instant s => exact absurd plain not_false
  | uri s => exact absurd plain not_false

/-- No name of what is written is taken for the scheme of a URI. -/
theorem schemeFree_write {ls : List Lexeme} (legible : Legible previous ls) :
    SchemeFree (write ls) := by
  induction ls generalizing previous with
  | nil =>
    intro scheme next same
    exact absurd same.symm (List.append_ne_nil_of_right_ne_nil _ (List.cons_ne_nil _ _))
  | cons l rest ih =>
    obtain ⟨plain, -, others⟩ := legible
    have later : SchemeFree (gap l rest ++ write rest) := by
      rcases gap_eq l rest with none | one
      · rw [none]
        exact ih others
      · rw [one]
        exact SchemeFree.cons (fun colon => absurd colon (by decide))
          (fun part => absurd part (by decide))
    rw [write]
    by_cases colon : l = .mark .colon
    · subst colon
      have right : gap (.mark .colon) rest = [] := by
        unfold gap
        split <;> rfl
      rw [right]
      exact SchemeFree.cons (fun _ => head_write others) (fun part => absurd part (by decide))
    · by_cases text : ∃ s, l = .text s
      · obtain ⟨s, rfl⟩ := text
        exact SchemeFree.cons (fun quote => absurd quote (by decide))
          (fun part => absurd part (by decide))
      · exact later.append (colon_not_mem_written plain (fun s same => text ⟨s, same⟩) colon)

theorem written_of_closes (right : l.closes = true) :
    ∃ d, l.written = [d] ∧ Closes d ∧ (d = '.' → l = .mark .dot) := by
  cases l with
  | mark m =>
    cases m
    case rightParen => exact ⟨')', rfl, .paren, by decide⟩
    case comma => exact ⟨',', rfl, .comma, by decide⟩
    case dot => exact ⟨'.', rfl, .dot, fun _ => rfl⟩
    case colon => exact ⟨':', rfl, .colon, by decide⟩
    all_goals exact absurd right (by decide)
  | _ => exact absurd right Bool.false_ne_true

/-- Nothing that is written behind a lexeme goes on with it. -/
theorem ends_write {ls : List Lexeme} (legible : Legible previous (l :: ls)) :
    Ends l (gap l ls ++ write ls) := by
  have behind : l.opens = false → ∀ d ∈ (gap l ls ++ write ls).head?,
      Closes d ∧ (d = '.' → ls.head? = some (.mark .dot)) := by
    intro plain d next
    cases ls with
    | nil => cases next
    | cons m rest =>
      by_cases right : m.closes = true
      · obtain ⟨c, written, closes, dot⟩ := written_of_closes right
        rw [gap, if_pos (by simp [right]), write, written] at next
        obtain rfl : c = d := Option.some.inj next
        exact ⟨closes, fun same => congrArg some (dot same)⟩
      · rw [gap, if_neg (by simp [plain, right])] at next
        obtain rfl : ' ' = d := Option.some.inj next
        exact ⟨.blank, fun dot => absurd dot (by decide)⟩
  constructor
  case closes => exact fun plain d next => (behind plain d next).1
  case dot =>
    rintro s rfl next
    obtain ⟨-, dot⟩ := behind rfl '.' next
    cases ls with
    | nil => cases dot rfl
    | cons m rest =>
      obtain rfl : m = .mark .dot := Option.some.inj (dot rfl)
      exact legible.2.2.2.1.dot s rfl rfl
  case scheme => exact schemeFree_write legible

/-! All lexemes. -/

/-- Blanks between lexemes are passed. -/
theorem lexFrom_gap {ls : List Lexeme} (inside : Inside stop start (gap l ls ++ back)) :
    lexFrom stop previous (locateFrom start (gap l ls ++ back)) =
      lexFrom stop previous (locateFrom (start + byteLength (gap l ls)) back) := by
  rcases gap_eq l ls with none | one
  · rw [none]
    rfl
  · rw [one] at inside ⊢
    have here : ¬stop ≤ start := Nat.not_le.2 (Inside.cons inside).1
    have blank : Text.isAsciiBlank ' ' = true := by decide
    rw [List.singleton_append, locateFrom, lexFrom, if_neg here, if_pos blank]
    rfl

theorem lexFrom_written (read : IsRead stop start previous l back)
    (inside : Inside stop start (l.written ++ back)) {tokens : List Token}
    (later : lexFrom stop (some l) (locateFrom (start + byteLength l.written) back) = .ok tokens) :
    lexFrom stop previous (locateFrom start (l.written ++ back)) = .ok (⟨l, start⟩ :: tokens) := by
  obtain ⟨c, cs, written, blank, read⟩ := read
  rw [written] at inside later ⊢
  have here : ¬stop ≤ start := Nat.not_le.2 (Inside.cons inside).1
  have visible : ¬Text.isAsciiBlank c = true := by simp [blank]
  have rest : (locateFrom (start + c.utf8Size) (cs ++ back)).drop cs.length =
      locateFrom (start + byteLength (c :: cs)) back := by
    rw [drop_locateFrom, byteLength_cons, Nat.add_assoc]
  rw [List.cons_append, locateFrom, lexFrom, if_neg here, if_neg visible, read]
  dsimp only
  rw [rest, later]
  rfl

theorem lexFrom_write {ls : List Lexeme} (legible : Legible previous ls)
    (inside : Inside stop start (write ls)) :
    ∃ tokens, lexFrom stop previous (locateFrom start (write ls)) = .ok tokens ∧
      tokens.map Token.lexeme = ls := by
  induction ls generalizing start previous with
  | nil => exact ⟨[], by rw [write, locateFrom, lexFrom], rfl⟩
  | cons l rest ih =>
    rw [write] at inside
    have read := isRead legible.1 legible.2.1 inside (ends_write legible)
    have gapped := inside.append.2
    obtain ⟨tokens, lexed, lexemes⟩ := ih legible.2.2 gapped.append.2
    rw [← lexFrom_gap gapped] at lexed
    exact ⟨⟨l, start⟩ :: tokens, lexFrom_written read inside lexed, congrArg (l :: ·) lexemes⟩

/-- Written lexemes are what is read, and nothing of them is taken for a comment. -/
theorem lex_write {ls : List Lexeme} (legible : Legible none ls) :
    stripComments (String.ofList (write ls)) = String.ofList (write ls) ∧
      ∃ tokens, lex (String.ofList (write ls)) ⟨0, byteLength (write ls)⟩ = .ok tokens ∧
        tokens.map Token.lexeme = ls := by
  constructor
  · rw [stripComments, String.toList_ofList, blankFrom_write legible]
  · have whole : charactersFrom (String.ofList (write ls)) 0 = locateFrom 0 (write ls) := by
      rw [charactersFrom, Text.locate, String.toList_ofList]
      cases locateFrom 0 (write ls) <;> simp
    have inside : Inside (byteLength (write ls)) 0 (write ls) := by
      rw [Inside, Nat.zero_add]
    rw [lex, whole]
    exact lexFrom_write legible inside

end ThreatHunt.Source
