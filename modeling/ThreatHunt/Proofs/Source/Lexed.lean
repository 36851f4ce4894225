import ThreatHunt.Proofs.Source.Joined
import ThreatHunt.Proofs.Source.Met

/-!
Statements lexed from one lexeme to the next. A lexeme is read up to its end, blanks are passed, and
no URI is among what is read. So characters are lexed piece by piece, each piece behind the last
lexeme of the piece before it.
-/

namespace ThreatHunt.Source

open Text (Located locateFrom byteLength)

variable {ok : Bool} {stop start : Nat} {previous : Option Lexeme} {l : Lexeme} {c quote : Char}
  {s : String} {cs front back rest : List Char} {m : Mark} {found : Except Misread (List Token)}

/-- What characters behind a lexeme are lexed to. None of their lexemes is a URI. -/
structure Lexed (stop start : Nat) (previous : Option Lexeme) (cs : List Char)
    (found : Except Misread (List Token)) : Prop where
  read : lexFrom stop previous (locateFrom start cs) = found
  closed : ∀ m ∈ metFrom stop previous (locateFrom start cs), m.Closed

theorem lexed_nil (stop start : Nat) (previous : Option Lexeme) :
    Lexed stop start previous [] (.ok []) := by
  constructor
  case read => rw [locateFrom, lexFrom]
  case closed =>
    rw [locateFrom, metFrom]
    exact List.forall_mem_nil _

namespace Lexed

theorem blank (later : Lexed stop (start + c.utf8Size) previous cs found)
    (blank : Text.isAsciiBlank c = true) (inside : Inside stop start (c :: cs)) :
    Lexed stop start previous (c :: cs) found := by
  have within : ¬stop ≤ start := Nat.not_le.2 inside.cons.1
  constructor
  case read =>
    rw [locateFrom, lexFrom_blank within blank]
    exact later.read
  case closed =>
    rw [locateFrom, metFrom_blank within blank]
    exact later.closed

theorem blanks (later : Lexed stop (start + byteLength front) previous back found)
    (blanks : ∀ c ∈ front, Text.isAsciiBlank c = true) (inside : Inside stop start (front ++ back)) :
    Lexed stop start previous (front ++ back) found := by
  induction front generalizing start with
  | nil => exact later
  | cons c front ih =>
    obtain ⟨first, others⟩ := List.forall_mem_cons.1 blanks
    rw [Text.byteLength_cons, ← Nat.add_assoc] at later
    exact (ih later others inside.cons.2).blank first inside

/-- A lexeme and those behind it. -/
theorem lexeme (later : Lexed stop (start + byteLength (c :: front)) (some l) back found)
    (inside : Inside stop start (c :: (front ++ back)))
    (read : Text.isAsciiBlank c = false ∧
      readLexeme stop previous ⟨start, c⟩ (locateFrom (start + c.utf8Size) (front ++ back)) =
        .ok (some l, front.length)) (plain : l.isUri = false) :
    Lexed stop start previous (c :: (front ++ back)) (found.map (⟨l, start⟩ :: ·)) := by
  obtain ⟨visible, read⟩ := read
  have within : ¬stop ≤ start := Nat.not_le.2 inside.cons.1
  have shown : ¬Text.isAsciiBlank c = true := by simp [visible]
  have rest : (locateFrom (start + c.utf8Size) (front ++ back)).drop front.length =
      locateFrom (start + byteLength (c :: front)) back := by
    rw [Text.drop_locateFrom, Text.byteLength_cons, Nat.add_assoc]
  constructor
  case read => rw [locateFrom, lexFrom_lexeme within shown read, rest, later.read]
  case closed =>
    rw [locateFrom, metFrom_lexeme within shown read, rest, List.forall_mem_cons]
    exact ⟨fun uri => absurd (uri.symm.trans plain) (by decide), later.closed⟩

theorem written (later : Lexed stop (start + byteLength l.written) (some l) back found)
    (inside : Inside stop start (l.written ++ back)) (read : IsRead stop start previous l back)
    (plain : l.isUri = false) :
    Lexed stop start previous (l.written ++ back) (found.map (⟨l, start⟩ :: ·)) := by
  obtain ⟨c, rest, written, read⟩ := read
  rw [written] at inside later ⊢
  exact later.lexeme inside read plain

/-- A sign of one character. -/
theorem mark (later : Lexed stop (start + c.utf8Size) (some (.mark m)) back found)
    (sign : ∀ rest, readMark? stop c rest = some (m, 0)) (inside : Inside stop start (c :: back)) :
    Lexed stop start previous (c :: back) (found.map (⟨.mark m, start⟩ :: ·)) := by
  have alone : Lexed stop (start + byteLength [c]) (some (.mark m)) back found := later
  exact alone.lexeme inside (isRead_of_readMark? (sign _)) rfl

theorem fault {fault : Fault} (inside : Inside stop start (c :: cs))
    (visible : Text.isAsciiBlank c = false)
    (read : readLexeme stop previous ⟨start, c⟩ (locateFrom (start + c.utf8Size) cs) =
      .error fault) :
    Lexed stop start previous (c :: cs) (.error ⟨faultOffset ⟨start, c⟩ fault, fault⟩) := by
  have within : ¬stop ≤ start := Nat.not_le.2 inside.cons.1
  have shown : ¬Text.isAsciiBlank c = true := by simp [visible]
  constructor
  case read => rw [locateFrom, lexFrom_fault within shown read]
  case closed =>
    rw [locateFrom, metFrom_fault within shown read]
    exact List.forall_mem_nil _

/-! Words and signs before a blank. -/

theorem schemeFree_blank (back : List Char) : SchemeFree (' ' :: back) :=
  SchemeFree.cons (fun colon => absurd colon (by decide)) (fun part => absurd part (by decide))

theorem word_blank (later : Lexed stop (start + byteLength s.toList + 1) (some (.word s)) back found)
    (plain : isIdentifier s = true) (inside : Inside stop start (s.toList ++ ' ' :: back)) :
    Lexed stop start previous (s.toList ++ ' ' :: back) (found.map (⟨.word s, start⟩ :: ·)) := by
  have gap : Lexed stop (start + byteLength s.toList) (some (.word s)) (' ' :: back) found :=
    later.blank (by decide) inside.append.2
  have free := (schemeFree_blank back).append
    (colon_not_mem_written (l := .word s) plain (fun _ => Lexeme.noConfusion) Lexeme.noConfusion)
  have ends : Ends (.word s) (' ' :: back) := by
    constructor
    case closes =>
      rintro - _ ⟨⟩
      exact .blank
    case dot => exact fun _ => Lexeme.noConfusion
    case scheme => exact free
  exact gap.written inside (isRead_word plain inside ends) rfl

theorem equal_blank (later : Lexed stop (start + 2) (some (.mark .equal)) back found)
    (inside : Inside stop start ('=' :: ' ' :: back)) :
    Lexed stop start previous ('=' :: ' ' :: back) (found.map (⟨.mark .equal, start⟩ :: ·)) := by
  have gap : Lexed stop (start + byteLength ['=']) (some (.mark .equal)) (' ' :: back) found :=
    later.blank (by decide) inside.cons.2
  have single : startsWith stop '=' (locateFrom (start + '='.utf8Size) (' ' :: back)) = false :=
    startsWith_of_ne (by simp)
  exact gap.lexeme inside (isRead_of_readMark? (by simp [readMark?, single])) rfl

end Lexed

/-! Pieces. -/

/-- Whether characters behind a lexeme are all lexed, or met with a fault. -/
def Lexes (ok : Bool) (stop start : Nat) (previous : Option Lexeme) (cs : List Char) : Prop :=
  ∃ found, Lexed stop start previous cs found ∧ found.isOk = ok

theorem isOk_map {α β ε : Type} (f : α → β) (found : Except ε α) :
    (found.map f).isOk = found.isOk := by
  cases found <;> rfl

theorem map_map {α β γ ε : Type} (f : α → β) (g : β → γ) (found : Except ε α) :
    (found.map f).map g = found.map (g ∘ f) := by
  cases found <;> rfl

/-- Behind a lexeme, characters are passed: lexing goes on behind them, after a lexeme of a kind. -/
def Passes (previous : Option Lexeme) (cs rest : List Char) (next : Option Lexeme → Prop) : Prop :=
  ∀ ok stop start, Inside stop start (cs ++ rest) →
    (∀ last, next last → Lexes ok stop (start + byteLength cs) last rest) →
    Lexes ok stop start previous (cs ++ rest)

/-- Behind a lexeme, there is a fault in characters. -/
def Refuses (previous : Option Lexeme) (cs rest : List Char) : Prop :=
  ∀ stop start, Inside stop start (cs ++ rest) → Lexes false stop start previous (cs ++ rest)

variable {next between : Option Lexeme → Prop}

theorem Passes.mono {next' : Option Lexeme → Prop} (passes : Passes previous cs rest next)
    (wider : ∀ last, next last → next' last) : Passes previous cs rest next' :=
  fun ok stop start inside later =>
    passes ok stop start inside (fun last kind => later last (wider last kind))

theorem Passes.append (first : Passes previous front (back ++ rest) between)
    (second : ∀ last, between last → Passes last back rest next) :
    Passes previous (front ++ back) rest next := by
  intro ok stop start inside later
  rw [List.append_assoc] at inside ⊢
  refine first ok stop start inside (fun last kind => ?_)
  refine second last kind ok stop _ inside.append.2 (fun end' kind' => ?_)
  have behind := later end' kind'
  rwa [Text.byteLength_append, ← Nat.add_assoc] at behind

theorem Passes.refuses (first : Passes previous front (back ++ rest) between)
    (second : ∀ last, between last → Refuses last back rest) :
    Refuses previous (front ++ back) rest := by
  intro stop start inside
  rw [List.append_assoc] at inside ⊢
  exact first false stop start inside
    (fun last kind => second last kind stop _ inside.append.2)

theorem Refuses.append (refuses : Refuses previous front (back ++ rest)) :
    Refuses previous (front ++ back) rest := by
  intro stop start inside
  rw [List.append_assoc] at inside ⊢
  exact refuses stop start inside

theorem passes_blanks (blanks : ∀ c ∈ cs, Text.isAsciiBlank c = true) :
    Passes previous cs rest (· = previous) := by
  intro ok stop start inside later
  obtain ⟨found, lexed, ends⟩ := later previous rfl
  exact ⟨found, lexed.blanks blanks inside, ends⟩

/-- What is read as one lexeme of a kind. -/
theorem passes_lexeme
    (read : ∀ stop start, Inside stop start (c :: (front ++ rest)) → ∃ l, next (some l) ∧
      l.isUri = false ∧ Text.isAsciiBlank c = false ∧
      readLexeme stop previous ⟨start, c⟩ (locateFrom (start + c.utf8Size) (front ++ rest)) =
        .ok (some l, front.length)) : Passes previous (c :: front) rest next := by
  intro ok stop start inside later
  obtain ⟨l, kind, plain, isRead⟩ := read stop start inside
  obtain ⟨found, lexed, ends⟩ := later (some l) kind
  exact ⟨_, lexed.lexeme inside isRead plain, (isOk_map _ _).trans ends⟩

theorem passes_sign (sign : ∀ stop rest, readMark? stop c rest = some (m, 0)) :
    Passes previous [c] rest (· = some (.mark m)) :=
  passes_lexeme (fun stop _ _ => ⟨.mark m, rfl, rfl, isRead_of_readMark? (sign stop _)⟩)

/-- A quoted text is read up to its closing quote. -/
theorem exists_readQuoted (opens : isQuote quote = true) (quoted : Quoted quote cs) (start : Nat)
    (back : List Char) :
    ∃ text, readQuoted quote (locateFrom start (cs ++ quote :: back)) =
      some (text, cs.length + 1) := by
  induction quoted generalizing start with
  | nil => exact ⟨[], readQuoted_close opens rfl⟩
  | @plain c cs backslash other _ ih =>
    obtain ⟨text, read⟩ := ih (start + c.utf8Size)
    refine ⟨c :: text, ?_⟩
    rw [List.cons_append, locateFrom, readQuoted_plain backslash other, read]
    rfl
  | @escaped c cs _ ih =>
    obtain ⟨text, read⟩ := ih (start + '\\'.utf8Size + c.utf8Size)
    rw [List.cons_append, List.cons_append, locateFrom, locateFrom]
    cases stands : unescape? quote c with
    | some e =>
      refine ⟨e :: text, ?_⟩
      rw [readQuoted_escaped rfl stands, read]
      rfl
    | none =>
      obtain ⟨backslash, other⟩ := ne_of_unescape? stands
      refine ⟨'\\' :: c :: text, ?_⟩
      rw [readQuoted_kept rfl stands, readQuoted_plain backslash other, read]
      rfl

theorem isAsciiBlank_of_isQuote (opens : isQuote c = true) : Text.isAsciiBlank c = false := by
  rcases (by simpa [isQuote] using opens : c = '\'' ∨ c = '\x22') with rfl | rfl <;> decide

/-- Lexemes of any kind. -/
def anyLexeme : Option Lexeme → Prop := fun _ => True

theorem passes_quoted (opens : isQuote quote = true) (inner : Quoted quote cs) :
    Passes previous (quote :: (cs ++ [quote])) rest anyLexeme := by
  refine passes_lexeme (fun stop start _ => ?_)
  obtain ⟨text, read⟩ := exists_readQuoted opens inner (start + quote.utf8Size) rest
  refine ⟨.text (String.ofList text), trivial, rfl, isAsciiBlank_of_isQuote opens, ?_⟩
  rw [readLexeme_eq, if_neg (by simpa using ne_backslash_of_isQuote opens), if_pos opens,
    quotedLexeme, List.append_assoc, List.singleton_append, read, List.length_append]
  rfl

/-- Whether a lexeme is a number. -/
def isNumber (previous : Option Lexeme) : Prop := ∃ s, previous = some (.number s)

/-- Digits, with what may follow them in a number. -/
theorem passes_digits (digit : c.isDigit = true) (parts : cs.all isNumberPart = true)
    (ends : ∀ d ∈ rest.head?, isNumberPart d = false) : Passes previous (c :: cs) rest isNumber :=
  passes_lexeme (fun _ _ inside =>
    ⟨_, ⟨_, rfl⟩, rfl, readLexeme_number inside (.inl digit) parts ends⟩)

/-- Whether a hyphen behind a lexeme is taken for the sign of a number. -/
def Fresh (previous : Option Lexeme) : Prop := (previous.map Lexeme.endsOperand).getD false = false

theorem passes_negative (fresh : Fresh previous) (digit : c.isDigit = true)
    (parts : cs.all isNumberPart = true) (ends : ∀ d ∈ rest.head?, isNumberPart d = false) :
    Passes previous ('-' :: c :: cs) rest isNumber := by
  have all : (c :: cs).all isNumberPart = true := by
    rw [List.all_cons, parts, isNumberPart, digit]
    rfl
  exact passes_lexeme (fun _ _ inside =>
    ⟨_, ⟨_, rfl⟩, rfl, readLexeme_number inside (.inr ⟨rfl, fresh, c, cs, rfl, digit⟩) all ends⟩)

/-- Behind a number stands no sign of another. -/
theorem refuses_hyphen (number : isNumber previous) : Refuses previous ('-' :: cs) rest := by
  obtain ⟨s, rfl⟩ := number
  intro stop start inside
  have stray : readLexeme stop (some (.number s)) ⟨start, '-'⟩
      (locateFrom (start + '-'.utf8Size) (cs ++ rest)) = .error (.strayCharacter '-') :=
    readLexeme_eq _ _ _ _
  exact ⟨_, Lexed.fault inside (by decide) stray, rfl⟩

theorem passes_word (begins : isWordStart c = true) (tail : isWordTail cs = true)
    (ends : ∀ d ∈ rest.head?, (isWordPart d = false ∧ d ≠ '-') ∧ d ≠ '\'')
    (free : SchemeFree (c :: (cs ++ rest))) : Passes previous (c :: cs) rest anyLexeme :=
  passes_lexeme (fun _ _ inside =>
    ⟨_, trivial, rfl, readLexeme_word begins tail inside ends free⟩)

end ThreatHunt.Source
