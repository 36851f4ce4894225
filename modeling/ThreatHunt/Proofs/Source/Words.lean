import ThreatHunt.Source.Lexer

/-!
Words of statements: a token that is a word holds an identifier, so that names can be told from what
stands around them.
-/

namespace ThreatHunt

/-- The characters of names of attributes. -/
def isNameChar (c : Char) : Bool := c.isAlphanum || ['_', '-', '.'].contains c

/-- A name that is made of words and dots. -/
structure Named (s : String) : Prop where
  some : s.toList ≠ []
  chars : ∀ c ∈ s.toList, isNameChar c = true

theorem Named.ne {s : String} (named : Named s) {c d : Char} (member : c ∈ s.toList)
    (other : isNameChar d = false) : c ≠ d := by
  intro same
  have name := named.chars c member
  rw [same, other] at name
  exact absurd name (by decide)

theorem Named.dotted {a b : String} (front : Named a) (back : Named b) : Named (a ++ "." ++ b) := by
  refine ⟨?_, fun c member => ?_⟩
  · rw [String.toList_append, String.toList_append]
    exact List.append_ne_nil_of_right_ne_nil _ back.some
  · rw [String.toList_append, String.toList_append] at member
    rcases List.mem_append.1 member with early | late
    · rcases List.mem_append.1 early with first | dot
      · exact front.chars c first
      · rw [List.mem_singleton.1 dot]
        decide
    · exact back.chars c late

namespace Source

/-- Tokens of which every word is a name. -/
def Worded (tokens : List Token) : Prop := ∀ t ∈ tokens, ∀ s, t.lexeme = .word s → Named s

theorem isNameChar_of_isWordPart {c : Char} (part : isWordPart c = true) : isNameChar c = true := by
  rcases Bool.or_eq_true _ _ ▸ part with letter | underscore
  · simp [isNameChar, letter]
  · rw [eq_of_beq underscore]
    decide

theorem isWordPart_of_isWordStart {c : Char} (start : isWordStart c = true) :
    isWordPart c = true := by
  rcases Bool.or_eq_true _ _ ▸ start with letter | underscore
  · simp [isWordPart, Char.isAlphanum, letter]
  · simp [isWordPart, underscore]

/-- Whether characters go on with a word: parts, and hyphens with a part behind them. -/
def isWordTail : List Char → Bool
  | [] => true
  | c :: rest => (isWordPart c || (c == '-' && rest.head?.any isWordPart)) && isWordTail rest

/-- Whether a text is one word, from its first character to its last. -/
def isIdentifier (s : String) : Bool :=
  match s.toList with
  | [] => false
  | c :: rest => isWordStart c && isWordTail rest

theorem exists_of_isIdentifier {s : String} (name : isIdentifier s = true) :
    ∃ c rest, s.toList = c :: rest ∧ isWordStart c = true ∧ isWordTail rest = true := by
  unfold isIdentifier at name
  split at name
  · exact absurd name Bool.false_ne_true
  · rename_i c rest chars
    obtain ⟨begins, tail⟩ := Bool.and_eq_true _ _ ▸ name
    exact ⟨c, rest, chars, begins, tail⟩

/-- A word goes on with parts and hyphens. -/
theorem of_mem_wordTail {cs : List Char} (tail : isWordTail cs = true) {c : Char}
    (member : c ∈ cs) : isWordPart c = true ∨ c = '-' := by
  induction cs with
  | nil => cases member
  | cons d cs ih =>
    rw [isWordTail, Bool.and_eq_true, Bool.or_eq_true, Bool.and_eq_true, beq_iff_eq] at tail
    rcases List.mem_cons.1 member with rfl | later
    · exact tail.1.imp_right And.left
    · exact ih tail.2 later

/-- An identifier is a name. -/
theorem named_of_isIdentifier {s : String} (name : isIdentifier s = true) : Named s := by
  obtain ⟨c, rest, chars, begins, tail⟩ := exists_of_isIdentifier name
  constructor
  case some =>
    rw [chars]
    exact List.cons_ne_nil _ _
  case chars =>
    rw [chars]
    intro d member
    rcases List.mem_cons.1 member with rfl | later
    · exact isNameChar_of_isWordPart (isWordPart_of_isWordStart begins)
    · rcases of_mem_wordTail tail later with part | rfl
      · exact isNameChar_of_isWordPart part
      · decide

theorem wordLength_part {stop start : Nat} {c : Char} (here : start < stop)
    (part : isWordPart c = true) (rest : List Text.Located) :
    wordLength stop (⟨start, c⟩ :: rest) = wordLength stop rest + 1 := by
  conv => lhs; unfold wordLength
  simp [here, part]

theorem wordLength_hyphen {stop start later : Nat} {d : Char} (here : later < stop)
    (part : isWordPart d = true) (rest : List Text.Located) :
    wordLength stop (⟨start, '-'⟩ :: ⟨later, d⟩ :: rest) =
      wordLength stop (⟨later, d⟩ :: rest) + 1 := by
  have other : isWordPart '-' = false := by decide
  conv => lhs; unfold wordLength
  simp [here, part, other]

/-- The characters of a word behind its first. -/
theorem isWordTail_take (stop : Nat) (cs : List Text.Located) :
    isWordTail ((cs.take (wordLength stop cs)).map Text.Located.char) = true := by
  induction cs with
  | nil => rfl
  | cons c rest ih =>
    obtain ⟨start, c⟩ := c
    by_cases part : start < stop ∧ isWordPart c = true
    · rw [wordLength_part part.1 part.2, List.take_succ_cons, List.map_cons, isWordTail, ih]
      simp [part.2]
    · -- Otherwise the word goes on only with a hyphen that has a part behind it.
      have other : (decide (start < stop) && isWordPart c) = false := by simpa using part
      unfold wordLength
      rw [if_neg (by simp [other])]
      split
      · rename_i hyphen
        split
        · rename_i d rest
          split
          · rename_i next
            obtain ⟨here, part⟩ := Bool.and_eq_true _ _ ▸ next
            have length : wordLength stop (d :: rest) = wordLength stop rest + 1 :=
              wordLength_part (of_decide_eq_true here) part rest
            rw [length, List.take_succ_cons, List.map_cons] at ih
            rw [length, List.take_succ_cons, List.take_succ_cons, List.map_cons, List.map_cons,
              isWordTail, ih]
            have same : c = '-' := eq_of_beq hyphen
            simp [part, same]
          · rfl
        · rfl
      · rfl

theorem isIdentifier_textOf {stop : Nat} {c : Text.Located} (rest : List Text.Located)
    (begins : isWordStart c.char = true) :
    isIdentifier (Text.textOf (c :: rest.take (wordLength stop rest))) = true := by
  rw [isIdentifier, Text.textOf, String.toList_ofList, List.map_cons]
  exact Bool.and_eq_true _ _ ▸ ⟨begins, isWordTail_take stop rest⟩

theorem isIdentifier_of_readLexeme {stop n : Nat} {previous : Option Lexeme} {c : Text.Located}
    {rest : List Text.Located} {s : String}
    (read : readLexeme stop previous c rest = .ok (some (.word s), n)) : isIdentifier s = true := by
  unfold readLexeme at read
  dsimp only at read
  -- Only the branch of words gives a word.
  repeat' split at read
  all_goals simp only [reduceCtorEq, Except.ok.injEq, Prod.mk.injEq, Option.some.injEq,
    Lexeme.word.injEq, false_and] at read
  all_goals
    rename_i start _ _
    rw [← read.1]
    exact isIdentifier_textOf _ start

/-- Every token is a lexeme that is read somewhere. -/
theorem mem_lexFrom {stop : Nat} {previous : Option Lexeme} {cs : List Text.Located}
    {tokens : List Token} (read : lexFrom stop previous cs = .ok tokens) :
    ∀ t ∈ tokens, ∃ previous c rest n,
      readLexeme stop previous c rest = .ok (some t.lexeme, n) := by
  induction previous, cs using lexFrom.induct stop generalizing tokens with
  | case1 previous =>
    rw [lexFrom] at read
    exact Except.ok.inj read ▸ fun _ member => absurd member List.not_mem_nil
  | case2 previous c rest beyond =>
    rw [lexFrom, if_pos beyond] at read
    exact Except.ok.inj read ▸ fun _ member => absurd member List.not_mem_nil
  | case3 previous c rest within blank ih =>
    rw [lexFrom, if_neg within, if_pos blank] at read
    exact ih read
  | case4 previous c rest within visible fault found =>
    rw [lexFrom, if_neg within, if_neg visible, found] at read
    cases read
  | case5 previous c rest within visible n found ih =>
    rw [lexFrom, if_neg within, if_neg visible, found] at read
    exact ih read
  | case6 previous c rest within visible lexeme n found ih =>
    rw [lexFrom, if_neg within, if_neg visible, found] at read
    dsimp only at read
    cases others : lexFrom stop (some lexeme) (rest.drop n) with
    | error misread =>
      rw [others] at read
      cases read
    | ok more =>
      rw [others] at read
      rw [← Except.ok.inj read]
      intro t member
      rcases List.mem_cons.1 member with rfl | later
      · exact ⟨previous, c, rest, n, found⟩
      · exact ih others t later

/-- The words that are read are identifiers. -/
theorem isIdentifier_of_lex {s : String} {span : Span} {tokens : List Token}
    (read : lex s span = .ok tokens) :
    ∀ t ∈ tokens, ∀ w, t.lexeme = .word w → isIdentifier w = true := by
  intro t member w word
  obtain ⟨previous, c, rest, n, found⟩ := mem_lexFrom read t member
  rw [word] at found
  exact isIdentifier_of_readLexeme found

theorem worded_lex {s : String} {span : Span} {tokens : List Token}
    (read : lex s span = .ok tokens) : Worded tokens :=
  fun t member w word => named_of_isIdentifier (isIdentifier_of_lex read t member w word)

end Source
end ThreatHunt
