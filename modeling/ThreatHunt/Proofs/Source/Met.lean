import ThreatHunt.Proofs.Source.Ahead

/-!
The lexemes of a statement. They stand in order, each at a character of the statement, and they are
the same whatever stands behind the statement, provided that each URI closes the quotes that it
holds.
-/

namespace ThreatHunt.Source

open Text (Located locateFrom byteLength)

variable {stop n : Nat} {xs ys : List Located} {previous : Option Lexeme} {c : Located}

/-- A lexeme where it stands, with the characters that it takes. -/
structure Met where
  lexeme : Lexeme
  first : Located
  others : List Located

def Met.characters (m : Met) : List Located := m.first :: m.others

def Met.token (m : Met) : Token := ⟨m.lexeme, m.first.offset⟩

/-- Whether a lexeme, if it is a URI, has all its quotes closed. -/
def Met.Closed (m : Met) : Prop :=
  m.lexeme.isUri = true → Quotation.outside.after (m.characters.map Located.char) = .outside

instance : DecidablePred Met.Closed := fun _ => inferInstanceAs (Decidable (_ → _))

/-- The lexemes that are met before byte `stop`, up to the first fault. -/
def metFrom (stop : Nat) (previous : Option Lexeme) : List Located → List Met
  | [] => []
  | c :: rest =>
    if stop ≤ c.offset then []
    else if Text.isAsciiBlank c.char then metFrom stop previous rest
    else
      match readLexeme stop previous c rest with
      | .error _ => []
      | .ok (none, n) => metFrom stop previous (rest.drop n)
      | .ok (some lexeme, n) =>
        ⟨lexeme, c, rest.take n⟩ :: metFrom stop (some lexeme) (rest.drop n)
termination_by cs => cs.length
decreasing_by all_goals simp only [List.length_cons, List.length_drop]; omega

section Steps

variable {rest : List Located} {lexeme : Lexeme} {fault : Fault}

theorem metFrom_beyond (beyond : Beyond stop ys) : metFrom stop previous ys = [] := by
  cases ys with
  | nil => rw [metFrom]
  | cons c ys => rw [metFrom, if_pos (beyond c List.mem_cons_self)]

theorem lexFrom_beyond (beyond : Beyond stop ys) : lexFrom stop previous ys = .ok [] := by
  cases ys with
  | nil => rw [lexFrom]
  | cons c ys => rw [lexFrom, if_pos (beyond c List.mem_cons_self)]

theorem lexFrom_blank (within : ¬stop ≤ c.offset) (blank : Text.isAsciiBlank c.char = true) :
    lexFrom stop previous (c :: rest) = lexFrom stop previous rest := by
  rw [lexFrom, if_neg within, if_pos blank]

theorem lexFrom_fault (within : ¬stop ≤ c.offset) (visible : ¬Text.isAsciiBlank c.char = true)
    (found : readLexeme stop previous c rest = .error fault) :
    lexFrom stop previous (c :: rest) = .error ⟨faultOffset c fault, fault⟩ := by
  rw [lexFrom, if_neg within, if_neg visible, found]

theorem lexFrom_skipped (within : ¬stop ≤ c.offset) (visible : ¬Text.isAsciiBlank c.char = true)
    (found : readLexeme stop previous c rest = .ok (none, n)) :
    lexFrom stop previous (c :: rest) = lexFrom stop previous (rest.drop n) := by
  rw [lexFrom, if_neg within, if_neg visible, found]

theorem lexFrom_lexeme (within : ¬stop ≤ c.offset) (visible : ¬Text.isAsciiBlank c.char = true)
    (found : readLexeme stop previous c rest = .ok (some lexeme, n)) :
    lexFrom stop previous (c :: rest) =
      (lexFrom stop (some lexeme) (rest.drop n)).map (⟨lexeme, c.offset⟩ :: ·) := by
  rw [lexFrom, if_neg within, if_neg visible, found]

theorem metFrom_blank (within : ¬stop ≤ c.offset) (blank : Text.isAsciiBlank c.char = true) :
    metFrom stop previous (c :: rest) = metFrom stop previous rest := by
  rw [metFrom, if_neg within, if_pos blank]

theorem metFrom_fault (within : ¬stop ≤ c.offset) (visible : ¬Text.isAsciiBlank c.char = true)
    (found : readLexeme stop previous c rest = .error fault) :
    metFrom stop previous (c :: rest) = [] := by
  rw [metFrom, if_neg within, if_neg visible, found]

theorem metFrom_skipped (within : ¬stop ≤ c.offset) (visible : ¬Text.isAsciiBlank c.char = true)
    (found : readLexeme stop previous c rest = .ok (none, n)) :
    metFrom stop previous (c :: rest) = metFrom stop previous (rest.drop n) := by
  rw [metFrom, if_neg within, if_neg visible, found]

theorem metFrom_lexeme (within : ¬stop ≤ c.offset) (visible : ¬Text.isAsciiBlank c.char = true)
    (found : readLexeme stop previous c rest = .ok (some lexeme, n)) :
    metFrom stop previous (c :: rest) =
      ⟨lexeme, c, rest.take n⟩ :: metFrom stop (some lexeme) (rest.drop n) := by
  rw [metFrom, if_neg within, if_neg visible, found]

end Steps

/-- Where a lexeme ends outside of quotes, what is left of its statement closes its quotes too. -/
theorem after_drop (taken : Quotation.outside.after ((c :: xs.take n).map Located.char) = .outside) :
    Quotation.outside.after ((xs.drop n).map Located.char) =
      Quotation.outside.after ((c :: xs).map Located.char) := by
  have whole : c :: xs = (c :: xs.take n) ++ xs.drop n := by
    rw [List.cons_append, List.take_append_drop]
  rw [whole, List.map_append, Quotation.after_append, taken]

/-- What stands behind a statement is not read, if its URIs close their quotes. -/
theorem lexFrom_append (beyond : Beyond stop ys)
    (closed : Quotation.outside.after (xs.map Located.char) = .outside ∨
      ∀ d ∈ ys, Text.isBlank d.char = true)
    (uris : (∀ m ∈ metFrom stop previous (xs ++ ys), m.Closed) ∨
      ∀ m ∈ metFrom stop previous xs, m.Closed) :
    lexFrom stop previous (xs ++ ys) = lexFrom stop previous xs ∧
      metFrom stop previous (xs ++ ys) = metFrom stop previous xs := by
  induction previous, xs using lexFrom.induct stop with
  | case1 previous =>
    rw [List.nil_append, lexFrom_beyond beyond, metFrom_beyond beyond, lexFrom, metFrom]
    exact ⟨rfl, rfl⟩
  | case2 previous c rest far =>
    rw [List.cons_append, lexFrom, lexFrom, metFrom, metFrom]
    simp only [far, if_true, and_self]
  | case3 previous c rest within blank ih =>
    rw [List.cons_append, metFrom_blank within blank, metFrom_blank within blank] at uris
    have stays : Quotation.outside.after ((c :: rest).map Located.char) =
        Quotation.outside.after (rest.map Located.char) :=
      Quotation.after_unquoted (Quotation.ne_of_isBlank (Text.isBlank_of_isAsciiBlank blank)).2
    rw [stays] at closed
    rw [List.cons_append, metFrom_blank within blank, metFrom_blank within blank,
      lexFrom_blank within blank, lexFrom_blank within blank]
    exact ih closed uris
  | case4 previous c rest within visible fault found =>
    have alike := (readLexeme_append previous beyond closed).trans found
    rw [List.cons_append, metFrom_fault within visible alike, metFrom_fault within visible found,
      lexFrom_fault within visible alike, lexFrom_fault within visible found]
    exact ⟨rfl, rfl⟩
  | case5 previous c rest within visible n found ih =>
    have alike := (readLexeme_append previous beyond closed).trans found
    obtain ⟨short, ends⟩ := takes_of_readLexeme found
    have left : (rest ++ ys).drop n = rest.drop n ++ ys := List.drop_append_of_le_length short
    rw [List.cons_append, metFrom_skipped within visible alike,
      metFrom_skipped within visible found, left] at uris
    rw [← after_drop (ends rfl)] at closed
    rw [List.cons_append, metFrom_skipped within visible alike,
      metFrom_skipped within visible found, lexFrom_skipped within visible alike,
      lexFrom_skipped within visible found, left]
    exact ih closed uris
  | case6 previous c rest within visible lexeme n found ih =>
    have alike := (readLexeme_append previous beyond closed).trans found
    obtain ⟨short, ends⟩ := takes_of_readLexeme found
    have left : (rest ++ ys).drop n = rest.drop n ++ ys := List.drop_append_of_le_length short
    have taken : (rest ++ ys).take n = rest.take n := List.take_append_of_le_length short
    rw [List.cons_append, metFrom_lexeme within visible alike, metFrom_lexeme within visible found,
      left, taken, List.forall_mem_cons, List.forall_mem_cons, ← and_or_left] at uris
    obtain ⟨here, later⟩ := uris
    have outside : Quotation.outside.after ((c :: rest.take n).map Located.char) = .outside := by
      cases uri : lexeme.isUri with
      | true => exact here uri
      | false => exact ends uri
    rw [← after_drop outside] at closed
    obtain ⟨tokens, met⟩ := ih closed later
    rw [List.cons_append, metFrom_lexeme within visible alike, metFrom_lexeme within visible found,
      lexFrom_lexeme within visible alike, lexFrom_lexeme within visible found, left, taken, met,
      tokens]
    exact ⟨rfl, rfl⟩

/-- A lexeme takes characters of the text. -/
theorem mem_of_mem_metFrom {m : Met} (member : m ∈ metFrom stop previous xs) :
    ∀ d ∈ m.characters, d ∈ xs := by
  induction previous, xs using lexFrom.induct stop with
  | case1 previous =>
    rw [metFrom] at member
    cases member
  | case2 previous c rest far =>
    rw [metFrom, if_pos far] at member
    cases member
  | case3 previous c rest within blank ih =>
    rw [metFrom_blank within blank] at member
    exact fun d taken => List.mem_cons_of_mem _ (ih member d taken)
  | case4 previous c rest within visible fault found =>
    rw [metFrom_fault within visible found] at member
    cases member
  | case5 previous c rest within visible n found ih =>
    rw [metFrom_skipped within visible found] at member
    exact fun d taken => List.mem_cons_of_mem _ (List.mem_of_mem_drop (ih member d taken))
  | case6 previous c rest within visible lexeme n found ih =>
    rw [metFrom_lexeme within visible found] at member
    intro d taken
    rcases List.mem_cons.1 member with rfl | later
    · rcases List.mem_cons.1 taken with rfl | other
      · exact List.mem_cons_self
      · exact List.mem_cons_of_mem _ (List.mem_of_mem_take other)
    · exact List.mem_cons_of_mem _ (List.mem_of_mem_drop (ih later d taken))

/-- The tokens are those of the lexemes that are met. -/
theorem eq_of_lexFrom {tokens : List Token} (read : lexFrom stop previous xs = .ok tokens) :
    tokens = (metFrom stop previous xs).map Met.token := by
  induction previous, xs using lexFrom.induct stop generalizing tokens with
  | case1 previous =>
    rw [lexFrom] at read
    rw [metFrom, ← Except.ok.inj read]
    rfl
  | case2 previous c rest far =>
    rw [lexFrom, if_pos far] at read
    rw [metFrom, if_pos far, ← Except.ok.inj read]
    rfl
  | case3 previous c rest within blank ih =>
    rw [lexFrom_blank within blank] at read
    rw [metFrom_blank within blank, ih read]
  | case4 previous c rest within visible fault found =>
    rw [lexFrom_fault within visible found] at read
    cases read
  | case5 previous c rest within visible n found ih =>
    rw [lexFrom_skipped within visible found] at read
    rw [metFrom_skipped within visible found, ih read]
  | case6 previous c rest within visible lexeme n found ih =>
    rw [lexFrom_lexeme within visible found] at read
    cases others : lexFrom stop (some lexeme) (rest.drop n) with
    | error misread =>
      rw [others] at read
      cases read
    | ok more =>
      rw [others] at read
      rw [metFrom_lexeme within visible found, List.map_cons, ← ih others, ← Except.ok.inj read]
      rfl

/-- Lexemes stand in the order of their first characters, which are visible. -/
theorem first_sublist (stop : Nat) (previous : Option Lexeme) (xs : List Located) :
    ((metFrom stop previous xs).map Met.first).Sublist xs ∧
      ∀ m ∈ metFrom stop previous xs, m.first.offset < stop := by
  induction previous, xs using lexFrom.induct stop with
  | case1 previous =>
    rw [metFrom]
    exact ⟨List.Sublist.slnil, List.forall_mem_nil _⟩
  | case2 previous c rest far =>
    rw [metFrom, if_pos far]
    exact ⟨List.nil_sublist _, List.forall_mem_nil _⟩
  | case3 previous c rest within blank ih =>
    rw [metFrom_blank within blank]
    exact ⟨ih.1.cons c, ih.2⟩
  | case4 previous c rest within visible fault found =>
    rw [metFrom_fault within visible found]
    exact ⟨List.nil_sublist _, List.forall_mem_nil _⟩
  | case5 previous c rest within visible n found ih =>
    rw [metFrom_skipped within visible found]
    exact ⟨(ih.1.trans (List.drop_sublist n rest)).cons c, ih.2⟩
  | case6 previous c rest within visible lexeme n found ih =>
    rw [metFrom_lexeme within visible found]
    refine ⟨(ih.1.trans (List.drop_sublist n rest)).cons_cons c, ?_⟩
    exact List.forall_mem_cons.2 ⟨Nat.lt_of_not_le within, ih.2⟩

/-- A fault of a lexeme is shown before the end of its statement. -/
theorem offset_of_lexFrom {misread : Misread} (read : lexFrom stop previous xs = .error misread) :
    ∃ c ∈ xs, c.offset ≤ misread.offset ∧ misread.offset ≤ stop := by
  induction previous, xs using lexFrom.induct stop with
  | case1 previous =>
    rw [lexFrom] at read
    cases read
  | case2 previous c rest far =>
    rw [lexFrom, if_pos far] at read
    cases read
  | case3 previous c rest within blank ih =>
    rw [lexFrom_blank within blank] at read
    obtain ⟨d, member, bounds⟩ := ih read
    exact ⟨d, List.mem_cons_of_mem _ member, bounds⟩
  | case4 previous c rest within visible fault found =>
    rw [lexFrom_fault within visible found] at read
    cases read
    refine ⟨c, List.mem_cons_self, ?_⟩
    dsimp only
    unfold faultOffset
    repeat' split
    all_goals omega
  | case5 previous c rest within visible n found ih =>
    rw [lexFrom_skipped within visible found] at read
    obtain ⟨d, member, bounds⟩ := ih read
    exact ⟨d, List.mem_cons_of_mem _ (List.mem_of_mem_drop member), bounds⟩
  | case6 previous c rest within visible lexeme n found ih =>
    rw [lexFrom_lexeme within visible found] at read
    cases others : lexFrom stop (some lexeme) (rest.drop n) with
    | ok more =>
      rw [others] at read
      cases read
    | error inner =>
      rw [others] at read
      obtain rfl := Except.error.inj read
      obtain ⟨d, member, bounds⟩ := ih others
      exact ⟨d, List.mem_cons_of_mem _ (List.mem_of_mem_drop member), bounds⟩

end ThreatHunt.Source
