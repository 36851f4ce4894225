import ThreatHunt.Proofs.Json.Reading
import ThreatHunt.Proofs.Source.Lexed

/-!
JSON in a source. Values have no comments, their brackets and quotes match, and so a container
stands in one statement. All of a value can be lexed but for a minus sign before an exponent.
-/

namespace ThreatHunt.Source

open Text (byteLength)
open Json (Spells Meaning IsText IsEscape IsHex4 IsScalar IsNumeral IsFraction IsDigits IsLead
  IsSpaces EndsValue)

variable {c : Char} {s cs front back : List Char} {depth : Nat} {meant : Meaning}

/-! Strings. -/

theorem Quoted.append {quote : Char} (first : Quoted quote front) (second : Quoted quote back) :
    Quoted quote (front ++ back) := by
  induction first with
  | nil => exact second
  | escaped _ ih => exact .escaped ih
  | plain backslash other _ ih => exact .plain backslash other ih

theorem ne_of_hexValue? {n : Nat} (digit : Json.hexValue? c = some n) : c ≠ '\\' ∧ c ≠ '\x22' := by
  constructor
  all_goals
    rintro rfl
    cases digit

theorem quoted_hex4 {n : Nat} (digits : IsHex4 n cs) : Quoted '\x22' cs := by
  cases digits with
  | digits first second third fourth =>
    have each : ∀ {c : Char} {n : Nat} {rest : List Char}, Json.hexValue? c = some n →
        Quoted '\x22' rest → Quoted '\x22' (c :: rest) :=
      fun digit quoted => .plain (ne_of_hexValue? digit).1 (ne_of_hexValue? digit).2 quoted
    exact each first (each second (each third (each fourth .nil)))

/-- What a backslash takes along in JSON, and no more, it takes along in a source. -/
theorem quoted_escape (escape : IsEscape c cs) : Quoted '\x22' ('\\' :: cs) := by
  cases escape with
  | letter _ => exact .escaped .nil
  | code digits _ => exact .escaped (quoted_hex4 digits)
  | pair digits _ digits' _ =>
    exact .escaped ((quoted_hex4 digits).append (.escaped (quoted_hex4 digits')))

theorem quoted_text (text : IsText s cs) : Quoted '\x22' cs := by
  induction text with
  | nil => exact .nil
  | plain quote backslash _ _ ih => exact .plain backslash quote ih
  | escaped escape _ ih => exact (quoted_escape escape).append ih

theorem quoted_append (name rest : List Char) :
    '\x22' :: (name ++ '\x22' :: rest) = '\x22' :: (name ++ ['\x22']) ++ rest := by
  simp

/-! Characters outside of strings. -/

/-- The characters of numbers. -/
def isNumeric (c : Char) : Bool := c.isDigit || ['.', 'e', 'E', '+', '-'].contains c

theorem isNumeric_numeral {n : Json.Numeral} (numeral : IsNumeral n cs) :
    ∀ c ∈ cs, isNumeric c = true := by
  have digits : ∀ {ds : List Char}, IsDigits ds → ∀ c ∈ ds, isNumeric c = true :=
    fun digits c member => by simp [isNumeric, digits.2 c member]
  cases numeral with
  | parts whole fraction power =>
    intro c member
    rw [List.mem_append, List.mem_append] at member
    rcases member with first | second | third
    · exact digits whole.digits c first
    · cases fraction with
      | none => cases second
      | some ds =>
        rcases List.mem_cons.1 second with rfl | digit
        · decide
        · exact digits ds c digit
    · cases power with
      | none => cases third
      | unsigned mark ds =>
        rcases List.mem_cons.1 third with rfl | digit
        · rcases mark with rfl | rfl <;> decide
        · exact digits ds c digit
      | plus mark ds | minus mark ds =>
        rcases List.mem_cons.1 third with rfl | later
        · rcases mark with rfl | rfl <;> decide
        · rcases List.mem_cons.1 later with rfl | digit
          · decide
          · exact digits ds c digit

/-- The signs of containers. -/
def containerSigns : List Char := ['[', ']', '\x7b', '\x7d', ',', ':']

/-- What holds of the pieces of values, and of characters if it holds of their parts, holds of
values. -/
theorem of_pieces {P : List Char → Prop}
    (append : ∀ {front back}, P front → P back → P (front ++ back))
    (spaces : ∀ {bs}, IsSpaces bs → P bs) (sign : ∀ {c}, c ∈ containerSigns → P [c])
    (text : ∀ {s cs}, IsText s cs → P ('\x22' :: (cs ++ ['\x22'])))
    (scalar : ∀ {v cs}, IsScalar v cs → P cs) (spelled : Spells depth meant cs) : P cs := by
  have opened : ∀ {c cs}, c ∈ containerSigns → P cs → P (c :: cs) :=
    fun {c cs} member held => append (sign member) held
  have lead : ∀ {all cs}, IsLead all cs → P cs := by
    intro all cs before
    cases before with
    | first blank => exact spaces blank
    | further front back => exact append (spaces front) (opened (by decide) (spaces back))
  induction spelled with
  | scalar value => exact scalar value
  | list _ _ items => exact opened (by decide) items
  | object _ _ fields => exact opened (by decide) fields
  | noItem blank | noField blank => exact append (spaces blank) (sign (by decide))
  | item before _ _ value items => exact append (lead before) (append value items)
  | @field _ _ _ _ _ name _ bs bs' cs more before letters blank blank' _ _ value fields =>
    have quoted := text letters
    have rest : P (bs ++ ':' :: (bs' ++ (cs ++ more))) :=
      append (spaces blank) (opened (by decide) (append (spaces blank') (append value fields)))
    rw [quoted_append]
    exact append (lead before) (append quoted rest)

/-! Comments. -/

theorem quiet_one (number : c ≠ '#') (slash : c ≠ '/') (hyphen : c ≠ '-')
    (quote : isQuote c = false) : Quiet [c] :=
  fun _ => blankFrom_code number slash (fun same => absurd same hyphen) quote

theorem quiet_spaces {bs : List Char} (spaces : IsSpaces bs) : Quiet bs := by
  induction bs with
  | nil => exact fun _ => rfl
  | cons b bs ih =>
    obtain ⟨space, others⟩ := List.forall_mem_cons.1 spaces
    have first : Quiet [b] := by
      rcases Json.isSpace_cases space with rfl | rfl | rfl | rfl <;>
        exact quiet_one (by decide) (by decide) (by decide) (by decide)
    exact first.append (ih others)

theorem quiet_isDigits {ds : List Char} (digits : IsDigits ds) : Quiet ds :=
  quiet_digits (List.all_eq_true.2 digits.2)

/-- Before digits, a hyphen starts no comment. -/
theorem quiet_sign {ds : List Char} (digits : IsDigits ds) : Quiet ('-' :: ds) := by
  obtain ⟨d, others, rfl⟩ := List.exists_cons_of_ne_nil digits.1
  exact quiet_hyphen (isWordPart_of_isDigit (digits.2 d List.mem_cons_self)) (quiet_isDigits digits)

theorem quiet_numeral {n : Json.Numeral} (numeral : IsNumeral n cs) : Quiet cs := by
  cases numeral with
  | parts whole fraction power =>
    refine (quiet_isDigits whole.digits).append (Quiet.append ?_ ?_)
    · cases fraction with
      | none => exact fun _ => rfl
      | some digits =>
        have point : Quiet ['.'] := quiet_one (by decide) (by decide) (by decide) (by decide)
        exact point.append (quiet_isDigits digits)
    · have marked : ∀ {mark : Char}, mark = 'e' ∨ mark = 'E' → Quiet [mark] := by
        rintro mark (rfl | rfl) <;> exact quiet_part (by decide)
      cases power with
      | none => exact fun _ => rfl
      | unsigned mark digits => exact (marked mark).append (quiet_isDigits digits)
      | plus mark digits =>
        have sign : Quiet ['+'] := quiet_one (by decide) (by decide) (by decide) (by decide)
        exact (marked mark).append (sign.append (quiet_isDigits digits))
      | minus mark digits => exact (marked mark).append (quiet_sign digits)

theorem quiet_text (text : IsText s cs) : Quiet ('\x22' :: (cs ++ ['\x22'])) :=
  fun rest => blankFrom_literal (.closed rest rfl (quoted_text text))

theorem quiet_scalar {v : Json} (scalar : IsScalar v cs) : Quiet cs := by
  cases scalar with
  | null | yes | no => exact quiet_wordTail (by decide)
  | positive numeral _ _ => exact quiet_numeral numeral
  | negative numeral _ _ =>
    obtain ⟨d, others, rfl, digit⟩ := numeral.begins
    exact quiet_hyphen (isWordPart_of_isDigit digit) (quiet_numeral numeral)
  | text text => exact quiet_text text

/-- No comment starts in a value. -/
theorem quiet_spells (spelled : Spells depth meant cs) : Quiet cs := by
  refine of_pieces (P := Quiet) Quiet.append quiet_spaces (fun member => ?_) quiet_text
    quiet_scalar spelled
  simp only [containerSigns, List.mem_cons, List.not_mem_nil, or_false] at member
  rcases member with rfl | rfl | rfl | rfl | rfl | rfl <;>
    exact quiet_one (by decide) (by decide) (by decide) (by decide)

/-! Quotes. -/

theorem after_quoted {quote : Char} (quoted : Quoted quote cs) :
    (Quotation.inside quote).after cs = .inside quote := by
  induction quoted with
  | nil => rfl
  | escaped _ ih => exact (Quotation.after_escape quote _ _).trans ih
  | plain backslash other _ ih => exact (Quotation.after_other backslash other).trans ih

/-- Whether all quotes that characters open they close again. -/
def ClosesQuotes (cs : List Char) : Prop := Quotation.outside.after cs = .outside

theorem ClosesQuotes.append (first : ClosesQuotes front) (second : ClosesQuotes back) :
    ClosesQuotes (front ++ back) := by
  rw [ClosesQuotes, Quotation.after_append, first, second]

theorem closesQuotes_text (text : IsText s cs) : ClosesQuotes ('\x22' :: (cs ++ ['\x22'])) := by
  rw [ClosesQuotes, Quotation.after_open rfl, Quotation.after_append,
    after_quoted (quoted_text text), Quotation.after_close (by decide)]
  rfl

theorem not_isQuote_numeric (numeric : isNumeric c = true) : isQuote c = false := by
  have plain : ∀ d, isNumeric d = false → c ≠ d := ne_of_class numeric
  simp (disch := decide) [isQuote, plain]

theorem numeric_negative {n : Json.Numeral} (numeral : IsNumeral n cs) :
    ∀ c ∈ '-' :: cs, isNumeric c = true :=
  List.forall_mem_cons.2 ⟨by decide, isNumeric_numeral numeral⟩

theorem closesQuotes_numeric (numeric : ∀ c ∈ cs, isNumeric c = true) : ClosesQuotes cs :=
  Quotation.after_plain (fun c member => not_isQuote_numeric (numeric c member))

theorem closesQuotes_scalar {v : Json} (scalar : IsScalar v cs) : ClosesQuotes cs := by
  cases scalar with
  | null | yes | no => rfl
  | positive numeral _ _ => exact closesQuotes_numeric (isNumeric_numeral numeral)
  | negative numeral _ _ => exact closesQuotes_numeric (numeric_negative numeral)
  | text text => exact closesQuotes_text text

theorem isBlank_of_isSpace (space : Json.isSpace c = true) : Text.isBlank c = true := by
  rcases Json.isSpace_cases space with rfl | rfl | rfl | rfl <;> decide

theorem closesQuotes_spaces {bs : List Char} (spaces : IsSpaces bs) : ClosesQuotes bs :=
  Quotation.after_blanks (fun c member => isBlank_of_isSpace (spaces c member))

theorem closesQuotes_spells (spelled : Spells depth meant cs) : ClosesQuotes cs := by
  refine of_pieces (P := ClosesQuotes) ClosesQuotes.append closesQuotes_spaces
    (fun member => ?_) closesQuotes_text closesQuotes_scalar spelled
  simp only [containerSigns, List.mem_cons, List.not_mem_nil, or_false] at member
  rcases member with rfl | rfl | rfl | rfl | rfl | rfl <;> rfl

/-! Statements. -/

theorem joins_inert_all (inert : ∀ c ∈ cs, isInert c = true) (depth : Nat) :
    Joins (depth + 1) (depth + 1) cs :=
  joins_all (fun c member => joins_inert (inert c member) depth)

theorem joins_spaces {bs : List Char} (spaces : IsSpaces bs) (depth : Nat) :
    Joins (depth + 1) (depth + 1) bs := by
  refine joins_inert_all (fun c member => ?_) depth
  exact (inert_of_isBlank (isBlank_of_isSpace (spaces c member))).1

theorem joins_numeric (numeric : ∀ c ∈ cs, isNumeric c = true) (depth : Nat) :
    Joins (depth + 1) (depth + 1) cs :=
  joins_inert_all (fun c member => isInert_of_class (numeric c member) (by decide)) depth

theorem joins_scalar {v : Json} (scalar : IsScalar v cs) (depth : Nat) :
    Joins (depth + 1) (depth + 1) cs := by
  cases scalar with
  | null | yes | no => exact joins_inert_all (List.all_eq_true.1 (by decide)) depth
  | positive numeral _ _ => exact joins_numeric (isNumeric_numeral numeral) depth
  | negative numeral _ _ => exact joins_numeric (numeric_negative numeral) depth
  | text text => exact joins_quoted rfl (quoted_text text) _

theorem joins_lead {all : Bool} {lead : List Char} (before : IsLead all lead) (depth : Nat) :
    Joins (depth + 1) (depth + 1) lead := by
  cases before with
  | first spaces => exact joins_spaces spaces depth
  | further spaces spaces' =>
    have comma : Joins (depth + 1) (depth + 1) [','] := joins_inert (by decide) depth
    exact (joins_spaces spaces depth).append (comma.append (joins_spaces spaces' depth))

/-- How many brackets are closed that were opened before. -/
def closings : Meaning → Nat
  | .value _ => 0
  | .items _ _ | .fields _ _ => 1

/-- Inside of brackets, a value is passed as one, and so is what is left of a container, up to the
bracket that closes it. -/
theorem joins_spells (spelled : Spells depth meant cs) (opened : Nat) :
    Joins (opened + 1) (opened + 1 - closings meant) cs := by
  induction spelled generalizing opened with
  | scalar scalar => exact joins_scalar scalar opened
  | list _ _ items =>
    have bracket : Joins (opened + 1) (opened + 2) ['['] := joins_open (by decide) _
    exact bracket.append (items (opened + 1))
  | object _ _ fields =>
    have bracket : Joins (opened + 1) (opened + 2) ['\x7b'] := joins_open (by decide) _
    exact bracket.append (fields (opened + 1))
  | noItem spaces =>
    have bracket : Joins (opened + 1) opened [']'] := joins_close (by decide) _
    exact (joins_spaces spaces opened).append bracket
  | item before _ _ value items =>
    exact (joins_lead before opened).append ((value opened).append (items opened))
  | noField spaces =>
    have bracket : Joins (opened + 1) opened ['\x7d'] := joins_close (by decide) _
    exact (joins_spaces spaces opened).append bracket
  | @field _ _ _ _ _ name _ bs bs' cs more before letters spaces spaces' _ _ value fields =>
    have quoted : Joins (opened + 1) (opened + 1) ('\x22' :: (name ++ ['\x22'])) :=
      joins_quoted rfl (quoted_text letters) _
    have colon : Joins (opened + 1) (opened + 1) [':'] := joins_inert (by decide) opened
    have rest := colon.append ((joins_spaces spaces' opened).append
      ((value opened).append (fields opened)))
    rw [quoted_append]
    exact (joins_lead before opened).append
      (quoted.append ((joins_spaces spaces opened).append rest))

/-- A list is passed as one wherever it stands. -/
theorem joins_list {all : Bool} {vs : List Json} (spelled : Spells depth (.items all vs) cs)
    (opened : Nat) : Joins opened opened ('[' :: cs) := by
  have bracket : Joins opened (opened + 1) ['['] := joins_open (by decide) _
  exact bracket.append (joins_spells spelled opened)

/-! Exponents. -/

/-- Whether, outside of quotes, a hyphen stands right behind the mark of an exponent. -/
def shrinks : Quotation → List Char → Bool
  | _, [] => false
  | state, c :: rest =>
    (state == .outside && (c == 'e' || c == 'E') && rest.head? == some '-') ||
      shrinks (state.step c) rest

/-- Characters that are put together make up no exponent, if none ends where others begin. -/
theorem shrinks_append {state : Quotation}
    (apart : ∀ c ∈ front.getLast?, c = 'e' ∨ c = 'E' → back.head? ≠ some '-') :
    shrinks state (front ++ back) = (shrinks state front || shrinks (state.after front) back) := by
  induction front generalizing state with
  | nil => rfl
  | cons c front ih =>
    have later : ∀ d ∈ front.getLast?, d = 'e' ∨ d = 'E' → back.head? ≠ some '-' := by
      intro d last
      cases front with
      | nil => cases last
      | cons e front => exact apart d (by rwa [List.getLast?_cons_cons])
    have here : ((state == .outside && (c == 'e' || c == 'E')) &&
        (front ++ back).head? == some '-') =
        ((state == .outside && (c == 'e' || c == 'E')) && front.head? == some '-') := by
      cases front with
      | cons d front => rfl
      | nil =>
        by_cases mark : c = 'e' ∨ c = 'E'
        · simp [apart c rfl mark]
        · simp [not_or.1 mark]
    rw [List.cons_append, shrinks, shrinks, here, ih later, Bool.or_assoc]
    rfl

theorem shrinks_of_not_mem {state : Quotation} (none : '-' ∉ cs) : shrinks state cs = false := by
  induction cs generalizing state with
  | nil => rfl
  | cons c cs ih =>
    obtain ⟨-, others⟩ := not_or.1 (List.mem_cons.not.1 none)
    have next : cs.head? ≠ some '-' := fun same => others (List.mem_of_mem_head? same)
    simp [shrinks, ih others, next]

/-- Quoted texts hold no exponents. -/
theorem shrinks_quoted {quote : Char} (quoted : Quoted quote cs) :
    shrinks (.inside quote) cs = false := by
  induction quoted with
  | nil => rfl
  | escaped _ ih => simpa [shrinks, Quotation.step] using ih
  | plain backslash other _ ih => simpa [shrinks, Quotation.step, backslash, other] using ih

theorem shrinks_text (text : IsText s cs) (back : List Char) :
    shrinks .outside ('\x22' :: (cs ++ ['\x22']) ++ back) = shrinks .outside back := by
  have quoted := quoted_text text
  have closed := closesQuotes_text text
  have inner : shrinks .outside ('\x22' :: (cs ++ ['\x22'])) = false := by
    have closing : shrinks (.inside '\x22') ['\x22'] = false := rfl
    have opened : shrinks .outside ('\x22' :: (cs ++ ['\x22'])) =
        shrinks (.inside '\x22') (cs ++ ['\x22']) := rfl
    rw [opened, shrinks_append (fun _ _ _ => by simp), shrinks_quoted quoted, after_quoted quoted,
      closing]
    rfl
  rw [shrinks_append, inner, closed, Bool.false_or]
  rintro c last mark
  rw [← List.cons_append, List.getLast?_concat] at last
  obtain rfl := Option.mem_some.1 last
  exact absurd mark (by decide)

/-- Characters between the parts of containers hold no exponents. -/
theorem shrinks_sparse (sparse : ∀ c ∈ front, Json.isSpace c = true ∨ c = ',' ∨ c = ':')
    (closes : ClosesQuotes front) : shrinks .outside (front ++ back) = shrinks .outside back := by
  have plain : ∀ {d : Char}, Json.isSpace d = false → d ≠ ',' → d ≠ ':' → d ∉ front := by
    intro d space comma colon member
    rcases sparse d member with blank | rfl | rfl
    · exact absurd (blank.symm.trans space) (by decide)
    · exact comma rfl
    · exact colon rfl
  rw [shrinks_append, shrinks_of_not_mem (plain (by decide) (by decide) (by decide)), closes,
    Bool.false_or]
  rintro c last (rfl | rfl)
  all_goals
    exact absurd (List.mem_of_mem_getLast? last) (plain (by decide) (by decide) (by decide))

theorem closesQuotes_lead {all : Bool} {lead : List Char} (before : IsLead all lead) :
    ClosesQuotes lead := by
  cases before with
  | first spaces => exact closesQuotes_spaces spaces
  | further spaces spaces' =>
    have comma : ClosesQuotes [','] := rfl
    exact (closesQuotes_spaces spaces).append (comma.append (closesQuotes_spaces spaces'))

theorem shrinks_spaces {bs : List Char} (spaces : IsSpaces bs) :
    shrinks .outside (bs ++ back) = shrinks .outside back :=
  shrinks_sparse (fun c member => .inl (spaces c member)) (closesQuotes_spaces spaces)

theorem shrinks_lead {all : Bool} {lead : List Char} (before : IsLead all lead) :
    shrinks .outside (lead ++ back) = shrinks .outside back := by
  refine shrinks_sparse (fun c member => ?_) (closesQuotes_lead before)
  cases before with
  | first spaces => exact .inl (spaces c member)
  | further spaces spaces' =>
    rcases List.mem_append.1 member with front | later
    · exact .inl (spaces c front)
    · rcases List.mem_cons.1 later with comma | behind
      · exact .inr (.inl comma)
      · exact .inl (spaces' c behind)

/-- Exponents are in the value between blanks. -/
theorem shrinks_between {lead trail : List Char} {v : Json} (before : IsSpaces lead)
    (value : Spells depth (.value v) cs) (behind : IsSpaces trail) :
    shrinks .outside (lead ++ (cs ++ trail)) = shrinks .outside cs := by
  have none : shrinks .outside trail = false := by
    rw [← List.append_nil trail, shrinks_spaces behind]
    rfl
  have apart : trail.head? ≠ some '-' := fun hyphen =>
    absurd (behind '-' (List.mem_of_mem_head? hyphen)) (by decide)
  rw [shrinks_spaces before, shrinks_append (fun _ _ _ => apart), closesQuotes_spells value, none,
    Bool.or_false]

theorem ne_hyphen_of_endsValue (ends : EndsValue back) : back.head? ≠ some '-' := by
  intro hyphen
  rcases ends '-' hyphen with space | sign | sign | sign
  · exact absurd space (by decide)
  all_goals exact absurd sign (by decide)

/-- Exponents in an item are in its value or in what is behind it. -/
theorem shrinks_item {all : Bool} {lead more : List Char} {v : Json} (before : IsLead all lead)
    (value : Spells depth (.value v) cs) (ends : ∀ rest, EndsValue (more ++ rest)) :
    shrinks .outside (lead ++ (cs ++ more)) =
      (shrinks .outside cs || shrinks .outside more) := by
  have apart := ne_hyphen_of_endsValue (ends [])
  rw [List.append_nil] at apart
  rw [shrinks_lead before, shrinks_append (fun _ _ _ => apart), closesQuotes_spells value]

theorem shrinks_field {all : Bool} {lead name bs bs' more : List Char} {v : Json}
    (before : IsLead all lead) (letters : IsText s name) (spaces : IsSpaces bs)
    (spaces' : IsSpaces bs') (value : Spells depth (.value v) cs)
    (ends : ∀ rest, EndsValue (more ++ rest)) :
    shrinks .outside (lead ++ ('\x22' :: (name ++ '\x22' :: (bs ++ ':' :: (bs' ++ (cs ++ more)))))) =
      (shrinks .outside cs || shrinks .outside more) := by
  have colon : ∀ rest, shrinks .outside (':' :: rest) = shrinks .outside rest := fun rest => by
    simp [shrinks, Quotation.step, isQuote]
  have first : IsLead true [] := .first (List.forall_mem_nil _)
  rw [shrinks_lead before, quoted_append, shrinks_text letters, shrinks_spaces spaces, colon,
    shrinks_spaces spaces']
  exact shrinks_item first value ends

/-! Lexemes. -/

section Lexemes

variable {previous : Option Lexeme} {rest : List Char}

theorem isAsciiBlank_of_isSpace (space : Json.isSpace c = true) : Text.isAsciiBlank c = true := by
  rcases Json.isSpace_cases space with rfl | rfl | rfl | rfl <;> decide

theorem passes_spaces {bs : List Char} (spaces : IsSpaces bs) :
    Passes previous bs rest (· = previous) :=
  passes_blanks (fun c member => isAsciiBlank_of_isSpace (spaces c member))

theorem isNumberPart_digits {ds : List Char} (digits : IsDigits ds) : ds.all isNumberPart = true :=
  List.all_eq_true.2 (fun d member => by rw [isNumberPart, digits.2 d member]; rfl)

theorem isNumberPart_fraction {digits : Option (List Char)} (fraction : IsFraction digits cs) :
    cs.all isNumberPart = true := by
  cases fraction with
  | none => rfl
  | some digits =>
    rw [List.all_cons, isNumberPart_digits digits]
    rfl

/-- How a number goes on behind the part that is lexed in one piece: not at all, with the plus sign
of its exponent, or with a minus sign. -/
inductive NumberTail : List Char → List Char → Prop where
  | none {parts : List Char} : NumberTail parts []
  | plus {parts : List Char} {e : Char} {es : List Char} : e.isDigit = true →
      es.all isNumberPart = true → NumberTail parts ('+' :: e :: es)
  | minus {front : List Char} {mark : Char} {ds : List Char} : mark = 'e' ∨ mark = 'E' →
      NumberTail (front ++ [mark]) ('-' :: ds)

theorem exists_of_numeral {n : Json.Numeral} (numeral : IsNumeral n cs) :
    ∃ d parts tail, cs = d :: parts ++ tail ∧ d.isDigit = true ∧ parts.all isNumberPart = true ∧
      NumberTail parts tail := by
  cases numeral with
  | @parts _ _ fraction _ _ _ isWhole isFraction isPower =>
    obtain ⟨d, others, rfl⟩ := List.exists_cons_of_ne_nil isWhole.digits.1
    have digit := isWhole.digits.2 d List.mem_cons_self
    have whole := isNumberPart_digits isWhole.digits
    have point := isNumberPart_fraction isFraction
    rw [List.all_cons, Bool.and_eq_true] at whole
    have marked : ∀ {mark : Char}, mark = 'e' ∨ mark = 'E' → isNumberPart mark = true := by
      rintro mark (rfl | rfl) <;> decide
    cases isPower with
    | none =>
      exact ⟨d, others ++ fraction, [], by simp, digit, by simp [whole.2, point], .none⟩
    | @unsigned mark ds isMark digits =>
      have power := isNumberPart_digits digits
      exact ⟨d, others ++ (fraction ++ mark :: ds), [], by simp, digit,
        by simp [whole.2, point, marked isMark, power], .none⟩
    | @plus mark ds isMark digits =>
      obtain ⟨e, es, rfl⟩ := List.exists_cons_of_ne_nil digits.1
      have power := isNumberPart_digits digits
      rw [List.all_cons, Bool.and_eq_true] at power
      exact ⟨d, others ++ (fraction ++ [mark]), '+' :: e :: es, by simp, digit,
        by simp [whole.2, point, marked isMark], .plus (digits.2 e List.mem_cons_self) power.2⟩
    | @minus mark ds isMark digits =>
      exact ⟨d, (others ++ fraction) ++ [mark], '-' :: ds, by simp, digit,
        by simp [whole.2, point, marked isMark], .minus isMark⟩

/-- Only a minus sign makes an exponent negative. -/
theorem shrinks_number {d : Char} {parts tail : List Char} (digit : d.isDigit = true)
    (all : parts.all isNumberPart = true) (goes : NumberTail parts tail) :
    shrinks .outside (d :: parts ++ tail) = (tail.head? == some '-') := by
  have parted : (d :: parts).all isNumberPart = true := by
    rw [List.all_cons, all, isNumberPart, digit]
    rfl
  have none : ∀ {cs : List Char}, cs.all isNumberPart = true → '-' ∉ cs :=
    fun parts hyphen => absurd (List.all_eq_true.1 parts '-' hyphen) (by decide)
  cases goes with
  | none =>
    rw [List.append_nil, shrinks_of_not_mem (none parted)]
    rfl
  | @plus _ e es digit' all' =>
    have parted' : (e :: es).all isNumberPart = true := by
      rw [List.all_cons, all', isNumberPart, digit']
      rfl
    have absent : '-' ∉ d :: parts ++ '+' :: e :: es := by
      intro hyphen
      rcases List.mem_append.1 hyphen with first | later
      · exact none parted first
      · exact none parted' ((List.mem_cons.1 later).resolve_left (by decide))
    rw [shrinks_of_not_mem absent]
    rfl
  | @minus front mark ds isMark =>
    have numeric : ∀ c ∈ d :: front, isNumberPart c = true := fun c member =>
      List.all_eq_true.1 parted c (List.mem_append_left [mark] member)
    have closes : ClosesQuotes (d :: front) := Quotation.after_plain (fun c member => by
      have plain := ne_of_class (numeric c member)
      simp (disch := decide) [isQuote, plain])
    have text : d :: (front ++ [mark]) ++ '-' :: ds = (d :: front) ++ mark :: '-' :: ds := by simp
    have first : mark ≠ '-' := by rcases isMark with rfl | rfl <;> decide
    have apart : (mark :: '-' :: ds).head? ≠ some '-' := fun same => first (Option.some.inj same)
    rw [text, shrinks_append (fun _ _ _ => apart), closes]
    rcases isMark with rfl | rfl <;> simp [shrinks]

/-- A number without a negative exponent is passed behind whatever its first digits are. -/
theorem passes_numeral {n : Json.Numeral} (lead : List Char) (numeral : IsNumeral n cs)
    (grows : shrinks .outside cs = false) (ends : ∀ d ∈ rest.head?, isNumberPart d = false)
    (first : ∀ {d parts rest}, d.isDigit = true → parts.all isNumberPart = true →
      (∀ d ∈ rest.head?, isNumberPart d = false) →
      Passes previous (lead ++ d :: parts) rest isNumber) :
    Passes previous (lead ++ cs) rest anyLexeme := by
  obtain ⟨d, parts, tail, rfl, digit, all, goes⟩ := exists_of_numeral numeral
  rw [shrinks_number digit all goes] at grows
  rw [← List.append_assoc]
  cases goes with
  | none =>
    rw [List.append_nil]
    exact (first digit all ends).mono (fun _ _ => trivial)
  | @plus _ e es digit' all' =>
    have sign : ∀ d ∈ ('+' :: e :: es ++ rest).head?, isNumberPart d = false := by
      rintro _ ⟨⟩
      decide
    have plus : ∀ last, Passes last ['+'] (e :: es ++ rest) (· = some (.mark .plus)) :=
      fun _ => passes_sign (fun _ _ => rfl)
    exact (first digit all sign).append (fun last _ => (plus last).append (fun next _ =>
      (passes_digits digit' all' ends).mono (fun _ _ => trivial)))
  | minus _ => cases grows

theorem refuses_numeral {n : Json.Numeral} (lead : List Char) (numeral : IsNumeral n cs)
    (small : shrinks .outside cs = true)
    (first : ∀ {d parts rest}, d.isDigit = true → parts.all isNumberPart = true →
      (∀ d ∈ rest.head?, isNumberPart d = false) →
      Passes previous (lead ++ d :: parts) rest isNumber) :
    Refuses previous (lead ++ cs) rest := by
  obtain ⟨d, parts, tail, rfl, digit, all, goes⟩ := exists_of_numeral numeral
  rw [shrinks_number digit all goes] at small
  rw [← List.append_assoc]
  cases goes with
  | none | plus _ _ => cases small
  | @minus _ _ ds _ =>
    have sign : ∀ d ∈ ('-' :: ds ++ rest).head?, isNumberPart d = false := by
      rintro _ ⟨⟩
      decide
    exact (first digit all sign).refuses (fun last number => refuses_hyphen number)

theorem isNumberPart_of_endsValue (ends : EndsValue rest) :
    ∀ d ∈ rest.head?, isNumberPart d = false := by
  intro d next
  obtain ⟨digit, point, small, large⟩ := ends.number d next
  simp [isNumberPart, digit, point, small, large]

/-- What may stand behind a value goes on with no word and no scheme. -/
theorem passes_constant (begins : isWordStart c = true) (tail : isWordTail cs = true)
    (plain : ':' ∉ c :: cs) (ends : EndsValue rest) :
    Passes previous (c :: cs) rest anyLexeme := by
  refine passes_word begins tail (fun d next => ?_) ?_
  · rcases ends d next with space | rfl | rfl | rfl
    · rcases Json.isSpace_cases space with rfl | rfl | rfl | rfl <;> decide
    all_goals decide
  · have free : SchemeFree rest := by
      cases rest with
      | nil => exact fun scheme next same => by simp at same
      | cons d rest =>
        have other : d ≠ ':' ∧ isSchemePart d = false := by
          rcases ends d rfl with space | rfl | rfl | rfl
          · rcases Json.isSpace_cases space with rfl | rfl | rfl | rfl <;> decide
          all_goals decide
        exact SchemeFree.cons (fun colon => absurd colon other.1)
          (fun part => absurd (part.symm.trans other.2) (by decide))
    exact free.append plain

theorem passes_scalar {v : Json} (scalar : IsScalar v cs) (grows : shrinks .outside cs = false)
    (fresh : Fresh previous) (ends : EndsValue rest) : Passes previous cs rest anyLexeme := by
  have number := isNumberPart_of_endsValue ends
  cases scalar with
  | null | yes | no => exact passes_constant (by decide) (by decide) (by decide) ends
  | positive numeral _ _ => exact passes_numeral [] numeral grows number passes_digits
  | negative numeral _ _ => exact passes_numeral ['-'] numeral grows number (passes_negative fresh)
  | text text => exact passes_quoted rfl (quoted_text text)

theorem refuses_scalar {v : Json} (scalar : IsScalar v cs) (small : shrinks .outside cs = true)
    (fresh : Fresh previous) : Refuses previous cs rest := by
  cases scalar with
  | null | yes | no => exact absurd small (by decide)
  | positive numeral _ _ => exact refuses_numeral [] numeral small passes_digits
  | negative numeral _ _ => exact refuses_numeral ['-'] numeral small (passes_negative fresh)
  | text text =>
    have none := shrinks_text text []
    rw [List.append_nil, small] at none
    cases none

/-- What may stand before a part of a container is passed, and a sign may stand behind it. -/
theorem passes_lead {all : Bool} {lead : List Char} (before : IsLead all lead)
    (fresh : all = true → Fresh previous) : Passes previous lead rest Fresh := by
  cases before with
  | first spaces =>
    exact (passes_spaces spaces).mono (fun last same => same ▸ fresh rfl)
  | @further bs bs' spaces spaces' =>
    have opened : Fresh (some (.mark .comma)) := rfl
    have comma : Passes previous [','] (bs' ++ rest) (· = some (.mark .comma)) :=
      passes_sign (fun _ _ => rfl)
    refine (passes_spaces spaces).append (fun last same => ?_)
    rw [same]
    exact comma.append (fun next same => (passes_spaces spaces').mono (fun end' same' => by
      rw [same', same]
      exact opened))

/-- The name of a field is passed, with what stands before it and the colon behind it. -/
theorem passes_name {all : Bool} {lead name bs bs' : List Char} (before : IsLead all lead)
    (fresh : all = true → Fresh previous) (letters : IsText s name) (spaces : IsSpaces bs)
    (spaces' : IsSpaces bs') :
    Passes previous (lead ++ ('\x22' :: (name ++ ['\x22']) ++ (bs ++ ':' :: bs'))) rest Fresh := by
  have opened : Fresh (some (.mark .colon)) := rfl
  have colon : ∀ last, Passes last [':'] (bs' ++ rest) (· = some (.mark .colon)) :=
    fun _ => passes_sign (fun _ _ => rfl)
  refine (passes_lead before fresh).append (fun last _ => ?_)
  refine (passes_quoted rfl (quoted_text letters)).append (fun last _ => ?_)
  refine (passes_spaces spaces).append (fun next _ => ?_)
  exact (colon next).append (fun next same => (passes_spaces spaces').mono (fun end' same' => by
    rw [same', same]
    exact opened))

/-- A statement about a part of a value, the lexeme before it and what is behind it, for those that
the part may stand between. -/
def OnPart (P : Option Lexeme → List Char → List Char → Prop) : Meaning → List Char → Prop
  | .value _, cs => ∀ previous rest, Fresh previous → EndsValue rest → P previous cs rest
  | .items all _, cs | .fields all _, cs =>
    ∀ previous rest, (all = true → Fresh previous) → P previous cs rest

/-- What stands before the value of a field, as one. -/
theorem field_append (lead name bs bs' back : List Char) :
    lead ++ ('\x22' :: (name ++ '\x22' :: (bs ++ ':' :: (bs' ++ back)))) =
      lead ++ ('\x22' :: (name ++ ['\x22']) ++ (bs ++ ':' :: bs')) ++ back := by
  simp

/-- Values without negative exponents are passed. -/
theorem passes_spells (spelled : Spells depth meant cs) (grows : shrinks .outside cs = false) :
    OnPart (fun previous cs rest => Passes previous cs rest anyLexeme) meant cs := by
  induction spelled with
  | scalar scalar => exact fun previous rest fresh ends => passes_scalar scalar grows fresh ends
  | list _ _ items =>
    have opened : Fresh (some (.mark .leftBracket)) := rfl
    intro previous rest _ _
    exact (passes_sign (fun _ _ => rfl)).append (fun last same =>
      items grows last rest (fun _ => same ▸ opened))
  | object _ _ fields =>
    have opened : Fresh (some (.mark .leftBrace)) := rfl
    intro previous rest _ _
    exact (passes_sign (fun _ _ => rfl)).append (fun last same =>
      fields grows last rest (fun _ => same ▸ opened))
  | noItem spaces | noField spaces =>
    intro previous rest _
    exact (passes_spaces spaces).append (fun _ _ =>
      (passes_sign (fun _ _ => rfl)).mono (fun _ _ => trivial))
  | item before spelled spelledMore value items =>
    rw [shrinks_item before spelled spelledMore.endsValue_items, Bool.or_eq_false_iff] at grows
    intro previous rest fresh
    refine (passes_lead before fresh).append (fun last fresh => ?_)
    refine (value grows.1 last _ fresh (spelledMore.endsValue_items rest)).append (fun next _ => ?_)
    exact items grows.2 next rest nofun
  | field before letters spaces spaces' spelled spelledMore value fields =>
    rw [shrinks_field before letters spaces spaces' spelled spelledMore.endsValue_fields,
      Bool.or_eq_false_iff] at grows
    intro previous rest fresh
    rw [field_append]
    refine (passes_name before fresh letters spaces spaces').append (fun last fresh => ?_)
    refine (value grows.1 last _ fresh (spelledMore.endsValue_fields rest)).append (fun next _ => ?_)
    exact fields grows.2 next rest nofun

/-- A part is refused if its value is, or what is behind it. -/
theorem refuses_part {lead more : List Char}
    (small : (shrinks .outside cs || shrinks .outside more) = true)
    (front : Passes previous lead (cs ++ more ++ rest) Fresh)
    (value : ∀ last, Fresh last →
      (shrinks .outside cs = false → Passes last cs (more ++ rest) anyLexeme) ∧
        (shrinks .outside cs = true → Refuses last cs (more ++ rest)))
    (later : shrinks .outside more = true → ∀ last, Refuses last more rest) :
    Refuses previous (lead ++ (cs ++ more)) rest := by
  refine front.refuses (fun last fresh => ?_)
  obtain ⟨passes, refuses⟩ := value last fresh
  cases here : shrinks .outside cs with
  | true => exact (refuses here).append
  | false =>
    rw [here, Bool.false_or] at small
    exact (passes here).refuses (fun next _ => later small next)

/-- Values with a negative exponent are refused. -/
theorem refuses_spells (spelled : Spells depth meant cs) (small : shrinks .outside cs = true) :
    OnPart Refuses meant cs := by
  induction spelled with
  | scalar scalar => exact fun previous rest fresh _ => refuses_scalar scalar small fresh
  | list _ _ items =>
    have opened : Fresh (some (.mark .leftBracket)) := rfl
    intro previous rest _ _
    exact (passes_sign (fun _ _ => rfl)).refuses (fun last same =>
      items small last rest (fun _ => same ▸ opened))
  | object _ _ fields =>
    have opened : Fresh (some (.mark .leftBrace)) := rfl
    intro previous rest _ _
    exact (passes_sign (fun _ _ => rfl)).refuses (fun last same =>
      fields small last rest (fun _ => same ▸ opened))
  | noItem spaces | noField spaces =>
    rw [shrinks_spaces spaces] at small
    cases small
  | item before spelled spelledMore value items =>
    rw [shrinks_item before spelled spelledMore.endsValue_items] at small
    intro previous rest fresh
    have ends := spelledMore.endsValue_items rest
    refine refuses_part small (passes_lead before fresh) (fun last fresh => ?_)
      (fun shrinks next => items shrinks next rest nofun)
    exact ⟨fun grows => passes_spells spelled grows last _ fresh ends,
      fun shrinks => value shrinks last _ fresh ends⟩
  | field before letters spaces spaces' spelled spelledMore value fields =>
    rw [shrinks_field before letters spaces spaces' spelled spelledMore.endsValue_fields] at small
    intro previous rest fresh
    have ends := spelledMore.endsValue_fields rest
    rw [field_append]
    refine refuses_part small (passes_name before fresh letters spaces spaces')
      (fun last fresh => ?_) (fun shrinks next => fields shrinks next rest nofun)
    exact ⟨fun grows => passes_spells spelled grows last _ fresh ends,
      fun shrinks => value shrinks last _ fresh ends⟩

/-- A list up to the end of a statement is lexed if it has no negative exponent, and only then. -/
theorem lexes_items {stop start : Nat} {vs : List Json} (spelled : Spells depth (.items true vs) cs)
    (fresh : Fresh previous) (inside : Inside stop start cs) :
    Lexes (!shrinks .outside cs) stop start previous cs := by
  have whole : Inside stop start (cs ++ []) := by rwa [List.append_nil]
  rw [← List.append_nil cs]
  cases small : shrinks .outside (cs ++ []) with
  | true =>
    rw [List.append_nil] at small
    exact refuses_spells spelled small previous [] (fun _ => fresh) stop start whole
  | false =>
    rw [List.append_nil] at small
    exact passes_spells spelled small previous [] (fun _ => fresh) true stop start whole
      (fun last _ => ⟨.ok [], lexed_nil _ _ last, rfl⟩)

end Lexemes

end ThreatHunt.Source
