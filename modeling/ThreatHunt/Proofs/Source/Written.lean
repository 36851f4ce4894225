import ThreatHunt.Proofs.Number.Digits
import ThreatHunt.Proofs.Source.Words
import ThreatHunt.Source.Span

/-!
Lexemes as text. Written one after the other, with blanks where a reader expects them, lexemes are
read again as they were: no comment starts among them, a hyphen is not taken for a sign where a
number may not start, and a name is not taken for the scheme of a URI.
-/

namespace ThreatHunt.Source

open Text (Located locateFrom byteLength)

/-! What is written. -/

/-- Characters with a backslash before each backslash and each single quote. -/
def escape : List Char → List Char
  | [] => []
  | c :: rest => if c == '\\' || c == '\'' then '\\' :: c :: escape rest else c :: escape rest

/-- A lexeme as it is written. -/
def Lexeme.written : Lexeme → List Char
  | .word s => s.toList
  | .text s => '\'' :: (escape s.toList ++ ['\''])
  | .instant s => 't' :: '\'' :: (escape s.toList ++ ['\''])
  | .number s => s.toList
  | .uri s => s.toList
  | .mark m => m.sign.toList

/-- Whether what follows a lexeme is written right behind it. -/
def Lexeme.opens : Lexeme → Bool
  | .mark .leftParen | .mark .dot | .mark .colon => true
  | _ => false

/-- Whether a lexeme is written right behind what it follows. -/
def Lexeme.closes : Lexeme → Bool
  | .mark .rightParen | .mark .comma | .mark .dot | .mark .colon => true
  | _ => false

/-- What is written between a lexeme and those behind it. -/
def gap (l : Lexeme) : List Lexeme → List Char
  | [] => []
  | next :: _ => if l.opens || next.closes then [] else [' ']

theorem gap_eq (l : Lexeme) (ls : List Lexeme) : gap l ls = [] ∨ gap l ls = [' '] := by
  unfold gap
  split
  · exact .inl rfl
  · split
    · exact .inl rfl
    · exact .inr rfl

/-- Lexemes as a text. -/
def write : List Lexeme → List Char
  | [] => []
  | l :: rest => l.written ++ (gap l rest ++ write rest)

/-- A whole number in decimal, perhaps with a minus sign. -/
def isInteger : List Char → Bool
  | '-' :: ds => !ds.isEmpty && ds.all Char.isDigit
  | ds => !ds.isEmpty && ds.all Char.isDigit

theorem isWordPart_of_isDigit {c : Char} (digit : c.isDigit = true) : isWordPart c = true := by
  simp [isWordPart, Char.isAlphanum, digit]

theorem isWordTail_of_parts {cs : List Char} (parts : ∀ c ∈ cs, isWordPart c = true) :
    isWordTail cs = true := by
  induction cs with
  | nil => rfl
  | cons c cs ih =>
    obtain ⟨part, others⟩ := List.forall_mem_cons.1 parts
    simp [isWordTail, part, ih others]

theorem isWordTail_of_digits {cs : List Char} (digits : cs.all Char.isDigit = true) :
    isWordTail cs = true :=
  isWordTail_of_parts (fun c member => isWordPart_of_isDigit (List.all_eq_true.1 digits c member))

/-- An integer has digits only, or digits behind a sign. -/
theorem exists_of_isInteger {cs : List Char} (integer : isInteger cs = true) :
    ∃ c rest, cs = c :: rest ∧ rest.all Char.isDigit = true ∧
      (c.isDigit = true ∨ c = '-' ∧ ∃ d ds, rest = d :: ds ∧ d.isDigit = true) := by
  unfold isInteger at integer
  split at integer
  · rename_i ds
    rw [Bool.and_eq_true] at integer
    refine ⟨'-', ds, rfl, integer.2, .inr ⟨rfl, ?_⟩⟩
    cases ds with
    | nil => exact absurd integer.1 (by decide)
    | cons d ds => exact ⟨d, ds, rfl, (Bool.and_eq_true _ _ ▸ integer.2).1⟩
  · rw [Bool.and_eq_true] at integer
    cases cs with
    | nil => exact absurd integer.1 (by decide)
    | cons c rest =>
      obtain ⟨digit, digits⟩ := Bool.and_eq_true _ _ ▸ integer.2
      exact ⟨c, rest, rfl, digits, .inl digit⟩

theorem isInteger_of_digits {ds : List Char} (some : ds ≠ [])
    (digits : ds.all Char.isDigit = true) :
    isInteger ds = true ∧ isInteger ('-' :: ds) = true := by
  have all : (!ds.isEmpty && ds.all Char.isDigit) = true := by simp [digits, some]
  constructor
  case right => exact all
  case left =>
    unfold isInteger
    split
    · exact absurd (List.all_eq_true.1 digits '-' List.mem_cons_self) (by decide)
    · exact all

theorem isInteger_ofInt (i : Int) : isInteger (Text.ofInt i).toList = true := by
  have digits : (Nat.repr i.natAbs).toList.all Char.isDigit = true :=
    List.all_eq_true.2 (fun _ => Digits.isDigit_of_mem_repr)
  have both := isInteger_of_digits (Digits.repr_ne_nil i.natAbs) digits
  unfold Text.ofInt
  split
  · rw [String.toList_append]
    exact both.2
  · exact both.1

/-- Whether a lexeme is read again from what is written for it. -/
def Lexeme.Plain : Lexeme → Prop
  | .word s => isIdentifier s = true
  | .number s => isInteger s.toList = true
  | .text _ | .mark _ => True
  | .instant _ | .uri _ => False

/-- Whether a lexeme may stand behind another: a number not behind an operand, and a dot not behind
a number. -/
structure Follows (previous : Option Lexeme) (l : Lexeme) : Prop where
  number : ∀ s, l = .number s → (previous.map Lexeme.endsOperand).getD false = false
  dot : ∀ s, previous = some (.number s) → l ≠ .mark .dot

/-- Whether lexemes can be written behind another and read again. -/
def Legible : Option Lexeme → List Lexeme → Prop
  | _, [] => True
  | previous, l :: rest => l.Plain ∧ Follows previous l ∧ Legible (some l) rest

theorem follows_of_ne {previous : Option Lexeme} {l : Lexeme} (number : ∀ s, l ≠ .number s)
    (dot : l ≠ .mark .dot) : Follows previous l := by
  constructor
  case number => exact fun s same => absurd same (number s)
  case dot => exact fun _ _ => dot

/-- Behind a sign that ends no operand, anything may stand. -/
theorem follows_mark {m : Mark} (opens : (Lexeme.mark m).endsOperand = false) (l : Lexeme) :
    Follows (some (.mark m)) l := by
  constructor
  case number => exact fun _ _ => opens
  case dot => exact fun _ same => absurd (Option.some.inj same) Lexeme.noConfusion

section Legible

variable {previous : Option Lexeme} {s : String} {ls : List Lexeme}

theorem Legible.word (later : Legible (some (.word s)) ls) (name : isIdentifier s = true) :
    Legible previous (.word s :: ls) :=
  ⟨name, follows_of_ne (fun _ => Lexeme.noConfusion) Lexeme.noConfusion, later⟩

theorem Legible.mark {m : Mark} (later : Legible (some (.mark m)) ls) (other : m ≠ .dot) :
    Legible previous (.mark m :: ls) := by
  have apart : Lexeme.mark m ≠ .mark .dot := fun same => other (Lexeme.mark.inj same)
  exact ⟨trivial, follows_of_ne (fun _ => Lexeme.noConfusion) apart, later⟩

theorem Legible.text (later : Legible (some (.text s)) ls) : Legible previous (.text s :: ls) :=
  ⟨trivial, follows_of_ne (fun _ => Lexeme.noConfusion) Lexeme.noConfusion, later⟩

theorem Legible.dot (later : Legible (some (.mark .dot)) ls) :
    Legible (some (.word s)) (.mark .dot :: ls) := by
  refine ⟨trivial, ?_, later⟩
  constructor
  case number => exact fun _ => Lexeme.noConfusion
  case dot => exact fun _ same => absurd (Option.some.inj same) Lexeme.noConfusion

end Legible

theorem legible_append {previous : Option Lexeme} {front back : List Lexeme} :
    Legible previous (front ++ back) ↔
      Legible previous front ∧ Legible (front.getLast?.or previous) back := by
  induction front generalizing previous with
  | nil => simp [Legible]
  | cons l front ih =>
    have last : (l :: front).getLast?.or previous = front.getLast?.or (some l) := by
      cases front with
      | nil => rfl
      | cons next front => simp [List.getLast?_cons]
    rw [last, List.cons_append, Legible, Legible, ih, and_assoc, and_assoc]

/-! Comments. -/

theorem blankFrom_code {c : Char} {rest : List Char} (number : c ≠ '#') (slash : c ≠ '/')
    (hyphen : c = '-' → rest.head? ≠ some '-') (quote : isQuote c = false) :
    blankFrom .code (c :: rest) = c :: blankFrom .code rest := by
  rw [blankFrom.eq_def]
  split <;> simp_all

/-- Characters that stand outside of quotes and start no comment, whatever is behind them. -/
def Quiet (cs : List Char) : Prop :=
  ∀ rest, blankFrom .code (cs ++ rest) = cs ++ blankFrom .code rest

theorem Quiet.append {front back : List Char} (first : Quiet front) (second : Quiet back) :
    Quiet (front ++ back) := by
  intro rest
  rw [List.append_assoc, first, second, List.append_assoc]

theorem quiet_part {c : Char} (part : isWordPart c = true) : Quiet [c] := by
  intro rest
  have plain : ∀ d, isWordPart d = false → c ≠ d := by
    intro d other same
    rw [same, other] at part
    exact absurd part Bool.false_ne_true
  apply blankFrom_code (plain '#' (by decide)) (plain '/' (by decide))
  · exact fun hyphen => absurd hyphen (plain '-' (by decide))
  · simp [isQuote, plain '\'' (by decide), plain '\x22' (by decide)]

/-- A hyphen inside of a word or before a digit starts no comment. -/
theorem quiet_hyphen {c : Char} (part : isWordPart c = true) {cs : List Char}
    (quiet : Quiet (c :: cs)) : Quiet ('-' :: c :: cs) := by
  intro rest
  have apart : ('-' : Char) = '-' → (c :: cs ++ rest).head? ≠ some '-' := by
    rintro - hyphen
    rw [List.cons_append, List.head?_cons, Option.some.injEq] at hyphen
    rw [hyphen] at part
    exact absurd part (by decide)
  rw [List.cons_append, blankFrom_code (by decide) (by decide) apart (by decide), quiet]
  rfl

theorem quiet_wordTail {cs : List Char} (tail : isWordTail cs = true) : Quiet cs := by
  induction cs with
  | nil => exact fun rest => rfl
  | cons c cs ih =>
    rw [isWordTail, Bool.and_eq_true, Bool.or_eq_true] at tail
    obtain ⟨part | hyphen, later⟩ := tail
    · exact (quiet_part part).append (ih later)
    · rw [Bool.and_eq_true, beq_iff_eq] at hyphen
      obtain ⟨rfl, next⟩ := hyphen
      cases cs with
      | nil => exact absurd next (by decide)
      | cons d cs => exact quiet_hyphen next (ih later)

theorem quiet_digits {cs : List Char} (digits : cs.all Char.isDigit = true) : Quiet cs :=
  quiet_wordTail (isWordTail_of_digits digits)

theorem quiet_integer {cs : List Char} (integer : isInteger cs = true) : Quiet cs := by
  obtain ⟨c, rest, rfl, digits, digit | ⟨rfl, d, ds, rfl, digit⟩⟩ := exists_of_isInteger integer
  · exact (quiet_part (isWordPart_of_isDigit digit)).append (quiet_digits digits)
  · exact quiet_hyphen (isWordPart_of_isDigit digit) (quiet_digits digits)

theorem blankFrom_escape (cs rest : List Char) :
    blankFrom (.text '\'') (escape cs ++ '\'' :: rest) =
      escape cs ++ '\'' :: blankFrom .code rest := by
  induction cs with
  | nil => simp [escape, blankFrom]
  | cons c cs ih =>
    rw [escape]
    split
    · simp [blankFrom, ih]
    · rename_i plain
      simp only [Bool.or_eq_true, beq_iff_eq, not_or] at plain
      have step : blankFrom (.text '\'') (c :: (escape cs ++ '\'' :: rest)) =
          c :: blankFrom (.text '\'') (escape cs ++ '\'' :: rest) := by
        rw [blankFrom]
        · simp [plain.2]
        · exact fun _ _ backslash => absurd backslash plain.1
      rw [List.cons_append, step, ih, List.cons_append]

theorem quiet_written {l : Lexeme} (plain : l.Plain) : Quiet l.written := by
  cases l with
  | word s =>
    obtain ⟨c, rest, chars, begins, tail⟩ := exists_of_isIdentifier plain
    rw [Lexeme.written, chars]
    exact (quiet_part (isWordPart_of_isWordStart begins)).append (quiet_wordTail tail)
  | text s =>
    intro rest
    simp [Lexeme.written, blankFrom, isQuote, blankFrom_escape]
  | number s => exact quiet_integer plain
  | mark m =>
    intro rest
    cases m <;> simp [Lexeme.written, Mark.sign, blankFrom, isQuote]
  | instant s => exact absurd plain not_false
  | uri s => exact absurd plain not_false

/-- What is written has no comment to blank. -/
theorem blankFrom_write {previous : Option Lexeme} {ls : List Lexeme}
    (legible : Legible previous ls) : blankFrom .code (write ls) = write ls := by
  induction ls generalizing previous with
  | nil => rfl
  | cons l rest ih =>
    obtain ⟨plain, -, later⟩ := legible
    have between : Quiet (gap l rest) := by
      rcases gap_eq l rest with none | one
      · rw [none]
        exact fun _ => rfl
      · rw [one]
        exact fun cs => blankFrom_code (by decide) (by decide)
          (fun hyphen => absurd hyphen (by decide)) (by decide)
    rw [write, quiet_written plain, between, ih later]

end ThreatHunt.Source
