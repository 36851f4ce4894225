import ThreatHunt.Proofs.Json.Grammar
import ThreatHunt.Proofs.Text.Located

/-!
The reader of JSON and the grammar agree: a text is read as a value just if it spells that value
between blanks.
-/

namespace ThreatHunt.Json

variable {α β : Type} {a : α} {c d : Char} {cs rest : List Char} {place : Position}

/-! What is spelled is read. -/

/-- A step takes characters in front of a rest, wherever they stand. -/
def Reads (step : Input → Except Fault (α × Input)) (cs : List Char) (a : α) (rest : List Char) :
    Prop :=
  ∀ place, ∃ stop, step ⟨cs ++ rest, place⟩ = .ok (a, ⟨rest, stop⟩)

theorem skipSpace_eq (cs : List Char) (place : Position) :
    ∃ stop, Input.skipSpace ⟨cs, place⟩ = ⟨cs.dropWhile isSpace, stop⟩ := by
  unfold Input.skipSpace
  dsimp only
  induction cs generalizing place with
  | nil => exact ⟨place, rfl⟩
  | cons c cs ih =>
    rw [skipFrom, List.dropWhile_cons]
    cases isSpace c with
    | true => exact ih _
    | false => exact ⟨place, rfl⟩

/-- Blanks are skipped up to the first character that is none. -/
theorem skipSpace_visible {bs : List Char} (spaces : IsSpaces bs) (visible : isSpace c = false)
    (cs : List Char) (place : Position) :
    ∃ start, Input.skipSpace ⟨bs ++ c :: cs, place⟩ = ⟨c :: cs, start⟩ := by
  obtain ⟨start, skipped⟩ := skipSpace_eq (bs ++ c :: cs) place
  refine ⟨start, ?_⟩
  rw [skipped, List.dropWhile_append_of_pos spaces, List.dropWhile_cons_of_neg (by simp [visible])]

theorem dropChars_append (cs rest : List Char) (place : Position) :
    ∃ stop, Input.dropChars cs.length ⟨cs ++ rest, place⟩ = ⟨rest, stop⟩ := by
  unfold Input.dropChars
  rw [List.drop_left]
  exact ⟨_, rfl⟩

theorem readWord_append (letters rest : List Char) (place : Position) :
    ∃ stop, readWord letters ⟨letters ++ rest, place⟩ = .ok ⟨rest, stop⟩ := by
  induction letters generalizing place with
  | nil => exact ⟨place, rfl⟩
  | cons c letters ih =>
    obtain ⟨stop, read⟩ := ih (place.after c)
    refine ⟨stop, ?_⟩
    rw [readWord, List.cons_append]
    simp [read]

theorem reads_constant (v : Json) (c : Char) (letters rest : List Char) :
    Reads (readConstant v letters) (c :: letters) v rest := by
  intro place
  obtain ⟨stop, read⟩ := readWord_append letters rest (place.after c)
  refine ⟨stop, ?_⟩
  have dropped : Input.dropChars 1 ⟨c :: letters ++ rest, place⟩ =
      ⟨letters ++ rest, place.after c⟩ := rfl
  rw [readConstant, dropped, read]
  rfl

/-! Numbers. -/

theorem takeWhile_digits {ds : List Char} (digits : IsDigits ds)
    (ends : ∀ c ∈ rest.head?, c.isDigit = false) : (ds ++ rest).takeWhile Char.isDigit = ds := by
  rw [List.takeWhile_append_of_pos digits.2]
  cases rest with
  | nil => simp
  | cons c rest => rw [List.takeWhile_cons_of_neg (by simp [ends c rfl]), List.append_nil]

/-- What cannot go on with a number. -/
def EndsNumber (rest : List Char) : Prop :=
  ∀ c ∈ rest.head?, c.isDigit = false ∧ c ≠ '.' ∧ c ≠ 'e' ∧ c ≠ 'E'

theorem EndsNumber.digit (ends : EndsNumber rest) : ∀ c ∈ rest.head?, c.isDigit = false :=
  fun c member => (ends c member).1

theorem readFraction_point {ds more : List Char} (nonempty : ds ≠ [])
    (taken : more.takeWhile Char.isDigit = ds) :
    readFraction ⟨'.' :: more, place⟩ =
      .ok (some ds, Input.dropChars ds.length ⟨more, place.after '.'⟩) := by
  have dropped : Input.dropChars 1 ⟨'.' :: more, place⟩ = ⟨more, place.after '.'⟩ := rfl
  unfold readFraction
  dsimp only
  rw [dropped, taken]
  cases ds with
  | nil => exact absurd rfl nonempty
  | cons d ds => rfl

theorem readFraction_none (point : rest.head? ≠ some '.') :
    readFraction ⟨rest, place⟩ = .ok (none, ⟨rest, place⟩) := by
  unfold readFraction
  split
  · rename_i more text
    rw [show rest = '.' :: more from text] at point
    exact absurd rfl point
  · rfl

theorem reads_fraction {digits : Option (List Char)} {fraction : List Char}
    (spelled : IsFraction digits fraction) (digit : ∀ c ∈ rest.head?, c.isDigit = false)
    (point : rest.head? ≠ some '.') : Reads readFraction fraction digits rest := by
  intro place
  cases spelled with
  | none => exact ⟨place, readFraction_none point⟩
  | @some ds digits =>
    obtain ⟨stop, behind⟩ := dropChars_append ds rest (place.after '.')
    refine ⟨stop, ?_⟩
    rw [List.cons_append, readFraction_point digits.1 (takeWhile_digits digits digit), behind]

/-- Whether a mark of an exponent comes next. -/
def marksPower (input : Input) : Bool :=
  match input.rest with
  | m :: _ => m == 'e' || m == 'E'
  | [] => false

/-- The part of a number from a possible exponent on. -/
def readPower (input : Input) : Except Fault (Option Int × Input) :=
  if marksPower input then do
    let (power, next) ← readExponent (input.dropChars 1)
    .ok (some power, next)
  else .ok (none, input)

theorem readNumeral_eq {negative : Bool} {c : Char} {more : List Char}
    (digit : c.isDigit = true) (zero : c = '0' → ∀ d ∈ more.head?, d.isDigit = false) :
    readNumeral negative ⟨c :: more, place⟩ = (do
      let whole := (c :: more).takeWhile Char.isDigit
      let (fraction, next) ← readFraction (Input.dropChars whole.length ⟨c :: more, place⟩)
      let (power, next) ← readPower next
      .ok (⟨negative, whole, fraction, power⟩, next)) := by
  have alone : (c == '0' && (more.head?.map Char.isDigit).getD false) = false := by
    by_cases same : c = '0'
    · cases next : more.head? with
      | none => simp
      | some d => simp [zero same d next]
    · simp [same]
  unfold readNumeral
  dsimp only
  rw [digit, alone]
  simp only [Bool.not_true, Bool.false_eq_true, if_false]
  refine bind_congr (fun read => ?_)
  obtain ⟨fraction, next⟩ := read
  dsimp only
  rw [readPower]
  change (if marksPower next then _ else _) = _
  cases marksPower next with
  | false => rfl
  | true =>
    rw [if_pos rfl, if_pos rfl]
    cases readExponent (next.dropChars 1) with
    | error fault => rfl
    | ok found => rfl

/-- A sign in front of digits, and how many characters it takes. -/
def powerSign : List Char → Bool × Nat
  | '-' :: _ => (true, 1)
  | '+' :: _ => (false, 1)
  | _ => (false, 0)

theorem powerSign_digit (digit : c.isDigit = true) : powerSign (c :: cs) = (false, 0) := by
  unfold powerSign
  split
  · rename_i minus
    rw [(List.cons.inj minus).1] at digit
    exact absurd digit (by decide)
  · rename_i plus
    rw [(List.cons.inj plus).1] at digit
    exact absurd digit (by decide)
  · rfl

/-- The digits of an exponent behind its sign. -/
def readUnsigned (negative : Bool) (input : Input) : Except Fault (Int × Input) :=
  match input.rest with
  | [] => .error (input.faultHere .endInValue)
  | c :: _ =>
    let digits := input.rest.takeWhile Char.isDigit
    if digits = [] then .error ⟨.invalidNumber, some (input.place.afterByte c)⟩
    else
      let n : Int := Text.digitsValue digits
      .ok (if negative then -n else n, input.dropChars digits.length)

theorem readExponent_eq (input : Input) : readExponent input =
    readUnsigned (powerSign input.rest).1 (input.dropChars (powerSign input.rest).2) := rfl

theorem reads_unsigned (negative : Bool) {ds : List Char} (digits : IsDigits ds)
    (digit : ∀ c ∈ rest.head?, c.isDigit = false) :
    Reads (readUnsigned negative) ds
      (if negative then -(Text.digitsValue ds : Int) else Text.digitsValue ds) rest := by
  intro place
  obtain ⟨stop, behind⟩ := dropChars_append ds rest place
  refine ⟨stop, ?_⟩
  unfold readUnsigned
  dsimp only
  rw [takeWhile_digits digits digit, behind]
  cases ds with
  | nil => exact absurd rfl digits.1
  | cons d ds => rfl

theorem reads_power {exponent : Option Int} {power : List Char} (spelled : IsPower exponent power)
    (ends : EndsNumber rest) : Reads readPower power exponent rest := by
  have digit := ends.digit
  have marked : ∀ {mark : Char} {more : List Char} (place : Position), mark = 'e' ∨ mark = 'E' →
      readPower ⟨mark :: more, place⟩ = (do
        let (power, next) ← readUnsigned (powerSign more).1
          (Input.dropChars (powerSign more).2 ⟨more, place.after mark⟩)
        .ok (some power, next)) := by
    rintro mark more place (rfl | rfl) <;> rfl
  intro place
  cases spelled with
  | none =>
    refine ⟨place, ?_⟩
    have plain : marksPower ⟨[] ++ rest, place⟩ = false := by
      unfold marksPower
      cases rest with
      | nil => rfl
      | cons c rest =>
        obtain ⟨-, -, small, large⟩ := ends c rfl
        simp [small, large]
    rw [readPower, plain, if_neg Bool.false_ne_true]
    rfl
  | @unsigned mark ds isMark digits =>
    obtain ⟨stop, read⟩ := reads_unsigned false digits digit (place.after mark)
    obtain ⟨d, others, rfl⟩ := List.exists_cons_of_ne_nil digits.1
    have sign : powerSign (d :: others ++ rest) = (false, 0) :=
      powerSign_digit (digits.2 d List.mem_cons_self)
    have same : Input.dropChars 0 ⟨d :: others ++ rest, place.after mark⟩ =
        ⟨d :: others ++ rest, place.after mark⟩ := rfl
    refine ⟨stop, ?_⟩
    rw [List.cons_append, marked place isMark, sign, same, read]
    rfl
  | @plus mark ds isMark digits =>
    obtain ⟨stop, read⟩ := reads_unsigned false digits digit ((place.after mark).after '+')
    refine ⟨stop, ?_⟩
    rw [List.cons_append, marked place isMark]
    have behind : Input.dropChars 1 ⟨'+' :: ds ++ rest, place.after mark⟩ =
        ⟨ds ++ rest, (place.after mark).after '+'⟩ := rfl
    have sign : powerSign ('+' :: ds ++ rest) = (false, 1) := rfl
    rw [sign, behind, read]
    rfl
  | @minus mark ds isMark digits =>
    obtain ⟨stop, read⟩ := reads_unsigned true digits digit ((place.after mark).after '-')
    refine ⟨stop, ?_⟩
    rw [List.cons_append, marked place isMark]
    have behind : Input.dropChars 1 ⟨'-' :: ds ++ rest, place.after mark⟩ =
        ⟨ds ++ rest, (place.after mark).after '-'⟩ := rfl
    have sign : powerSign ('-' :: ds ++ rest) = (true, 1) := rfl
    rw [sign, behind, read]
    rfl

theorem head?_power {exponent : Option Int} {power : List Char} (spelled : IsPower exponent power)
    (ends : EndsNumber rest) :
    ∀ c ∈ (power ++ rest).head?, c.isDigit = false ∧ c ≠ '.' := by
  intro c first
  cases spelled with
  | none => exact ⟨(ends c first).1, (ends c first).2.1⟩
  | unsigned isMark _ | plus isMark _ | minus isMark _ =>
    obtain rfl := Option.some.inj first
    rcases isMark with rfl | rfl <;> exact ⟨rfl, by decide⟩

theorem head?_fraction {digits : Option (List Char)} {fraction : List Char}
    (spelled : IsFraction digits fraction) (digit : ∀ c ∈ rest.head?, c.isDigit = false) :
    ∀ c ∈ (fraction ++ rest).head?, c.isDigit = false := by
  intro c first
  cases spelled with
  | none => exact digit c first
  | some _ =>
    obtain rfl := Option.some.inj first
    rfl

theorem reads_numeral {n : Numeral} (spelled : IsNumeral n cs) (ends : EndsNumber rest) :
    Reads (readNumeral n.negative) cs n rest := by
  intro place
  cases spelled with
  | @parts negative whole fraction power digits exponent isWhole isFraction isPower =>
    have behindPower := head?_power isPower ends
    have behindFraction := head?_fraction isFraction (fun c first => (behindPower c first).1)
    obtain ⟨first, dropped⟩ := dropChars_append whole (fraction ++ (power ++ rest)) place
    obtain ⟨second, fractionRead⟩ := reads_fraction isFraction
      (fun c next => (behindPower c next).1)
      (fun next => (behindPower '.' next).2 rfl) first
    obtain ⟨third, powerRead⟩ := reads_power isPower ends second
    have taken := takeWhile_digits isWhole.digits behindFraction
    have text : whole ++ (fraction ++ power) ++ rest = whole ++ (fraction ++ (power ++ rest)) := by
      rw [List.append_assoc, List.append_assoc]
    refine ⟨third, ?_⟩
    rw [text]
    obtain ⟨d, others, rfl⟩ := List.exists_cons_of_ne_nil isWhole.digits.1
    have zero : d = '0' → ∀ c ∈ (others ++ (fraction ++ (power ++ rest))).head?,
        c.isDigit = false := by
      intro same
      obtain ⟨-, rfl⟩ := List.cons.inj (isWhole.zero (congrArg some same))
      exact behindFraction
    rw [List.cons_append, readNumeral_eq (isWhole.digits.2 d List.mem_cons_self) zero,
      ← List.cons_append]
    dsimp only
    rw [taken, dropped, fractionRead]
    dsimp only [Bind.bind, Except.bind]
    rw [powerRead]

theorem reads_number {n : Numeral} {v : Json} (spelled : IsNumeral n cs)
    (fits : n.value? = some v) (ends : EndsNumber rest) :
    Reads (readNumber n.negative) cs v rest := by
  intro place
  obtain ⟨stop, read⟩ := reads_numeral spelled ends place
  refine ⟨stop, ?_⟩
  rw [readNumber, read]
  dsimp only [Bind.bind, Except.bind]
  rw [fits]

/-! Strings. -/

theorem reads_hex4 {n : Nat} (spelled : IsHex4 n cs) (rest : List Char) :
    Reads readHex4 cs n rest := by
  intro place
  cases spelled with
  | @digits a b c d i j k l first second third fourth =>
    have long : ¬ Text.byteLength ([a, b, c, d] ++ rest) < 4 := by
      have := a.utf8Size_pos
      have := b.utf8Size_pos
      have := c.utf8Size_pos
      have := d.utf8Size_pos
      simp only [List.cons_append, Text.byteLength_cons]
      omega
    refine ⟨Input.placeAfterBytes 4 ([a, b, c, d] ++ rest) place, ?_⟩
    unfold readHex4
    dsimp only
    rw [if_neg long]
    dsimp only [List.cons_append, List.nil_append]
    rw [first, second, third, fourth]

theorem readPairMark_same (c : Char) (rest : List Char) (place : Position) :
    readPairMark c ⟨c :: rest, place⟩ = .ok ⟨rest, place.after c⟩ := by
  unfold readPairMark
  dsimp only
  rw [beq_self_eq_true, if_pos rfl]

theorem reads_escape (spelled : IsEscape c cs) (rest : List Char) : Reads readEscape cs c rest := by
  intro place
  cases spelled with
  | @letter letter _ stands =>
    refine ⟨place.after letter, ?_⟩
    unfold readEscape
    dsimp only [List.cons_append, List.nil_append]
    rw [stands]
  | @code n hex digits outside =>
    obtain ⟨stop, read⟩ := reads_hex4 digits rest (place.after 'u')
    refine ⟨stop, ?_⟩
    have low : ¬ (0xDC00 ≤ n ∧ n ≤ 0xDFFF) := by omega
    have single : n < 0xD800 ∨ 0xDBFF < n := by omega
    change readUnicode ⟨hex ++ rest, place.after 'u'⟩ = _
    rw [readUnicode, read]
    dsimp only [Bind.bind, Except.bind]
    rw [if_neg low, if_pos single]
  | @pair high low hex hex' digits isHigh digits' isLow =>
    obtain ⟨middle, read⟩ := reads_hex4 digits ('\\' :: 'u' :: (hex' ++ rest)) (place.after 'u')
    obtain ⟨stop, read'⟩ := reads_hex4 digits' rest ((middle.after '\\').after 'u')
    refine ⟨stop, ?_⟩
    have text : 'u' :: (hex ++ '\\' :: 'u' :: hex') ++ rest =
        'u' :: (hex ++ '\\' :: 'u' :: (hex' ++ rest)) := by simp
    have first : ¬ (0xDC00 ≤ high ∧ high ≤ 0xDFFF) := by omega
    have second : ¬ (high < 0xD800 ∨ 0xDBFF < high) := by omega
    have third : ¬ (low < 0xDC00 ∨ 0xDFFF < low) := by omega
    rw [text]
    change readUnicode ⟨hex ++ '\\' :: 'u' :: (hex' ++ rest), place.after 'u'⟩ = _
    rw [readUnicode, read]
    dsimp only [Bind.bind, Except.bind]
    rw [if_neg first, if_neg second, readPairMark_same]
    dsimp only
    rw [readPairMark_same]
    dsimp only
    rw [read']
    dsimp only
    rw [if_neg third]

theorem readString_plain {fuel : Nat} {done : List Char} (quote : c ≠ '\x22')
    (backslash : c ≠ '\\') (visible : 32 ≤ c.toNat) :
    readString (fuel + 1) done ⟨c :: cs, place⟩ =
      readString fuel (c :: done) ⟨cs, place.after c⟩ := by
  rw [readString]
  dsimp only
  rw [if_neg (by simpa using quote), if_neg (by simpa using backslash), if_neg (by omega)]

theorem readString_escaped {fuel : Nat} {done : List Char} {next : Input}
    (read : readEscape ⟨cs, place.after '\\'⟩ = .ok (d, next)) :
    readString (fuel + 1) done ⟨'\\' :: cs, place⟩ = readString fuel (d :: done) next := by
  have apart : ¬ ('\\' == '\x22') = true := by decide
  rw [readString]
  dsimp only
  rw [if_neg apart, if_pos (beq_self_eq_true _), read]

/-- A string is read up to its closing quote. -/
theorem reads_string {s : List Char} (spelled : IsText s cs) (rest done : List Char) {fuel : Nat}
    (enough : cs.length < fuel) :
    Reads (readString fuel done) (cs ++ ['\x22']) (String.ofList (done.reverse ++ s)) rest := by
  intro place
  rw [List.append_assoc]
  induction spelled generalizing fuel done place with
  | nil =>
    refine ⟨place.after '\x22', ?_⟩
    obtain ⟨fuel, rfl⟩ := Nat.exists_eq_succ_of_ne_zero (Nat.ne_zero_of_lt enough)
    rw [List.append_nil]
    rfl
  | @plain c s cs quote backslash visible _ ih =>
    obtain ⟨fuel, rfl⟩ := Nat.exists_eq_succ_of_ne_zero (Nat.ne_zero_of_lt enough)
    have fewer : cs.length < fuel := Nat.lt_of_succ_lt_succ enough
    obtain ⟨stop, read⟩ := ih (c :: done) fewer (place.after c)
    refine ⟨stop, ?_⟩
    rw [List.cons_append, readString_plain quote backslash visible, read, List.reverse_cons,
      List.append_assoc]
    rfl
  | @escaped d es s cs escape _ ih =>
    obtain ⟨fuel, rfl⟩ := Nat.exists_eq_succ_of_ne_zero (Nat.ne_zero_of_lt enough)
    rw [List.length_cons, List.length_append] at enough
    have fewer : cs.length < fuel := by omega
    obtain ⟨middle, character⟩ := reads_escape escape (cs ++ (['\x22'] ++ rest)) (place.after '\\')
    obtain ⟨stop, read⟩ := ih (d :: done) fewer middle
    refine ⟨stop, ?_⟩
    rw [List.cons_append, List.append_assoc, readString_escaped character, read, List.reverse_cons,
      List.append_assoc]
    rfl

theorem reads_quoted {s : List Char} (spelled : IsText s cs) (rest : List Char) {fuel : Nat}
    (enough : cs.length < fuel) :
    Reads (quotedString fuel) ('\x22' :: (cs ++ ['\x22'])) (String.ofList s) rest :=
  fun place => reads_string spelled rest [] enough (place.after '\x22')

/-! Values. -/

/-- A character that a value begins with. -/
def beginsValue (c : Char) : Bool :=
  c.isDigit || c == '-' || c == 'n' || c == 't' || c == 'f' || c == '\x22' || c == '[' || c == '\x7b'

theorem IsNumeral.begins {n : Numeral} (spelled : IsNumeral n cs) :
    ∃ c more, cs = c :: more ∧ c.isDigit = true := by
  cases spelled with
  | parts isWhole _ _ =>
    obtain ⟨d, others, rfl⟩ := List.exists_cons_of_ne_nil isWhole.digits.1
    exact ⟨d, _, rfl, isWhole.digits.2 d List.mem_cons_self⟩

theorem ne_of_isDigit (digit : c.isDigit = true) (other : d.isDigit = false) : c ≠ d := by
  rintro rfl
  exact absurd (digit.symm.trans other) (by decide)

theorem IsScalar.begins {v : Json} (spelled : IsScalar v cs) :
    ∃ c more, cs = c :: more ∧ c ≠ '[' ∧ c ≠ '\x7b' ∧ beginsValue c = true := by
  cases spelled with
  | positive numeral _ _ =>
    obtain ⟨c, more, rfl, digit⟩ := numeral.begins
    exact ⟨c, more, rfl, ne_of_isDigit digit (by decide), ne_of_isDigit digit (by decide),
      by simp [beginsValue, digit]⟩
  | null | yes | no | negative _ _ _ | text _ =>
    exact ⟨_, _, rfl, by decide, by decide, by decide⟩

theorem readScalar_digit {fuel : Nat} (digit : c.isDigit = true) (input : Input) :
    readScalar fuel c input = readNumber false input := by
  have apart : ∀ {d : Char}, d.isDigit = false → ¬ (c == d) = true :=
    fun other => by simpa using ne_of_isDigit digit other
  unfold readScalar
  rw [if_neg (apart (by decide)), if_neg (apart (by decide)), if_neg (apart (by decide)),
    if_neg (apart (by decide)), if_pos digit]

/-- A scalar is read by its first character; behind a number none may follow that goes on with
it. -/
theorem reads_scalar {v : Json} {more : List Char} {fuel : Nat} (spelled : IsScalar v (c :: more))
    (ends : EndsNumber rest) (enough : more.length < fuel) :
    Reads (readScalar fuel c) (c :: more) v rest := by
  intro place
  generalize text : c :: more = cs at spelled ⊢
  cases spelled with
  | null | yes | no =>
    obtain ⟨rfl, rfl⟩ := List.cons.inj text
    exact reads_constant _ _ _ rest place
  | positive numeral positive fits =>
    obtain ⟨d, others, rfl, digit⟩ := numeral.begins
    obtain ⟨rfl, rfl⟩ := List.cons.inj text
    rw [readScalar_digit digit, ← positive]
    exact reads_number numeral fits ends place
  | negative numeral negative fits =>
    obtain ⟨rfl, rfl⟩ := List.cons.inj text
    have read := reads_number numeral fits ends (place.after '-')
    rw [negative] at read
    exact read
  | text letters =>
    obtain ⟨rfl, rfl⟩ := List.cons.inj text
    rw [List.length_append] at enough
    obtain ⟨stop, read⟩ := reads_quoted letters rest (Nat.lt_of_add_right_lt enough) place
    refine ⟨stop, ?_⟩
    change readText fuel _ = _
    rw [readText, read]
    rfl

/-! Containers. -/

/-- An item and the items behind it. -/
def readItem (fuel depth : Nat) (input : Input) : List Node × Ending × Option Input :=
  match readNode fuel depth input with
  | (node, none) =>
    ([node], .broken (input.faultHere .endInList) (input.faultHere .endInList), none)
  | (node, some next) =>
    let (more, rest) := readItems fuel depth false next
    (node :: more, rest)

/-- The value of a field and the fields behind it. -/
def readFieldValue (fuel depth : Nat) (key : Key) (input : Input) :
    List (Key × Node × Option Position) × Ending × Option Input :=
  match readNode fuel depth input with
  | (node, none) =>
    ([(key, node, none)], .broken (input.faultHere .endInObject) (input.faultHere .endInObject),
      none)
  | (node, some next) =>
    let (more, rest) := readFields fuel depth false next
    ((key, node, some next.skipSpace.place) :: more, rest)

/-- A field from its name on and the fields behind it. -/
def readField (fuel depth : Nat) (input : Input) :
    List (Key × Node × Option Position) × Ending × Option Input :=
  let last := fun (key : Key) (node : Node) (fault : Fault) =>
    ([(key, node, none)], Ending.broken fault fault, none)
  match readKey fuel input with
  | (key, none) => last key (readNode fuel depth input).1 (input.faultHere .endInObject)
  | (key, some next) =>
    let next := next.skipSpace
    let unmarked := fun (fault : Fault) => last key (.broken fault fault none) fault
    match next.rest with
    | [] => unmarked (next.faultAhead .endInObject)
    | c :: _ =>
      if c == ':' then readFieldValue fuel depth key (next.dropChars 1)
      else unmarked (next.faultAhead .colonExpected)

section Steps

variable {fuel depth : Nat} {input start next : Input} {more : List Char}

theorem readNode_scalar (skipped : input.skipSpace = ⟨c :: cs, place⟩) (list : c ≠ '[')
    (object : c ≠ '\x7b') : readNode (fuel + 1) depth input =
      leafNode ⟨c :: cs, place⟩ (readScalar fuel c ⟨c :: cs, place⟩) := by
  rw [readNode, skipped]
  dsimp only
  rw [if_neg (by simp [list, object])]

theorem readNode_list (skipped : input.skipSpace = ⟨'[' :: cs, place⟩) (allowed : 0 < depth) :
    readNode (fuel + 1) (depth + 1) input =
      (.array (readItems fuel depth true ⟨cs, place.after '['⟩).1 (some place)
        (readItems fuel depth true ⟨cs, place.after '['⟩).2.1,
        (readItems fuel depth true ⟨cs, place.after '['⟩).2.2) := by
  rw [readNode, skipped]
  dsimp only
  rw [if_pos (by decide), if_neg (by omega), if_pos (by decide)]
  rfl

theorem readNode_object (skipped : input.skipSpace = ⟨'\x7b' :: cs, place⟩) (allowed : 0 < depth) :
    readNode (fuel + 1) (depth + 1) input =
      (.object (readFields fuel depth true ⟨cs, place.after '\x7b'⟩).1 (some place)
        (readFields fuel depth true ⟨cs, place.after '\x7b'⟩).2.1,
        (readFields fuel depth true ⟨cs, place.after '\x7b'⟩).2.2) := by
  rw [readNode, skipped]
  dsimp only
  rw [if_pos (by decide), if_neg (by omega), if_neg (by decide)]
  rfl

theorem readItems_end {first : Bool} (skipped : input.skipSpace = ⟨']' :: cs, place⟩) :
    readItems (fuel + 1) depth first input =
      ([], .closed (some (place.after ']')), some ⟨cs, place.after ']'⟩) := by
  rw [readItems, skipped]
  rfl

theorem readItems_first (skipped : input.skipSpace = ⟨c :: cs, place⟩) (item : c ≠ ']') :
    readItems (fuel + 1) depth true input = readItem fuel depth ⟨c :: cs, place⟩ := by
  rw [readItems, skipped]
  dsimp only
  rw [if_neg (by simpa using item)]
  rfl

theorem readItems_further {stop : Position} (skipped : input.skipSpace = ⟨',' :: more, stop⟩)
    (next : Input.skipSpace ⟨more, stop.after ','⟩ = ⟨c :: cs, place⟩) (item : c ≠ ']') :
    readItems (fuel + 1) depth false input = readItem fuel depth ⟨c :: cs, place⟩ := by
  have behind : Input.skipSpace (Input.dropChars 1 ⟨',' :: more, stop⟩) = ⟨c :: cs, place⟩ := next
  rw [readItems, skipped]
  dsimp only
  rw [if_neg (by decide), if_neg (by decide), if_pos (by decide), behind]
  dsimp only
  rw [if_neg (by simpa using item)]
  rfl

theorem readFields_end {first : Bool} (skipped : input.skipSpace = ⟨'\x7d' :: cs, place⟩) :
    readFields (fuel + 1) depth first input =
      ([], .closed (some (place.after '\x7d')), some ⟨cs, place.after '\x7d'⟩) := by
  rw [readFields, skipped]
  rfl

theorem readFields_first (skipped : input.skipSpace = ⟨'\x22' :: cs, place⟩) :
    readFields (fuel + 1) depth true input = readField fuel depth ⟨'\x22' :: cs, place⟩ := by
  rw [readFields, skipped]
  rfl

theorem readFields_further {stop : Position} (skipped : input.skipSpace = ⟨',' :: more, stop⟩)
    (next : Input.skipSpace ⟨more, stop.after ','⟩ = ⟨'\x22' :: cs, place⟩) :
    readFields (fuel + 1) depth false input = readField fuel depth ⟨'\x22' :: cs, place⟩ := by
  have behind : Input.skipSpace (Input.dropChars 1 ⟨',' :: more, stop⟩) = ⟨'\x22' :: cs, place⟩ :=
    next
  rw [readFields, skipped]
  dsimp only
  rw [if_neg (by decide), if_neg (by decide), if_pos (by decide), behind]
  rfl

end Steps

theorem isSpace_cases (space : isSpace c = true) : c = ' ' ∨ c = '\n' ∨ c = '\t' ∨ c = '\r' := by
  simpa [isSpace, or_assoc] using space

theorem isSpace_of_beginsValue (begins : beginsValue c = true) : isSpace c = false := by
  rw [← Bool.not_eq_true]
  intro space
  rcases isSpace_cases space with rfl | rfl | rfl | rfl <;> exact absurd begins (by decide)

/-- What may stand behind a value: blanks, a sign of the container around it, or nothing. -/
def EndsValue (rest : List Char) : Prop :=
  ∀ c ∈ rest.head?, isSpace c = true ∨ c = ',' ∨ c = ']' ∨ c = '\x7d'

theorem EndsValue.number (ends : EndsValue rest) : EndsNumber rest := by
  intro c first
  rcases ends c first with space | rfl | rfl | rfl
  · rcases isSpace_cases space with rfl | rfl | rfl | rfl <;> decide
  all_goals decide

theorem endsValue_cons (sign : c = ',' ∨ c = ']' ∨ c = '\x7d') : EndsValue (c :: cs) := by
  rintro _ ⟨⟩
  exact .inr sign

theorem endsValue_spaces {bs : List Char} (spaces : IsSpaces bs) (ends : EndsValue cs) :
    EndsValue (bs ++ cs) := by
  cases bs with
  | nil => exact ends
  | cons b bs =>
    rintro _ ⟨⟩
    exact .inl (spaces b List.mem_cons_self)

namespace Spells

variable {depth : Nat} {v : Json} {vs : List Json} {fs : List (String × Json)} {meant : Meaning}

theorem begins (spelled : Spells depth (.value v) cs) :
    ∃ c more, cs = c :: more ∧ beginsValue c = true := by
  cases spelled with
  | scalar scalar =>
    obtain ⟨c, more, rfl, -, -, begins⟩ := scalar.begins
    exact ⟨c, more, rfl, begins⟩
  | list | object => exact ⟨_, _, rfl, by decide⟩

theorem length_pos (spelled : Spells depth meant cs) : 0 < cs.length := by
  induction spelled with
  | scalar scalar =>
    obtain ⟨c, more, rfl, -⟩ := scalar.begins
    exact Nat.succ_pos _
  | list | object => exact Nat.succ_pos _
  | noItem | noField => simp
  | item _ _ _ first _ | field _ _ _ _ _ _ first _ =>
    simp only [List.length_append, List.length_cons]
    omega

/-- Behind an item comes what ends a value. -/
theorem endsValue_items (spelled : Spells depth (.items false vs) cs) (rest : List Char) :
    EndsValue (cs ++ rest) := by
  cases spelled with
  | noItem spaces =>
    rw [List.append_assoc]
    exact endsValue_spaces spaces (endsValue_cons (by decide))
  | item lead _ _ =>
    cases lead with
    | further spaces _ =>
      rw [List.append_assoc, List.append_assoc]
      exact endsValue_spaces spaces (endsValue_cons (by decide))

theorem endsValue_fields (spelled : Spells depth (.fields false fs) cs) (rest : List Char) :
    EndsValue (cs ++ rest) := by
  cases spelled with
  | noField spaces =>
    rw [List.append_assoc]
    exact endsValue_spaces spaces (endsValue_cons (by decide))
  | field lead _ _ _ _ _ =>
    cases lead with
    | further spaces _ =>
      rw [List.append_assoc, List.append_assoc]
      exact endsValue_spaces spaces (endsValue_cons (by decide))

end Spells

section Parts

variable {depth fuel : Nat} {v : Json} {vs : List Json} {fs : List (String × Json)}
  {meant : Meaning} {all : Bool} {lead more : List Char}

/-- How characters that mean something are read in front of a rest. -/
def ReadsPart (depth : Nat) : Meaning → List Char → Prop
  | .value v, cs => ∀ bs rest fuel place, IsSpaces bs → EndsValue rest → 2 * cs.length ≤ fuel →
    ∃ node stop, readNode fuel depth ⟨bs ++ (cs ++ rest), place⟩ = (node, some ⟨rest, stop⟩) ∧
      node.value = .ok v
  | .items all vs, cs => ∀ rest fuel place, 2 * cs.length ≤ fuel →
    ∃ nodes last stop, readItems fuel depth all ⟨cs ++ rest, place⟩ =
      (nodes, .closed last, some ⟨rest, stop⟩) ∧ Node.values nodes = .ok vs
  | .fields all fs, cs => ∀ rest fuel place, 2 * cs.length ≤ fuel →
    ∃ nodes last stop, readFields fuel depth all ⟨cs ++ rest, place⟩ =
      (nodes, .closed last, some ⟨rest, stop⟩) ∧ Node.fieldValues nodes = .ok fs

theorem exists_succ (spelled : Spells depth meant cs) (enough : 2 * cs.length ≤ fuel) :
    ∃ less, fuel = less + 1 := by
  have long := spelled.length_pos
  exact Nat.exists_eq_succ_of_ne_zero (by omega)

theorem readsPart_scalar (scalar : IsScalar v cs) : ReadsPart depth (.value v) cs := by
  intro bs rest fuel place spaces ends enough
  have spelled : Spells depth (.value v) cs := .scalar scalar
  obtain ⟨fuel, rfl⟩ := exists_succ spelled enough
  obtain ⟨c, more, rfl, list, object, begins⟩ := scalar.begins
  rw [List.length_cons] at enough
  have fewer : more.length < fuel := by omega
  obtain ⟨start, skipped⟩ := skipSpace_visible spaces (isSpace_of_beginsValue begins)
    (more ++ rest) place
  obtain ⟨stop, read⟩ := reads_scalar scalar ends.number fewer start
  refine ⟨.leaf v (some start) (some stop), stop, ?_, rfl⟩
  rw [List.cons_append] at read ⊢
  rw [readNode_scalar skipped list object, read]
  rfl

theorem readsPart_list (allowed : 0 < depth) (items : ReadsPart depth (.items true vs) cs) :
    ReadsPart (depth + 1) (.value (.arr vs)) ('[' :: cs) := by
  intro bs rest fuel place spaces _ enough
  rw [List.length_cons] at enough
  obtain ⟨fuel, rfl⟩ : ∃ less, fuel = less + 1 := Nat.exists_eq_succ_of_ne_zero (by omega)
  obtain ⟨start, skipped⟩ := skipSpace_visible spaces (show isSpace '[' = false by decide)
    (cs ++ rest) place
  obtain ⟨nodes, last, stop, read, values⟩ := items rest fuel (start.after '[') (by omega)
  refine ⟨.array nodes (some start) (.closed last), stop, ?_, ?_⟩
  · rw [List.cons_append, readNode_list skipped allowed, read]
  · rw [Node.value, values]
    rfl

theorem readsPart_object (allowed : 0 < depth) (fields : ReadsPart depth (.fields true fs) cs) :
    ReadsPart (depth + 1) (.value (.obj (sortFields fs))) ('\x7b' :: cs) := by
  intro bs rest fuel place spaces _ enough
  rw [List.length_cons] at enough
  obtain ⟨fuel, rfl⟩ : ∃ less, fuel = less + 1 := Nat.exists_eq_succ_of_ne_zero (by omega)
  obtain ⟨start, skipped⟩ := skipSpace_visible spaces (show isSpace '\x7b' = false by decide)
    (cs ++ rest) place
  obtain ⟨nodes, last, stop, read, values⟩ := fields rest fuel (start.after '\x7b') (by omega)
  refine ⟨.object nodes (some start) (.closed last), stop, ?_, ?_⟩
  · rw [List.cons_append, readNode_object skipped allowed, read]
  · rw [Node.value, values]
    rfl

theorem readsPart_noItem {bs : List Char} (spaces : IsSpaces bs) :
    ReadsPart depth (.items all []) (bs ++ [']']) := by
  intro rest fuel place enough
  rw [List.length_append, List.length_singleton] at enough
  obtain ⟨fuel, rfl⟩ : ∃ less, fuel = less + 1 := Nat.exists_eq_succ_of_ne_zero (by omega)
  obtain ⟨start, skipped⟩ := skipSpace_visible spaces (show isSpace ']' = false by decide) rest place
  rw [List.append_assoc]
  exact ⟨[], some (start.after ']'), start.after ']', readItems_end skipped, rfl⟩

theorem readsPart_noField {bs : List Char} (spaces : IsSpaces bs) :
    ReadsPart depth (.fields all []) (bs ++ ['\x7d']) := by
  intro rest fuel place enough
  rw [List.length_append, List.length_singleton] at enough
  obtain ⟨fuel, rfl⟩ : ∃ less, fuel = less + 1 := Nat.exists_eq_succ_of_ne_zero (by omega)
  obtain ⟨start, skipped⟩ := skipSpace_visible spaces (show isSpace '\x7d' = false by decide) rest
    place
  rw [List.append_assoc]
  exact ⟨[], some (start.after '\x7d'), start.after '\x7d', readFields_end skipped, rfl⟩

theorem reads_item {rest : List Char} (value : ReadsPart depth (.value v) cs)
    (items : ReadsPart depth (.items false vs) more) (ends : EndsValue (more ++ rest))
    (enough : 2 * cs.length ≤ fuel) (enoughMore : 2 * more.length ≤ fuel) (place : Position) :
    ∃ nodes last stop, readItem fuel depth ⟨cs ++ (more ++ rest), place⟩ =
      (nodes, .closed last, some ⟨rest, stop⟩) ∧ Node.values nodes = .ok (v :: vs) := by
  obtain ⟨node, middle, read, meant⟩ := value [] (more ++ rest) fuel place nofun ends enough
  obtain ⟨nodes, last, stop, readMore, meantMore⟩ := items rest fuel middle enoughMore
  rw [List.nil_append] at read
  refine ⟨node :: nodes, last, stop, ?_, ?_⟩
  · rw [readItem, read]
    dsimp only
    rw [readMore]
  · rw [Node.values, meant, meantMore]
    rfl

theorem readsPart_item (before : IsLead all lead) (spelled : Spells depth (.value v) cs)
    (spelledMore : Spells depth (.items false vs) more) (value : ReadsPart depth (.value v) cs)
    (items : ReadsPart depth (.items false vs) more) :
    ReadsPart depth (.items all (v :: vs)) (lead ++ (cs ++ more)) := by
  intro rest fuel place enough
  have ends := spelledMore.endsValue_items rest
  have long := spelled.length_pos
  have longMore := spelledMore.length_pos
  rw [List.length_append, List.length_append] at enough
  obtain ⟨fuel, rfl⟩ : ∃ less, fuel = less + 1 := Nat.exists_eq_succ_of_ne_zero (by omega)
  have enoughValue : 2 * cs.length ≤ fuel := by omega
  have enoughMore : 2 * more.length ≤ fuel := by omega
  have item := reads_item value items ends enoughValue enoughMore
  obtain ⟨c, others, rfl, begins⟩ := spelled.begins
  have other : c ≠ ']' := by
    rintro rfl
    exact absurd begins (by decide)
  have visible := isSpace_of_beginsValue begins
  rw [List.append_assoc, List.append_assoc]
  cases before with
  | first spaces =>
    obtain ⟨start, skipped⟩ := skipSpace_visible spaces visible (others ++ (more ++ rest)) place
    obtain ⟨nodes, last, stop, read, values⟩ := item start
    refine ⟨nodes, last, stop, ?_, values⟩
    rw [List.cons_append, readItems_first skipped other]
    exact read
  | @further bs bs' spaces spaces' =>
    obtain ⟨comma, skipped⟩ := skipSpace_visible spaces (show isSpace ',' = false by decide)
      (bs' ++ (c :: others ++ (more ++ rest))) place
    obtain ⟨start, skipped'⟩ := skipSpace_visible spaces' visible (others ++ (more ++ rest))
      (comma.after ',')
    obtain ⟨nodes, last, stop, read, values⟩ := item start
    refine ⟨nodes, last, stop, ?_, values⟩
    rw [List.append_assoc, List.cons_append, readItems_further skipped skipped' other]
    exact read

theorem reads_fieldValue {key : Key} {name : String} {bs rest : List Char}
    (named : key.text = .ok name) (spaces : IsSpaces bs) (value : ReadsPart depth (.value v) cs)
    (fields : ReadsPart depth (.fields false fs) more) (ends : EndsValue (more ++ rest))
    (enough : 2 * cs.length ≤ fuel) (enoughMore : 2 * more.length ≤ fuel) (place : Position) :
    ∃ nodes last stop, readFieldValue fuel depth key ⟨bs ++ (cs ++ (more ++ rest)), place⟩ =
      (nodes, .closed last, some ⟨rest, stop⟩) ∧ Node.fieldValues nodes = .ok ((name, v) :: fs) := by
  obtain ⟨node, middle, read, meant⟩ := value bs (more ++ rest) fuel place spaces ends enough
  obtain ⟨nodes, last, stop, readMore, meantMore⟩ := fields rest fuel middle enoughMore
  refine ⟨(key, node, some (Input.skipSpace ⟨more ++ rest, middle⟩).place) :: nodes, last, stop,
    ?_, ?_⟩
  · rw [readFieldValue, read]
    dsimp only
    rw [readMore]
  · rw [Node.fieldValues, named, meant, meantMore]
    rfl

theorem readKey_quoted {name s : List Char} (letters : IsText s name) (short : name.length < fuel)
    (rest : List Char) (place : Position) :
    ∃ key next, readKey fuel ⟨'\x22' :: (name ++ '\x22' :: rest), place⟩ =
      (key, some ⟨rest, next⟩) ∧ key.text = .ok (String.ofList s) := by
  obtain ⟨next, quoted⟩ := reads_quoted letters rest short place
  have text : '\x22' :: (name ++ ['\x22']) ++ rest = '\x22' :: (name ++ '\x22' :: rest) := by simp
  rw [text] at quoted
  refine ⟨.name (String.ofList s) (some next) (some (Input.settledPlace ⟨rest, next⟩)), next, ?_,
    rfl⟩
  rw [readKey, quoted]

/-- A field is read by its name, its colon and its value. -/
theorem reads_field {name s bs bs' rest : List Char} (letters : IsText s name)
    (short : name.length < fuel) (spaces : IsSpaces bs) (spaces' : IsSpaces bs')
    (value : ReadsPart depth (.value v) cs) (fields : ReadsPart depth (.fields false fs) more)
    (ends : EndsValue (more ++ rest)) (enough : 2 * cs.length ≤ fuel)
    (enoughMore : 2 * more.length ≤ fuel) (place : Position) :
    ∃ nodes last stop, readField fuel depth
      ⟨'\x22' :: (name ++ '\x22' :: (bs ++ ':' :: (bs' ++ (cs ++ (more ++ rest))))), place⟩ =
      (nodes, .closed last, some ⟨rest, stop⟩) ∧
      Node.fieldValues nodes = .ok ((String.ofList s, v) :: fs) := by
  obtain ⟨key, next, keyRead, named⟩ := readKey_quoted letters short
    (bs ++ ':' :: (bs' ++ (cs ++ (more ++ rest)))) place
  obtain ⟨colon, skipped⟩ := skipSpace_visible spaces (show isSpace ':' = false by decide)
    (bs' ++ (cs ++ (more ++ rest))) next
  obtain ⟨nodes, last, stop, read, values⟩ := reads_fieldValue named spaces' value fields ends
    enough enoughMore (colon.after ':')
  refine ⟨nodes, last, stop, ?_, values⟩
  rw [readField, keyRead]
  dsimp only
  rw [skipped]
  exact read

theorem readsPart_field {name s bs bs' : List Char} (before : IsLead all lead)
    (letters : IsText s name) (spaces : IsSpaces bs) (spaces' : IsSpaces bs')
    (spelledMore : Spells depth (.fields false fs) more) (value : ReadsPart depth (.value v) cs)
    (fields : ReadsPart depth (.fields false fs) more) :
    ReadsPart depth (.fields all ((String.ofList s, v) :: fs))
      (lead ++ ('\x22' :: (name ++ '\x22' :: (bs ++ ':' :: (bs' ++ (cs ++ more)))))) := by
  intro rest fuel place enough
  have ends := spelledMore.endsValue_fields rest
  simp only [List.length_append, List.length_cons] at enough
  obtain ⟨fuel, rfl⟩ : ∃ less, fuel = less + 1 := Nat.exists_eq_succ_of_ne_zero (by omega)
  have short : name.length < fuel := by omega
  have enoughValue : 2 * cs.length ≤ fuel := by omega
  have enoughMore : 2 * more.length ≤ fuel := by omega
  have field := reads_field letters short spaces spaces' value fields ends enoughValue enoughMore
  have visible : isSpace '\x22' = false := by decide
  simp only [List.append_assoc, List.cons_append]
  cases before with
  | first spaces =>
    obtain ⟨start, skipped⟩ := skipSpace_visible spaces visible
      (name ++ '\x22' :: (bs ++ ':' :: (bs' ++ (cs ++ (more ++ rest))))) place
    obtain ⟨nodes, last, stop, read, values⟩ := field start
    refine ⟨nodes, last, stop, ?_, values⟩
    rw [readFields_first skipped]
    exact read
  | @further cs' cs'' spaces spaces' =>
    obtain ⟨comma, skipped⟩ := skipSpace_visible spaces (show isSpace ',' = false by decide)
      (cs'' ++ '\x22' :: (name ++ '\x22' :: (bs ++ ':' :: (bs' ++ (cs ++ (more ++ rest)))))) place
    obtain ⟨start, skipped'⟩ := skipSpace_visible spaces' visible
      (name ++ '\x22' :: (bs ++ ':' :: (bs' ++ (cs ++ (more ++ rest))))) (comma.after ',')
    obtain ⟨nodes, last, stop, read, values⟩ := field start
    refine ⟨nodes, last, stop, ?_, values⟩
    rw [List.append_assoc, List.cons_append, readFields_further skipped skipped']
    exact read

/-- What characters spell is read in front of whatever may follow them. -/
theorem readsPart (spelled : Spells depth meant cs) : ReadsPart depth meant cs := by
  induction spelled with
  | scalar scalar => exact readsPart_scalar scalar
  | list allowed _ items => exact readsPart_list allowed items
  | object allowed _ fields => exact readsPart_object allowed fields
  | noItem spaces => exact readsPart_noItem spaces
  | item before spelled spelledMore value items =>
    exact readsPart_item before spelled spelledMore value items
  | noField spaces => exact readsPart_noField spaces
  | field before letters spaces spaces' _ spelledMore value fields =>
    exact readsPart_field before letters spaces spaces' spelledMore value fields

end Parts

end ThreatHunt.Json
