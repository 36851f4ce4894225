import Mathlib.Data.List.TakeWhile
import ThreatHunt.Proofs.Json.Reading
import ThreatHunt.Proofs.Outcome

/-!
What the reader of JSON reads is spelled as the grammar says. With the reading of what is spelled,
this makes the values of a text those that it spells.
-/

namespace ThreatHunt.Json

open Outcome (bind_eq_ok)

/-- A step reads only what a relation says is spelled. -/
def ReadsOnly {α : Type} (step : Input → Except Fault (α × Input)) (Meant : α → List Char → Prop) :
    Prop :=
  ∀ input a next, step input = .ok (a, next) → ∃ cs, Meant a cs ∧ input.rest = cs ++ next.rest

/-! Numbers. -/

theorem readWord_only {letters : List Char} {input next : Input}
    (read : readWord letters input = .ok next) : input.rest = letters ++ next.rest := by
  induction letters generalizing input with
  | nil =>
    obtain rfl := Except.ok.inj read
    rfl
  | cons c letters ih =>
    obtain ⟨rest, place⟩ := input
    rw [readWord] at read
    cases rest with
    | nil => cases read
    | cons d rest =>
      dsimp only at read
      split at read
      · rename_i same
        rw [eq_of_beq same, List.cons_append]
        exact congrArg _ (ih read)
      · cases read

theorem isDigits_takeWhile {cs : List Char} (some : cs.takeWhile Char.isDigit ≠ []) :
    IsDigits (cs.takeWhile Char.isDigit) :=
  ⟨some, fun _ member => List.all_eq_true.1 List.all_takeWhile _ member⟩

theorem split_digits (input : Input) :
    input.rest = input.rest.takeWhile Char.isDigit ++
      (input.dropChars (input.rest.takeWhile Char.isDigit).length).rest := by
  have front := List.prefix_iff_eq_take.1 (List.takeWhile_prefix (l := input.rest) Char.isDigit)
  have split := List.take_append_drop (input.rest.takeWhile Char.isDigit).length input.rest
  rw [← front] at split
  exact split.symm

theorem readFraction_only : ReadsOnly readFraction IsFraction := by
  rintro ⟨rest, place⟩ fraction next read
  unfold readFraction at read
  dsimp only at read
  split at read
  · rename_i more
    have split := split_digits ⟨more, place.after '.'⟩
    have behind : Input.dropChars 1 ⟨'.' :: more, place⟩ = ⟨more, place.after '.'⟩ := rfl
    rw [behind] at read
    dsimp only at read split
    cases digits : more.takeWhile Char.isDigit with
    | nil =>
      rw [digits] at read
      cases more <;> cases read
    | cons d ds =>
      rw [digits] at read split
      cases read
      have all : IsDigits (d :: ds) := digits ▸ isDigits_takeWhile (by rw [digits]; simp)
      exact ⟨'.' :: d :: ds, .some all, congrArg ('.' :: ·) split⟩
  · cases read
    exact ⟨[], .none, rfl⟩

theorem readUnsigned_only (negative : Bool) : ReadsOnly (readUnsigned negative) (fun n ds =>
    IsDigits ds ∧ n = if negative then -(Text.digitsValue ds : Int) else Text.digitsValue ds) := by
  intro input n next read
  have split := split_digits input
  unfold readUnsigned at read
  split at read
  · cases read
  · dsimp only at read
    by_cases none : input.rest.takeWhile Char.isDigit = []
    · rw [if_pos none] at read
      cases read
    · rw [if_neg none] at read
      cases read
      exact ⟨_, ⟨isDigits_takeWhile none, rfl⟩, split⟩

theorem readExponent_only {mark : Char} (marks : mark = 'e' ∨ mark = 'E') {input next : Input}
    {n : Int} (read : readExponent input = .ok (n, next)) :
    ∃ cs, IsPower (some n) cs ∧ mark :: input.rest = cs ++ next.rest := by
  obtain ⟨rest, place⟩ := input
  rw [readExponent_eq] at read
  obtain ⟨ds, ⟨digits, rfl⟩, text⟩ := readUnsigned_only _ _ _ _ read
  dsimp only at text
  unfold powerSign at text
  split at text
  · rename_i more
    exact ⟨mark :: '-' :: ds, .minus marks digits, congrArg (mark :: '-' :: ·) text⟩
  · rename_i more
    exact ⟨mark :: '+' :: ds, .plus marks digits, congrArg (mark :: '+' :: ·) text⟩
  · rename_i more minus plus
    have unsigned : (powerSign rest).1 = false := by
      unfold powerSign
      split <;> simp_all
    rw [unsigned]
    exact ⟨mark :: ds, .unsigned marks digits, congrArg (mark :: ·) text⟩

theorem readPower_only : ReadsOnly readPower IsPower := by
  rintro ⟨rest, place⟩ power next read
  rw [readPower] at read
  split at read
  · rename_i marked
    obtain ⟨⟨n, stop⟩, exponent, found⟩ := bind_eq_ok.1 read
    cases found
    unfold marksPower at marked
    cases rest with
    | nil => cases marked
    | cons mark rest =>
      simp only [Bool.or_eq_true, beq_iff_eq] at marked
      exact readExponent_only marked exponent
  · cases read
    exact ⟨[], .none, rfl⟩

/-- The digits at the head of a text are a whole number, if a zero there stands alone. -/
theorem isWhole_takeWhile {c : Char} {more : List Char} (digit : c.isDigit = true)
    (zero : c = '0' → ∀ d ∈ more.head?, d.isDigit = false) :
    IsWhole ((c :: more).takeWhile Char.isDigit) := by
  constructor
  case digits => exact isDigits_takeWhile (by simp [digit])
  case zero =>
    rw [List.takeWhile_cons_of_pos digit]
    rintro ⟨⟩
    cases more with
    | nil => rfl
    | cons d more => rw [List.takeWhile_cons_of_neg (by simp [zero rfl d rfl])]

theorem readNumeral_only (negative : Bool) : ReadsOnly (readNumeral negative) (fun n cs =>
    IsNumeral n cs ∧ n.negative = negative) := by
  rintro ⟨rest, place⟩ n next read
  cases rest with
  | nil => cases read
  | cons c more =>
    have digit : c.isDigit = true := by
      by_contra other
      unfold readNumeral at read
      dsimp only at read
      rw [if_pos (by simpa using other)] at read
      cases read
    have zero : c = '0' → ∀ d ∈ more.head?, d.isDigit = false := by
      rintro rfl d first
      by_contra other
      unfold readNumeral at read
      dsimp only at read
      rw [if_neg (by decide), Option.mem_def.1 first, if_pos (by simpa using other)] at read
      cases read
    rw [readNumeral_eq digit zero] at read
    obtain ⟨⟨fraction, middle⟩, point, read⟩ := bind_eq_ok.1 read
    obtain ⟨⟨power, stop⟩, mark, read⟩ := bind_eq_ok.1 read
    cases read
    obtain ⟨cs, isFraction, text⟩ := readFraction_only _ _ _ point
    obtain ⟨ds, isPower, text'⟩ := readPower_only _ _ _ mark
    have split := split_digits ⟨c :: more, place⟩
    dsimp only at split text'
    rw [text, text', ← List.append_assoc cs, ← List.append_assoc] at split
    exact ⟨_, ⟨.parts (isWhole_takeWhile digit zero) isFraction isPower, rfl⟩, split⟩

theorem readNumber_only (negative : Bool) : ReadsOnly (readNumber negative) (fun v cs =>
    ∃ n : Numeral, IsNumeral n cs ∧ n.negative = negative ∧ n.value? = some v) := by
  intro input v next read
  obtain ⟨⟨n, stop⟩, numeral, read⟩ := bind_eq_ok.1 read
  obtain ⟨cs, ⟨spelled, sign⟩, text⟩ := readNumeral_only _ _ _ _ numeral
  dsimp only at read
  split at read
  · rename_i fits
    cases read
    exact ⟨cs, ⟨n, spelled, sign, fits⟩, text⟩
  · cases read

/-! Strings. -/

theorem readHex4_only : ReadsOnly readHex4 IsHex4 := by
  intro input n next read
  unfold readHex4 at read
  dsimp only at read
  split at read
  · cases read
  · split at read
    · rename_i a b c d rest text
      split at read
      · rename_i first second third fourth
        cases read
        exact ⟨[a, b, c, d], .digits first second third fourth, text⟩
      · cases read
    · cases read

theorem readPairMark_only {c : Char} {input next : Input}
    (read : readPairMark c input = .ok next) : input.rest = c :: next.rest := by
  unfold readPairMark at read
  split at read
  · cases read
  · rename_i d rest text
    split at read
    · rename_i same
      cases read
      rw [text, eq_of_beq same]
    · cases read

theorem readUnicode_only {c : Char} {input next : Input} (read : readUnicode input = .ok (c, next)) :
    ∃ cs, IsEscape c ('u' :: cs) ∧ input.rest = cs ++ next.rest := by
  obtain ⟨⟨n, middle⟩, digits, read⟩ := bind_eq_ok.1 read
  obtain ⟨cs, hex, text⟩ := readHex4_only _ _ _ digits
  dsimp only at read
  split at read
  · cases read
  · rename_i notLow
    split at read
    · rename_i single
      cases read
      exact ⟨cs, .code hex (by omega), text⟩
    · rename_i paired
      obtain ⟨first, backslash, read⟩ := bind_eq_ok.1 read
      obtain ⟨second, letter, read⟩ := bind_eq_ok.1 read
      obtain ⟨⟨low, stop⟩, digits', read⟩ := bind_eq_ok.1 read
      obtain ⟨ds, hex', text'⟩ := readHex4_only _ _ _ digits'
      dsimp only at read
      split at read
      · cases read
      · rename_i isLow
        obtain ⟨rfl, rfl⟩ := Prod.mk.inj (Except.ok.inj read)
        refine ⟨cs ++ '\\' :: 'u' :: ds, .pair hex (by omega) hex' (by omega), ?_⟩
        rw [text, readPairMark_only backslash, readPairMark_only letter, text', List.append_assoc]
        rfl

theorem readEscape_only : ReadsOnly readEscape IsEscape := by
  intro input c next read
  unfold readEscape at read
  split at read
  · cases read
  · rename_i letter rest text
    split at read
    · rename_i stands
      cases read
      exact ⟨[letter], .letter stands, text⟩
    · split at read
      · rename_i unicode
        obtain ⟨cs, escape, behind⟩ := readUnicode_only read
        refine ⟨'u' :: cs, escape, ?_⟩
        rw [text, eq_of_beq unicode]
        exact congrArg ('u' :: ·) behind
      · cases read

/-- What is read behind an opening quote, and the letters that had been read before. -/
theorem readString_only {fuel : Nat} {done : List Char} {input next : Input} {s : String}
    (read : readString fuel done input = .ok (s, next)) :
    ∃ letters cs, IsText letters cs ∧ s = String.ofList (done.reverse ++ letters) ∧
      input.rest = cs ++ '\x22' :: next.rest := by
  induction fuel generalizing done input with
  | zero => cases read
  | succ fuel ih =>
    obtain ⟨rest, place⟩ := input
    rw [readString] at read
    cases rest with
    | nil => cases read
    | cons c rest =>
      dsimp only at read
      split at read
      · rename_i quote
        cases read
        rw [eq_of_beq quote]
        exact ⟨[], [], .nil, by rw [List.append_nil], rfl⟩
      · rename_i quote
        split at read
        · rename_i backslash
          split at read
          · rename_i d middle escaped
            obtain ⟨es, escape, text⟩ := readEscape_only _ _ _ escaped
            obtain ⟨letters, cs, isText, rfl, behind⟩ := ih read
            refine ⟨d :: letters, '\\' :: (es ++ cs), .escaped escape isText, ?_, ?_⟩
            · rw [List.reverse_cons, List.append_assoc]
              rfl
            · dsimp only at text
              rw [eq_of_beq backslash, text, behind, List.cons_append, List.append_assoc]
          · cases read
        · rename_i backslash
          split at read
          · cases read
          · rename_i visible
            obtain ⟨letters, cs, isText, rfl, behind⟩ := ih read
            have plain : IsText (c :: letters) (c :: cs) :=
              .plain (by simpa using quote) (by simpa using backslash) (by omega) isText
            refine ⟨c :: letters, c :: cs, plain, ?_, ?_⟩
            · rw [List.reverse_cons, List.append_assoc]
              rfl
            · exact congrArg (c :: ·) behind

theorem quotedString_only {fuel : Nat} {input next : Input} {s : String} {c : Char}
    {more : List Char} (first : input.rest = c :: more)
    (read : quotedString fuel input = .ok (s, next)) :
    ∃ letters cs, IsText letters cs ∧ s = String.ofList letters ∧
      input.rest = c :: (cs ++ '\x22' :: next.rest) := by
  obtain ⟨letters, cs, isText, rfl, text⟩ := readString_only read
  refine ⟨letters, cs, isText, rfl, ?_⟩
  unfold Input.dropChars at text
  dsimp only at text
  rw [first, List.drop_one, List.tail_cons] at text
  rw [first, text]

/-! Values. -/

theorem readConstant_only {v : Json} {c : Char} {letters cs : List Char} {place : Position}
    {found : Json} {next : Input}
    (read : readConstant v letters ⟨c :: cs, place⟩ = .ok (found, next)) :
    found = v ∧ c :: cs = c :: letters ++ next.rest := by
  obtain ⟨stop, word, read⟩ := bind_eq_ok.1 read
  cases read
  exact ⟨rfl, congrArg (c :: ·) (readWord_only word)⟩

theorem readScalar_only {fuel : Nat} {c : Char} {cs : List Char} {place : Position} {v : Json}
    {next : Input} (read : readScalar fuel c ⟨c :: cs, place⟩ = .ok (v, next)) :
    ∃ ds, IsScalar v ds ∧ c :: cs = ds ++ next.rest := by
  unfold readScalar at read
  split at read
  · rename_i same
    obtain ⟨rfl, text⟩ := readConstant_only read
    rw [eq_of_beq same] at text ⊢
    exact ⟨_, .null, text⟩
  split at read
  · rename_i same
    obtain ⟨rfl, text⟩ := readConstant_only read
    rw [eq_of_beq same] at text ⊢
    exact ⟨_, .yes, text⟩
  split at read
  · rename_i same
    obtain ⟨rfl, text⟩ := readConstant_only read
    rw [eq_of_beq same] at text ⊢
    exact ⟨_, .no, text⟩
  split at read
  · rename_i same
    obtain ⟨ds, ⟨n, numeral, negative, fits⟩, text⟩ := readNumber_only _ _ _ _ read
    rw [eq_of_beq same]
    exact ⟨'-' :: ds, .negative numeral negative fits, congrArg ('-' :: ·) text⟩
  split at read
  · obtain ⟨ds, ⟨n, numeral, positive, fits⟩, text⟩ := readNumber_only _ _ _ _ read
    exact ⟨ds, .positive numeral positive fits, text⟩
  split at read
  · rename_i same
    obtain ⟨⟨s, stop⟩, quoted, read⟩ := bind_eq_ok.1 read
    cases read
    obtain ⟨letters, ds, isText, rfl, text⟩ := quotedString_only rfl quoted
    refine ⟨'\x22' :: (ds ++ ['\x22']), .text isText, ?_⟩
    rw [← eq_of_beq same, List.cons_append, List.append_assoc]
    rw [← eq_of_beq same] at text
    exact text
  · cases read

/-! Containers. -/

section Parts

variable {fuel depth : Nat} {all : Bool} {input start : Input} {c : Char} {cs : List Char}
  {place : Position}

/-- A value that is read whole is spelled behind blanks. -/
def NodeSpells (depth : Nat) (input : Input) (read : Node × Option Input) : Prop :=
  ∀ v, read.1.value = .ok v → ∃ next bs cs, read.2 = some next ∧ IsSpaces bs ∧
    Spells depth (.value v) cs ∧ input.rest = bs ++ (cs ++ next.rest)

/-- Items that are read up to the end of their list are spelled there. -/
def ItemsSpell (depth : Nat) (all : Bool) (input : Input)
    (read : List Node × Ending × Option Input) : Prop :=
  ∀ vs stop, Node.values read.1 = .ok vs → read.2.1.stop = .ok stop → ∃ next cs,
    read.2.2 = some next ∧ Spells depth (.items all vs) cs ∧ input.rest = cs ++ next.rest

def FieldsSpell (depth : Nat) (all : Bool) (input : Input)
    (read : List (Key × Node × Option Position) × Ending × Option Input) : Prop :=
  ∀ fs stop, Node.fieldValues read.1 = .ok fs → read.2.1.stop = .ok stop → ∃ next cs,
    read.2.2 = some next ∧ Spells depth (.fields all fs) cs ∧ input.rest = cs ++ next.rest

theorem exists_spaces (input : Input) :
    ∃ bs, IsSpaces bs ∧ input.rest = bs ++ input.skipSpace.rest := by
  obtain ⟨stop, skipped⟩ := skipSpace_eq input.rest input.place
  have spaces : IsSpaces (input.rest.takeWhile isSpace) :=
    fun c member => List.all_eq_true.1 List.all_takeWhile c member
  refine ⟨input.rest.takeWhile isSpace, spaces, ?_⟩
  change input.rest = input.rest.takeWhile isSpace ++ (Input.skipSpace ⟨input.rest, input.place⟩).rest
  rw [skipped, List.takeWhile_append_dropWhile]

theorem nodeSpells_faulty (fault : Fault) (start : Input) :
    NodeSpells depth input (faultyNode fault start) := by
  intro v value
  unfold faultyNode at value
  split at value <;> cases value

theorem nodeSpells_leaf (skipped : input.skipSpace = ⟨c :: cs, place⟩) :
    NodeSpells depth input (leafNode ⟨c :: cs, place⟩ (readScalar fuel c ⟨c :: cs, place⟩)) := by
  unfold leafNode
  cases read : readScalar fuel c ⟨c :: cs, place⟩ with
  | error fault => exact nodeSpells_faulty fault _
  | ok found =>
    intro v value
    cases value
    obtain ⟨ds, scalar, text⟩ := readScalar_only read
    obtain ⟨bs, spaces, split⟩ := exists_spaces input
    rw [skipped] at split
    refine ⟨found.2, bs, ds, rfl, spaces, .scalar scalar, ?_⟩
    rw [split, text]

theorem nodeSpells_list (skipped : input.skipSpace = ⟨'[' :: cs, place⟩) (allowed : 0 < depth)
    (items : ItemsSpell depth true ⟨cs, place.after '['⟩
      (readItems fuel depth true ⟨cs, place.after '['⟩)) :
    NodeSpells (depth + 1) input (readNode (fuel + 1) (depth + 1) input) := by
  intro v value
  rw [readNode_list skipped allowed] at value ⊢
  rw [Node.value] at value
  obtain ⟨vs, values, rest⟩ := bind_eq_ok.1 value
  obtain ⟨stop, closed, rest⟩ := bind_eq_ok.1 rest
  cases rest
  obtain ⟨next, ds, found, spelled, text⟩ := items vs stop values closed
  obtain ⟨bs, spaces, split⟩ := exists_spaces input
  refine ⟨next, bs, '[' :: ds, found, spaces, .list allowed spelled, ?_⟩
  rw [split, skipped]
  exact congrArg (bs ++ '[' :: ·) text

theorem nodeSpells_object (skipped : input.skipSpace = ⟨'\x7b' :: cs, place⟩) (allowed : 0 < depth)
    (fields : FieldsSpell depth true ⟨cs, place.after '\x7b'⟩
      (readFields fuel depth true ⟨cs, place.after '\x7b'⟩)) :
    NodeSpells (depth + 1) input (readNode (fuel + 1) (depth + 1) input) := by
  intro v value
  rw [readNode_object skipped allowed] at value ⊢
  rw [Node.value] at value
  obtain ⟨fs, values, rest⟩ := bind_eq_ok.1 value
  obtain ⟨stop, closed, rest⟩ := bind_eq_ok.1 rest
  cases rest
  obtain ⟨next, ds, found, spelled, text⟩ := fields fs stop values closed
  obtain ⟨bs, spaces, split⟩ := exists_spaces input
  refine ⟨next, bs, '\x7b' :: ds, found, spaces, .object allowed spelled, ?_⟩
  rw [split, skipped]
  exact congrArg (bs ++ '\x7b' :: ·) text

theorem readNode_deep (skipped : input.skipSpace = ⟨c :: cs, place⟩) (deep : depth ≤ 1)
    (opens : c = '[' ∨ c = '\x7b') : readNode (fuel + 1) depth input =
      faultyNode (Input.faultAhead ⟨c :: cs, place⟩ .tooDeep) ⟨c :: cs, place⟩ := by
  rw [readNode, skipped]
  dsimp only
  rw [if_pos (by simpa using opens), if_pos deep]

/-- A value is spelled if the parts of containers are. -/
theorem nodeSpells_succ
    (items : ∀ depth all input, ItemsSpell depth all input (readItems fuel depth all input))
    (fields : ∀ depth all input, FieldsSpell depth all input (readFields fuel depth all input)) :
    NodeSpells depth input (readNode (fuel + 1) depth input) := by
  cases skipped : input.skipSpace with
  | mk cs place =>
    cases cs with
    | nil =>
      intro v value
      rw [readNode, skipped] at value
      cases value
    | cons c cs =>
      by_cases opens : c = '[' ∨ c = '\x7b'
      · by_cases deep : depth ≤ 1
        · rw [readNode_deep skipped deep opens]
          exact nodeSpells_faulty _ _
        · obtain ⟨less, rfl⟩ : ∃ less, depth = less + 1 :=
            Nat.exists_eq_succ_of_ne_zero (by omega)
          rcases opens with rfl | rfl
          · exact nodeSpells_list skipped (by omega) (items _ _ _)
          · exact nodeSpells_object skipped (by omega) (fields _ _ _)
      · rw [not_or] at opens
        rw [readNode_scalar skipped opens.1 opens.2]
        exact nodeSpells_leaf skipped

theorem isSpaces_append {bs bs' : List Char} (front : IsSpaces bs) (back : IsSpaces bs') :
    IsSpaces (bs ++ bs') := by
  intro c member
  rcases List.mem_append.1 member with first | second
  · exact front c first
  · exact back c second

theorem IsLead.append {lead bs : List Char} (before : IsLead all lead) (spaces : IsSpaces bs) :
    IsLead all (lead ++ bs) := by
  cases before with
  | first front => exact .first (isSpaces_append front spaces)
  | further front back =>
    rw [List.append_assoc]
    exact .further front (isSpaces_append back spaces)

/-- An item and those behind it that are read up to the end of their list are spelled behind
whatever may stand before an item. -/
def ItemSpells (depth : Nat) (input : Input) (read : List Node × Ending × Option Input) : Prop :=
  ∀ vs stop, Node.values read.1 = .ok vs → read.2.1.stop = .ok stop → ∃ next cs,
    read.2.2 = some next ∧ input.rest = cs ++ next.rest ∧
      ∀ all lead, IsLead all lead → Spells depth (.items all vs) (lead ++ cs)

theorem itemSpells (node : NodeSpells depth input (readNode fuel depth input))
    (items : ∀ input, ItemsSpell depth false input (readItems fuel depth false input)) :
    ItemSpells depth input (readItem fuel depth input) := by
  intro vs stop values closed
  unfold readItem at values closed ⊢
  cases read : readNode fuel depth input with
  | mk node' next =>
    rw [read] at node values closed
    cases next with
    | none => cases closed
    | some next =>
      dsimp only at values closed ⊢
      rw [Node.values] at values
      obtain ⟨v, value, values⟩ := bind_eq_ok.1 values
      obtain ⟨ws, others, same⟩ := bind_eq_ok.1 values
      cases same
      obtain ⟨middle, bs, cs, found, spaces, spelled, text⟩ := node v value
      obtain rfl := Option.some.inj found
      obtain ⟨last, more, found, spelledMore, text'⟩ := items _ ws stop others closed
      refine ⟨last, bs ++ (cs ++ more), found, ?_, fun all lead before => ?_⟩
      · rw [text, text', List.append_assoc, List.append_assoc]
      · rw [← List.append_assoc]
        exact .item (before.append spaces) spelled spelledMore

theorem itemsSpell_item {lead : List Char}
    (item : ItemSpells depth start (readItem fuel depth start)) (before : IsLead all lead)
    (split : input.rest = lead ++ start.rest) :
    ItemsSpell depth all input (readItem fuel depth start) := by
  intro vs stop values closed
  obtain ⟨next, cs, found, text, spelled⟩ := item vs stop values closed
  refine ⟨next, lead ++ cs, found, spelled all lead before, ?_⟩
  rw [split, text, List.append_assoc]

theorem itemsSpell_further (item : ∀ start, ItemSpells depth start (readItem fuel depth start))
    (skipped : input.skipSpace = ⟨',' :: cs, place⟩) :
    ItemsSpell depth false input (readItems (fuel + 1) depth false input) := by
  obtain ⟨bs, spaces, split⟩ := exists_spaces input
  obtain ⟨bs', spaces', split'⟩ := exists_spaces ⟨cs, place.after ','⟩
  rw [skipped] at split
  cases next : Input.skipSpace ⟨cs, place.after ','⟩ with
  | mk ds stop =>
    rw [next] at split'
    have fails : (∀ d ∈ ds.head?, d = ']') →
        ItemsSpell depth false input (readItems (fuel + 1) depth false input) := by
      have behind : Input.skipSpace (Input.dropChars 1 ⟨',' :: cs, place⟩) = ⟨ds, stop⟩ := next
      intro none vs stop values closed
      rw [readItems, skipped] at closed
      dsimp only at closed
      rw [if_neg (by decide), if_neg (by decide), if_pos (by decide), behind] at closed
      cases ds with
      | nil => cases closed
      | cons d ds =>
        dsimp only at closed
        rw [if_pos (by simpa using none d rfl)] at closed
        cases closed
    cases ds with
    | nil => exact fails (by rintro _ ⟨⟩)
    | cons d ds =>
      by_cases ends : d = ']'
      · refine fails ?_
        rintro _ ⟨⟩
        exact ends
      · rw [readItems_further skipped next ends]
        refine itemsSpell_item (item _) (.further spaces spaces') ?_
        rw [split, List.append_assoc]
        exact congrArg (bs ++ ',' :: ·) split'

theorem itemsSpell_succ
    (nodes : ∀ input, NodeSpells depth input (readNode fuel depth input))
    (items : ∀ input, ItemsSpell depth false input (readItems fuel depth false input)) :
    ItemsSpell depth all input (readItems (fuel + 1) depth all input) := by
  obtain ⟨bs, spaces, split⟩ := exists_spaces input
  have item : ∀ start, ItemSpells depth start (readItem fuel depth start) :=
    fun start => itemSpells (nodes start) items
  cases skipped : input.skipSpace with
  | mk cs place =>
    rw [skipped] at split
    dsimp only at split
    cases cs with
    | nil =>
      intro vs stop values closed
      rw [readItems, skipped] at closed
      cases closed
    | cons c cs =>
      by_cases ends : c = ']'
      · subst ends
        rw [readItems_end skipped]
        intro vs stop values closed
        cases values
        refine ⟨_, _, rfl, .noItem spaces, ?_⟩
        rw [split, List.append_assoc]
        rfl
      cases all with
      | true =>
        rw [readItems_first skipped ends]
        exact itemsSpell_item (item _) (.first spaces) split
      | false =>
        by_cases comma : c = ','
        · subst comma
          exact itemsSpell_further item skipped
        · intro vs stop values closed
          rw [readItems, skipped] at closed
          dsimp only at closed
          rw [if_neg (by simpa using ends), if_neg (by decide), if_neg (by simpa using comma)]
            at closed
          cases closed

/-! Fields. -/

theorem readKey_only {key : Key} {next : Option Input} {name : String}
    (read : readKey fuel ⟨c :: cs, place⟩ = (key, next)) (named : key.text = .ok name) :
    ∃ stop letters ds, next = some stop ∧ IsText letters ds ∧ name = String.ofList letters ∧
      cs = ds ++ '\x22' :: stop.rest := by
  unfold readKey at read
  split at read
  · rename_i s stop quoted
    cases read
    cases named
    obtain ⟨letters, ds, isText, same, text⟩ := quotedString_only rfl quoted
    exact ⟨stop, letters, ds, rfl, isText, same, (List.cons.inj text).2⟩
  · split at read <;> · cases read; cases named

/-- A field and those behind it that are read up to the end of their object are spelled behind
whatever may stand before a field. -/
def FieldSpells (depth : Nat) (input : Input)
    (read : List (Key × Node × Option Position) × Ending × Option Input) : Prop :=
  ∀ fs stop, Node.fieldValues read.1 = .ok fs → read.2.1.stop = .ok stop → ∃ next cs,
    read.2.2 = some next ∧ input.rest = cs ++ next.rest ∧
      ∀ all lead, IsLead all lead → Spells depth (.fields all fs) (lead ++ cs)

theorem fieldValueSpells {key : Key} {fs : List (String × Json)} {stop : Option Position}
    (node : NodeSpells depth input (readNode fuel depth input))
    (fields : ∀ input, FieldsSpell depth false input (readFields fuel depth false input))
    (values : Node.fieldValues (readFieldValue fuel depth key input).1 = .ok fs)
    (closed : (readFieldValue fuel depth key input).2.1.stop = .ok stop) :
    ∃ next name v gs bs cs more, (readFieldValue fuel depth key input).2.2 = some next ∧
      key.text = .ok name ∧ fs = (name, v) :: gs ∧ IsSpaces bs ∧ Spells depth (.value v) cs ∧
      Spells depth (.fields false gs) more ∧ input.rest = bs ++ (cs ++ (more ++ next.rest)) := by
  unfold readFieldValue at values closed ⊢
  cases read : readNode fuel depth input with
  | mk node' next =>
    rw [read] at node values closed
    cases next with
    | none => cases closed
    | some next =>
      dsimp only at values closed ⊢
      rw [Node.fieldValues] at values
      obtain ⟨name, named, values⟩ := bind_eq_ok.1 values
      obtain ⟨v, value, values⟩ := bind_eq_ok.1 values
      obtain ⟨gs, others, same⟩ := bind_eq_ok.1 values
      cases same
      obtain ⟨middle, bs, cs, found, spaces, spelled, text⟩ := node v value
      obtain rfl := Option.some.inj found
      obtain ⟨last, more, found, spelledMore, text'⟩ := fields _ gs stop others closed
      exact ⟨last, name, v, gs, bs, cs, more, found, named, rfl, spaces, spelled, spelledMore,
        by rw [text, text']⟩

theorem fieldSpells (nodes : ∀ input, NodeSpells depth input (readNode fuel depth input))
    (fields : ∀ input, FieldsSpell depth false input (readFields fuel depth false input)) :
    FieldSpells depth ⟨'\x22' :: cs, place⟩ (readField fuel depth ⟨'\x22' :: cs, place⟩) := by
  intro fs stop values closed
  unfold readField at values closed ⊢
  cases keyRead : readKey fuel ⟨'\x22' :: cs, place⟩ with
  | mk key next =>
    rw [keyRead] at values closed
    cases next with
    | none => cases closed
    | some next =>
      obtain ⟨bs, spaces, split⟩ := exists_spaces next
      dsimp only at values closed ⊢
      cases colon : next.skipSpace with
      | mk ds colonPlace =>
        rw [colon] at values closed split
        cases ds with
        | nil => cases closed
        | cons d ds =>
          dsimp only at values closed split ⊢
          by_cases marks : d = ':'
          · subst marks
            rw [if_pos (beq_self_eq_true _)] at values closed ⊢
            obtain ⟨last, name, v, gs, bs', cs', more, found, named, rfl, spaces', spelled,
              spelledMore, text⟩ := fieldValueSpells (nodes _) fields values closed
            obtain ⟨stop, letters, written, same, isText, rfl, quoted⟩ := readKey_only keyRead named
            obtain rfl := Option.some.inj same
            refine ⟨last, _, found, ?_, fun all lead before =>
              .field before isText spaces spaces' spelled spelledMore⟩
            have behind : ds = bs' ++ (cs' ++ (more ++ last.rest)) := text
            simp only [quoted, split, behind, List.cons_append, List.append_assoc]
          · rw [if_neg (by simpa using marks)] at closed
            cases closed

theorem fieldsSpell_field {lead : List Char}
    (field : FieldSpells depth start (readField fuel depth start)) (before : IsLead all lead)
    (split : input.rest = lead ++ start.rest) :
    FieldsSpell depth all input (readField fuel depth start) := by
  intro fs stop values closed
  obtain ⟨next, cs, found, text, spelled⟩ := field fs stop values closed
  refine ⟨next, lead ++ cs, found, spelled all lead before, ?_⟩
  rw [split, text, List.append_assoc]

theorem fieldsSpell_further
    (field : ∀ cs place, FieldSpells depth ⟨'\x22' :: cs, place⟩
      (readField fuel depth ⟨'\x22' :: cs, place⟩))
    (skipped : input.skipSpace = ⟨',' :: cs, place⟩) :
    FieldsSpell depth false input (readFields (fuel + 1) depth false input) := by
  obtain ⟨bs, spaces, split⟩ := exists_spaces input
  obtain ⟨bs', spaces', split'⟩ := exists_spaces ⟨cs, place.after ','⟩
  rw [skipped] at split
  cases next : Input.skipSpace ⟨cs, place.after ','⟩ with
  | mk ds stop =>
    rw [next] at split'
    have behind : Input.skipSpace (Input.dropChars 1 ⟨',' :: cs, place⟩) = ⟨ds, stop⟩ := next
    cases ds with
    | nil =>
      intro fs stop values closed
      rw [readFields, skipped] at closed
      dsimp only at closed
      rw [if_neg (by decide), if_neg (by decide), if_pos (by decide), behind] at closed
      cases closed
    | cons d ds =>
      by_cases quote : d = '\x22'
      · subst quote
        rw [readFields_further skipped next]
        refine fieldsSpell_field (field _ _) (.further spaces spaces') ?_
        rw [split, List.append_assoc]
        exact congrArg (bs ++ ',' :: ·) split'
      · intro fs stop values closed
        rw [readFields, skipped] at closed
        dsimp only at closed
        rw [if_neg (by decide), if_neg (by decide), if_pos (by decide), behind] at closed
        dsimp only at closed
        rw [if_neg (by simpa using quote)] at closed
        split at closed <;> cases closed

theorem fieldsSpell_succ (nodes : ∀ input, NodeSpells depth input (readNode fuel depth input))
    (fields : ∀ input, FieldsSpell depth false input (readFields fuel depth false input)) :
    FieldsSpell depth all input (readFields (fuel + 1) depth all input) := by
  obtain ⟨bs, spaces, split⟩ := exists_spaces input
  have field : ∀ cs place, FieldSpells depth ⟨'\x22' :: cs, place⟩
      (readField fuel depth ⟨'\x22' :: cs, place⟩) := fun _ _ => fieldSpells nodes fields
  cases skipped : input.skipSpace with
  | mk cs place =>
    rw [skipped] at split
    dsimp only at split
    cases cs with
    | nil =>
      intro fs stop values closed
      rw [readFields, skipped] at closed
      cases closed
    | cons c cs =>
      by_cases ends : c = '\x7d'
      · subst ends
        rw [readFields_end skipped]
        intro fs stop values closed
        cases values
        refine ⟨_, _, rfl, .noField spaces, ?_⟩
        rw [split, List.append_assoc]
        rfl
      cases all with
      | true =>
        by_cases quote : c = '\x22'
        · subst quote
          rw [readFields_first skipped]
          exact fieldsSpell_field (field _ _) (.first spaces) split
        · intro fs stop values closed
          rw [readFields, skipped] at closed
          dsimp only at closed
          rw [if_neg (by simpa using ends), if_pos rfl, if_neg (by simpa using quote)] at closed
          cases closed
      | false =>
        by_cases comma : c = ','
        · subst comma
          exact fieldsSpell_further field skipped
        · intro fs stop values closed
          rw [readFields, skipped] at closed
          dsimp only at closed
          rw [if_neg (by simpa using ends), if_neg (by decide), if_neg (by simpa using comma)]
            at closed
          cases closed

/-- Whatever is read whole is spelled. -/
theorem partsSpell (fuel : Nat) :
    (∀ depth input, NodeSpells depth input (readNode fuel depth input)) ∧
    (∀ depth all input, ItemsSpell depth all input (readItems fuel depth all input)) ∧
    ∀ depth all input, FieldsSpell depth all input (readFields fuel depth all input) := by
  induction fuel with
  | zero =>
    refine ⟨fun depth input => ?_, fun depth all input => ?_, fun depth all input => ?_⟩
    case refine_1 =>
      intro v value
      cases value
    all_goals
      intro _ stop _ closed
      cases closed
  | succ fuel ih =>
    obtain ⟨nodes, items, fields⟩ := ih
    exact ⟨fun depth input => nodeSpells_succ items fields,
      fun depth all input => itemsSpell_succ (nodes depth) (items depth false),
      fun depth all input => fieldsSpell_succ (nodes depth) (fields depth false)⟩

end Parts

/-! Texts. -/

/-- A text is one value between blanks. -/
def SpellsText (v : Json) (cs : List Char) : Prop :=
  ∃ lead core trail, cs = lead ++ (core ++ trail) ∧ IsSpaces lead ∧ IsSpaces trail ∧
    Spells depthLimit (.value v) core

theorem endOfText_eq_ok {next : Input} : endOfText (some next) = .ok () ↔ IsSpaces next.rest := by
  obtain ⟨rest, place⟩ := next
  obtain ⟨stop, skipped⟩ := skipSpace_eq rest place
  unfold endOfText
  dsimp only
  rw [skipped]
  dsimp only
  by_cases blank : rest.dropWhile isSpace = []
  · rw [if_pos blank]
    exact iff_of_true rfl (List.dropWhile_eq_nil_iff.1 blank)
  · rw [if_neg blank]
    exact iff_of_false nofun (fun spaces => blank (List.dropWhile_eq_nil_iff.2 spaces))

/-- A text is read as a value just if it spells the value. -/
theorem read_eq_ok {s : String} {v : Json} : read s = .ok v ↔ SpellsText v s.toList := by
  have unfolded : read s = (do
      let value ← (Node.ofText s).1.value
      let _ ← endOfText (Node.ofText s).2
      .ok value) := rfl
  rw [unfolded]
  constructor
  case mp =>
    intro read
    obtain ⟨w, value, read⟩ := bind_eq_ok.1 read
    obtain ⟨_, ends, read⟩ := bind_eq_ok.1 read
    cases read
    obtain ⟨next, lead, core, found, spaces, spelled, text⟩ := (partsSpell _).1 _ _ v value
    have rest : (Node.ofText s).2 = some next := found
    rw [rest] at ends
    exact ⟨lead, core, next.rest, text, spaces, endOfText_eq_ok.1 ends, spelled⟩
  case mpr =>
    rintro ⟨lead, core, trail, text, spaces, spaces', spelled⟩
    have ends : EndsValue (trail ++ []) := endsValue_spaces spaces' nofun
    rw [List.append_nil] at ends
    have enough : 2 * core.length ≤ 2 * s.toList.length + 4 := by
      rw [text, List.length_append, List.length_append]
      omega
    obtain ⟨node, stop, found, value⟩ := readsPart spelled lead trail _ ⟨1, 0⟩ spaces ends enough
    rw [← text] at found
    have whole : Node.ofText s = (node, some ⟨trail, stop⟩) := found
    rw [whole, value, endOfText_eq_ok.2 spaces']
    rfl

/-! Lists. -/

/-- No number is a list. -/
theorem value?_ne_arr (n : Numeral) (vs : List Json) : n.value? ≠ some (.arr vs) := by
  unfold Numeral.value?
  dsimp only
  split
  · repeat' split
    all_goals nofun
  · rw [ne_eq, Option.map_eq_some_iff]
    rintro ⟨x, -, same⟩
    cases same

theorem Spells.exists_items {depth : Nat} {vs : List Json} {cs : List Char}
    (spelled : Spells depth (.value (.arr vs)) cs) :
    ∃ body, cs = '[' :: body ∧ ∃ inner, Spells inner (.items true vs) body := by
  cases spelled with
  | scalar scalar =>
    cases scalar with
    | positive _ _ value | negative _ _ value => exact absurd value (value?_ne_arr _ _)
  | list _ items => exact ⟨_, rfl, _, items⟩

/-- A list ends with its bracket. -/
theorem Spells.exists_bracket {depth : Nat} {all : Bool} {vs : List Json} {cs : List Char}
    (spelled : Spells depth (.items all vs) cs) : ∃ front, cs = front ++ [']'] := by
  generalize meant : Meaning.items all vs = m at spelled
  induction spelled generalizing all vs with
  | @noItem _ _ bs _ => exact ⟨bs, rfl⟩
  | @item _ _ _ _ lead cs _ _ _ _ _ items =>
    obtain ⟨front, rfl⟩ := items rfl
    exact ⟨lead ++ (cs ++ front), by simp⟩
  | _ => cases meant

end ThreatHunt.Json
