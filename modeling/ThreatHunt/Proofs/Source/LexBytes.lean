import ThreatHunt.Proofs.Source.Met
import ThreatHunt.Proofs.Source.QuotedBytes

/-!
Splitting a statement into tokens byte by byte. Texts are cut out of the source at the bytes where a
lexeme begins and ends; at each of these bytes a character begins.
-/

namespace ThreatHunt.Source

open Text (Located locateFrom byteLength bytes utf8 cut? lineAt? isHigh ofAscii)

/-! The lexer of bytes. Where it cuts the source, the cut is checked. -/

/-- A lexeme, if there is one, and the byte behind it. -/
abbrev FoundAt : Type := Except Misread (Option Lexeme × Nat)

def continuationAt? (src : String) (stop i : Nat) : Option FoundAt := do
  let line ← lineAt? src (i + 1) stop
  return if Text.trim line == "" then .ok (none, i + 1 + byteLength line.toList)
    else .error ⟨i, .strayBackslash⟩

/-- The quoted text whose opening quote stands at byte `i`. -/
def quotedAt? (make : String → Lexeme) (src : String) (quote : UInt8) (i : Nat) :
    Option FoundAt := do
  let read ← quotedBytes src quote (i + 1) ((utf8 src).drop (i + 1))
  return match read with
    | some (text, next) => .ok (some (make (String.ofList text)), next)
    | none => .error ⟨i, .openText⟩

def startsNumberByte (previous : Option Lexeme) (b : UInt8) (rest : List UInt8) : Bool :=
  ofAscii Char.isDigit b || (b == '-'.toUInt8 && !(previous.map Lexeme.endsOperand).getD false &&
    rest.head?.any (ofAscii Char.isDigit))

def numberAt? (src : String) (i : Nat) (rest : List UInt8) : Option FoundAt := do
  let next := i + 1 + (rest.takeWhile (ofAscii isNumberPart)).length
  let text ← cut? src i next
  return .ok (some (.number text), next)

/-- The number of bytes of a word behind its first. -/
def wordBytes : List UInt8 → Nat
  | [] => 0
  | b :: rest =>
    if ofAscii isWordPart b then wordBytes rest + 1
    else if b == '-'.toUInt8 && rest.head?.any (ofAscii isWordPart) then wordBytes rest + 1
    else 0

def isUriByte (b : UInt8) : Bool :=
  !ofAscii Text.isAsciiBlank b && b != ','.toUInt8 && b != ';'.toUInt8

def uriBytes? (bs : List UInt8) : Option Nat :=
  let scheme := (bs.takeWhile (ofAscii isSchemePart)).length
  let rest := bs.drop scheme
  if rest.take 3 == [':'.toUInt8, '/'.toUInt8, '/'.toUInt8] then
    some (scheme + 3 + ((rest.drop 3).takeWhile isUriByte).length)
  else none

def nameAt? (src : String) (i : Nat) (b : UInt8) (rest : List UInt8) : Option FoundAt :=
  match uriBytes? (b :: rest) with
  | some n => do
    let text ← cut? src i (i + n)
    return .ok (some (.uri text), i + n)
  | none => do
    let next := i + 1 + wordBytes rest
    let text ← cut? src i next
    return .ok (some (.word text), next)

/-- The sign at a byte and the number of further bytes that it takes. -/
def markBytes? (b : UInt8) (rest : List UInt8) : Option (Mark × Nat) :=
  let equals := rest.head? == some '='.toUInt8
  if b == '('.toUInt8 then some (.leftParen, 0)
  else if b == ')'.toUInt8 then some (.rightParen, 0)
  else if b == '['.toUInt8 then some (.leftBracket, 0)
  else if b == ']'.toUInt8 then some (.rightBracket, 0)
  else if b == '\x7b'.toUInt8 then some (.leftBrace, 0)
  else if b == '\x7d'.toUInt8 then some (.rightBrace, 0)
  else if b == ','.toUInt8 then some (.comma, 0)
  else if b == ':'.toUInt8 then some (.colon, 0)
  else if b == '.'.toUInt8 then some (.dot, 0)
  else if b == '+'.toUInt8 then some (.plus, 0)
  else if b == '*'.toUInt8 then some (.star, 0)
  else if b == '='.toUInt8 then some (.equal, if equals then 1 else 0)
  else if b == '<'.toUInt8 then
    if equals then some (.lessEqual, 1)
    else if rest.head? == some '>'.toUInt8 then some (.notEqual, 1)
    else some (.less, 0)
  else if b == '>'.toUInt8 then some (if equals then (.greaterEqual, 1) else (.greater, 0))
  else if b == '!'.toUInt8 && equals then some (.notEqual, 1)
  else none

def signAt? (src : String) (i : Nat) (b : UInt8) (rest : List UInt8) : Option FoundAt :=
  match markBytes? b rest with
  | some (mark, n) => some (.ok (some (.mark mark), i + 1 + n))
  | none => do
    let char ← characterAt? src i
    return .error ⟨i, .strayCharacter (char.getD '?')⟩

/-- The lexeme at byte `i` of a statement that ends at byte `stop`. -/
def lexemeAt? (src : String) (stop : Nat) (previous : Option Lexeme) (i : Nat) (b : UInt8)
    (rest : List UInt8) : Option FoundAt :=
  if b == '\\'.toUInt8 then continuationAt? src stop i
  else if isQuoteByte b then quotedAt? .text src b i
  else if (b == 't'.toUInt8 || b == 'T'.toUInt8) && rest.head? == some '\''.toUInt8 then
    quotedAt? .instant src '\''.toUInt8 (i + 1)
  else if startsNumberByte previous b rest then numberAt? src i rest
  else if ofAscii isWordStart b then nameAt? src i b rest
  else signAt? src i b rest

/-- The tokens of a statement from byte `i` on, if all cuts fall between characters. -/
def lexBytes (src : String) (stop : Nat) (previous : Option Lexeme) (i : Nat) :
    List UInt8 → Option (Except Misread (List Token))
  | [] => some (.ok [])
  | b :: rest =>
    if ofAscii Text.isAsciiBlank b then lexBytes src stop previous (i + 1) rest
    else do
      match ← lexemeAt? src stop previous i b rest with
      | .error misread => return .error misread
      | .ok (none, next) => lexBytes src stop previous next (rest.drop (next - (i + 1)))
      | .ok (some lexeme, next) =>
        let more ← lexBytes src stop (some lexeme) next (rest.drop (next - (i + 1)))
        return more.map (⟨lexeme, i⟩ :: ·)
termination_by bs => bs.length
decreasing_by all_goals simp only [List.length_cons, List.length_drop]; omega

/-! Classes of characters. -/

theorem utf8Size_of_le {c : Char} (small : c.toNat ≤ 127) : c.utf8Size = 1 :=
  Char.utf8Size_eq_one_iff.2 (UInt32.le_iff_toNat_le.2 small)

theorem utf8Size_of_isAlphanum {c : Char} (member : c.isAlphanum = true) : c.utf8Size = 1 := by
  apply utf8Size_of_le
  have either : c.isAlpha = true ∨ c.isDigit = true := Bool.or_eq_true _ _ ▸ member
  rcases either with letter | digit
  · have begins : isWordStart c = true := by rw [isWordStart, letter, Bool.true_or]
    have code := (code_of_isWordStart begins).2
    omega
  · have both := Bool.and_eq_true _ _ ▸ digit
    have code : c.toNat ≤ 57 := UInt32.le_iff_toNat_le.1 (of_decide_eq_true both.2)
    omega

/-- A class of characters of ASCII. -/
def IsSmall (inClass : Char → Bool) : Prop := ∀ c, inClass c = true → c.utf8Size = 1

theorem isSmall_isDigit : IsSmall Char.isDigit := fun c member =>
  utf8Size_of_isAlphanum (by simp [Char.isAlphanum, member])

theorem isSmall_isWordPart : IsSmall isWordPart := by
  intro c member
  rw [isWordPart, Bool.or_eq_true, beq_iff_eq] at member
  rcases member with letter | rfl
  · exact utf8Size_of_isAlphanum letter
  · rfl

theorem isSmall_isWordStart : IsSmall isWordStart := by
  intro c member
  apply isSmall_isWordPart
  rw [isWordStart, Bool.or_eq_true] at member
  rcases member with letter | line
  · simp [isWordPart, Char.isAlphanum, letter]
  · simp [isWordPart, line]

theorem isSmall_isNumberPart : IsSmall isNumberPart := by
  intro c member
  simp only [isNumberPart, Bool.or_eq_true, beq_iff_eq] at member
  rcases member with ((digit | rfl) | rfl) | rfl
  · exact isSmall_isDigit c digit
  all_goals rfl

theorem isSmall_isSchemePart : IsSmall isSchemePart := by
  intro c member
  simp only [isSchemePart, Bool.or_eq_true, beq_iff_eq] at member
  rcases member with ((letter | rfl) | rfl) | rfl
  · exact utf8Size_of_isAlphanum letter
  all_goals rfl

theorem isSmall_isAsciiBlank : IsSmall Text.isAsciiBlank := by
  intro c member
  simp only [Text.isAsciiBlank, Bool.or_eq_true, beq_iff_eq] at member
  rcases member with (((rfl | rfl) | rfl) | rfl) | rfl
  all_goals rfl

theorem agrees_isUriByte : Text.Agrees isUriByte isUriPart := by
  intro c b member
  have blank := Text.agrees_ofAscii isSmall_isAsciiBlank c b member
  rcases Text.ascii_or_high c with ⟨small, one⟩ | ⟨large, high⟩
  · rw [one, List.mem_singleton] at member
    subst member
    rw [isUriByte, isUriPart, blank, bne, bne, beq_toUInt8 small rfl, beq_toUInt8 small rfl]
    rfl
  · have far := high b member
    have other : ∀ {d : Char}, d.utf8Size = 1 → c ≠ d := ne_of_large large
    have differs : ∀ {d : Char}, d.utf8Size = 1 → b ≠ d.toUInt8 := Text.ne_of_isHigh far
    rw [isUriByte, isUriPart, blank, bne, bne, bne, bne, beq_eq_false_iff_ne.2 (other rfl),
      beq_eq_false_iff_ne.2 (other rfl), beq_eq_false_iff_ne.2 (differs rfl),
      beq_eq_false_iff_ne.2 (differs rfl)]

/-! Characters before the end of a statement. -/

section Runs

variable {src : String} {i : Nat} {c d : Char} {inner behind : List Char}

theorem beyond_locateFrom (i : Nat) (behind : List Char) : Beyond i (locateFrom i behind) :=
  fun _ member => (Text.offset_of_mem_locateFrom member).1

theorem inside_self (i : Nat) (cs : List Char) : Inside (i + byteLength cs) i cs := Nat.le_refl _

/-- A run before the end of a statement. -/
theorem takeWhile_locateFrom {stop start : Nat} {cs : List Char} (inside : Inside stop start cs)
    (inClass : Char → Bool) :
    (locateFrom start cs).takeWhile (fun d => d.offset < stop && inClass d.char) =
      locateFrom start (cs.takeWhile inClass) := by
  induction cs generalizing start with
  | nil => rfl
  | cons c cs ih =>
    obtain ⟨here, later⟩ := inside.cons
    rw [locateFrom, List.takeWhile_cons, List.takeWhile_cons]
    cases inClass c <;> simp [here, ih later, locateFrom]

theorem head?_beq (small : d.utf8Size = 1) (cs : List Char) :
    ((bytes cs).head? == some d.toUInt8) = (cs.head? == some d) := by
  rw [Bool.eq_iff_iff, beq_iff_eq, beq_iff_eq, Text.head?_bytes small]

theorem any_head? {inClass : Char → Bool} (small : IsSmall inClass) (cs : List Char) :
    (bytes cs).head?.any (ofAscii inClass) = cs.head?.any inClass := by
  cases cs with
  | nil => rfl
  | cons c cs =>
    obtain ⟨b, more, text⟩ := Text.exists_bytes c
    have first := Text.agrees_ofAscii small c b (by rw [text]; exact List.mem_cons_self)
    rw [Text.bytes_cons, text]
    exact first

end Runs

/-! One lexeme. -/

/-- What is found at a character, with bytes in the place of numbers of characters. -/
def placedAt (c : Located) (cs : List Char) : Found → FoundAt
  | .error fault => .error ⟨faultOffset c fault, fault⟩
  | .ok (l, n) => .ok (l, c.offset + c.char.utf8Size + byteLength (cs.take n))

section Lexeme

variable {src : String} {i : Nat} {c : Char} {front inner mid rest behind : List Char}

/-- Behind a character of ASCII stands the rest of its statement. -/
theorem behind_first (whole : src.toList = front ++ c :: (inner ++ behind))
    (small : c.utf8Size = 1) : src.toList = (front ++ [c]) ++ (inner ++ behind) ∧
      byteLength (front ++ [c]) = byteLength front + 1 := by
  constructor
  · rw [whole, List.append_assoc, List.singleton_append]
  · rw [length_concat, small]

theorem cut?_lexeme (whole : src.toList = front ++ c :: (inner ++ behind)) (small : c.utf8Size = 1)
    (split : inner = mid ++ rest) :
    cut? src (byteLength front) (byteLength front + 1 + byteLength mid) =
      some (String.ofList (c :: mid)) := by
  have parts : src.toList = front ++ ((c :: mid) ++ (rest ++ behind)) := by
    rw [whole, split, List.append_assoc]
    rfl
  have cut := Text.cut?_middle parts
  rw [Text.byteLength_cons, small, ← Nat.add_assoc] at cut
  exact cut

theorem take_split (split : inner = mid ++ rest) : (inner ++ behind).take mid.length = mid := by
  rw [split, List.append_assoc, List.take_left]

theorem split_run (inClass : Char → Bool) (cs : List Char) :
    cs = cs.takeWhile inClass ++ cs.dropWhile inClass := List.takeWhile_append_dropWhile.symm

theorem continuationAt?_eq (whole : src.toList = front ++ '\\' :: (inner ++ behind)) :
    continuationAt? src (byteLength front + 1 + byteLength inner) (byteLength front) =
      some (placedAt ⟨byteLength front, '\\'⟩ (inner ++ behind)
        (continuation (byteLength front + 1 + byteLength inner)
          (locateFrom (byteLength front + 1) inner))) := by
  obtain ⟨later, start⟩ := behind_first whole rfl
  have line := Text.lineAt?_middle later
  have run := takeWhile_locateFrom (inside_self (byteLength front + 1) inner) (· != '\n')
  have all : (locateFrom (byteLength front + 1) (inner.takeWhile (· != '\n'))).all
      (fun d => Text.isBlank d.char) = (inner.takeWhile (· != '\n')).all Text.isBlank := by
    conv => rhs; rw [← Text.map_char_locateFrom (byteLength front + 1) (inner.takeWhile _)]
    rw [List.all_map]
    rfl
  rw [start] at line
  rw [continuationAt?, line, Option.bind_eq_bind, Option.bind_some, trim_eq_empty,
    String.toList_ofList, continuation, run, all, Text.length_locateFrom]
  cases (inner.takeWhile (· != '\n')).all Text.isBlank with
  | true =>
    rw [if_pos rfl, if_pos rfl, placedAt, take_split (split_run _ inner)]
    rfl
  | false => rfl

theorem numberAt?_eq (whole : src.toList = front ++ c :: (inner ++ behind)) (small : c.utf8Size = 1) :
    numberAt? src (byteLength front) (bytes inner) =
      some (placedAt ⟨byteLength front, c⟩ (inner ++ behind)
        (numberLexeme (byteLength front + 1 + byteLength inner) ⟨byteLength front, c⟩
          (locateFrom (byteLength front + 1) inner))) := by
  have split := split_run isNumberPart inner
  have run := runLength_locateFrom (inside_self (byteLength front + 1) inner) isNumberPart
  have text := Text.textOf_take (byteLength front + 1) ⟨byteLength front, c⟩ (inner.takeWhile isNumberPart)
    (inner.dropWhile isNumberPart)
  rw [← split] at text
  rw [numberAt?, Text.takeWhile_bytes (Text.agrees_ofAscii isSmall_isNumberPart), Text.length_bytes,
    cut?_lexeme whole small split, numberLexeme, run, text, placedAt, take_split split]
  dsimp only
  rw [small]
  rfl

/-! Names. -/

/-- Whether a character goes on with a word; `cs` stands behind it. -/
def goesOn (c : Char) (cs : List Char) : Bool :=
  isWordPart c || (c == '-' && cs.head?.any isWordPart)

theorem wordLength_cons {stop start : Nat} {cs : List Char} (inside : Inside stop start (c :: cs)) :
    wordLength stop (locateFrom start (c :: cs)) =
      if goesOn c cs then wordLength stop (locateFrom (start + c.utf8Size) cs) + 1 else 0 := by
  obtain ⟨here, later⟩ := inside.cons
  rw [locateFrom, wordLength.eq_def, goesOn]
  cases cs with
  | nil => simp [here, locateFrom]
  | cons d cs =>
    have there := later.cons.1
    simp only [here, there, locateFrom, List.head?_cons, Option.any_some, decide_true, Bool.true_and]
    cases isWordPart c <;> cases c == '-' <;> simp

theorem wordBytes_cons (cs : List Char) : wordBytes (bytes (c :: cs)) =
    if goesOn c cs then c.utf8Size + wordBytes (bytes cs) else 0 := by
  have next := any_head? isSmall_isWordPart cs
  rw [goesOn, Text.bytes_cons]
  rcases Text.ascii_or_high c with ⟨small, one⟩ | ⟨large, high⟩
  · rw [one, List.singleton_append, wordBytes, Text.ofAscii_toUInt8 _ small,
      beq_toUInt8 small rfl, next, small, Nat.add_comm 1]
    cases isWordPart c <;> simp
  · obtain ⟨b, more, text⟩ := Text.exists_bytes c
    have far : isHigh b = true := high b (by rw [text]; exact List.mem_cons_self)
    have part : isWordPart c = false := eq_false_of_ne_true (fun member =>
      large (isSmall_isWordPart c member))
    have hyphen : (c == '-') = false := beq_eq_false_iff_ne.2 (ne_of_large large rfl)
    have other : (b == '-'.toUInt8) = false := beq_eq_false_iff_ne.2 (Text.ne_of_isHigh far rfl)
    rw [text, List.cons_append, wordBytes, Text.ofAscii_high _ far, part, hyphen, other]
    rfl

theorem wordBytes_eq {stop start : Nat} {cs : List Char} (inside : Inside stop start cs) :
    wordBytes (bytes cs) = byteLength (cs.take (wordLength stop (locateFrom start cs))) := by
  induction cs generalizing start with
  | nil => rfl
  | cons c cs ih =>
    rw [wordBytes_cons, wordLength_cons inside, ih inside.cons.2]
    cases goesOn c cs <;> rfl

/-- Characters of ASCII stand at the head of a text where their bytes do. -/
theorem take_bytes_beq {marks : List Char} (small : ∀ d ∈ marks, d.utf8Size = 1) (cs : List Char) :
    ((bytes cs).take marks.length == marks.map Char.toUInt8) = (cs.take marks.length == marks) := by
  induction marks generalizing cs with
  | nil => rfl
  | cons d marks ih =>
    obtain ⟨first, others⟩ := List.forall_mem_cons.1 small
    cases cs with
    | nil => rfl
    | cons c cs =>
      rw [Text.bytes_cons]
      rcases Text.ascii_or_high c with ⟨here, one⟩ | ⟨large, high⟩
      · rw [one, List.singleton_append, List.length_cons, List.take_succ_cons, List.take_succ_cons,
          List.map_cons, List.cons_beq_cons, List.cons_beq_cons, ih others, beq_toUInt8 here first]
      · obtain ⟨b, more, text⟩ := Text.exists_bytes c
        have far : isHigh b = true := high b (by rw [text]; exact List.mem_cons_self)
        rw [text, List.cons_append, List.length_cons, List.take_succ_cons, List.take_succ_cons,
          List.map_cons, List.cons_beq_cons, List.cons_beq_cons,
          beq_eq_false_iff_ne.2 (Text.ne_of_isHigh far first),
          beq_eq_false_iff_ne.2 (ne_of_large large first)]
        rfl

/-- What marks a scheme. -/
def schemeMarks : List Char := [':', '/', '/']

theorem startsWith_schemeMarks {stop start : Nat} {cs : List Char} (inside : Inside stop start cs) :
    (startsWith stop ':' (locateFrom start cs) &&
      startsWith stop '/' ((locateFrom start cs).drop 1) &&
      startsWith stop '/' ((locateFrom start cs).drop 2)) = (cs.take 3 == schemeMarks) := by
  cases cs with
  | nil => rfl
  | cons c cs =>
    obtain ⟨here, second⟩ := inside.cons
    cases cs with
    | nil => simp [locateFrom, startsWith, schemeMarks]
    | cons d cs =>
      obtain ⟨there, third⟩ := second.cons
      cases cs with
      | nil => simp [locateFrom, startsWith, schemeMarks]
      | cons e cs =>
        have last := third.cons.1
        simp [locateFrom, startsWith, schemeMarks, here, there, last, Bool.and_assoc]

theorem uriBytes?_eq {stop start : Nat} {cs : List Char} (inside : Inside stop start cs) :
    uriBytes? (bytes cs) =
      (uriLength? stop (locateFrom start cs)).map (fun n => byteLength (cs.take n)) := by
  have all := split_run isSchemePart cs
  have length := runLength_locateFrom inside isSchemePart
  have front := Text.takeWhile_bytes (Text.agrees_ofAscii isSmall_isSchemePart) cs
  unfold uriBytes? uriLength?
  dsimp only
  rw [length, front, Text.length_bytes]
  generalize cs.takeWhile isSchemePart = scheme at *
  generalize cs.dropWhile isSchemePart = rest at *
  subst all
  have behind := inside.append.2
  have single : schemeMarks.all (fun d => d.utf8Size == 1) = true := rfl
  have small : ∀ d ∈ schemeMarks, d.utf8Size = 1 :=
    fun d member => eq_of_beq (List.all_eq_true.1 single d member)
  have left : (bytes (scheme ++ rest)).drop (byteLength scheme) = bytes rest := by
    rw [Text.bytes_append, ← Text.length_bytes, List.drop_left]
  have marks := take_bytes_beq small rest
  rw [show schemeMarks.length = 3 from rfl] at marks
  have bytesOf : schemeMarks.map Char.toUInt8 = [':'.toUInt8, '/'.toUInt8, '/'.toUInt8] := rfl
  rw [left, ← bytesOf, marks, Text.drop_locateFrom, startsWith_schemeMarks behind]
  cases marked : rest.take 3 == schemeMarks with
  | false => rfl
  | true =>
    have text : rest = schemeMarks ++ rest.drop 3 := by
      rw [← eq_of_beq marked, List.take_append_drop]
    generalize rest.drop 3 = path at text
    subst text
    have path_inside := behind.append.2
    have run := runLength_locateFrom path_inside isUriPart
    have path_left : (bytes (schemeMarks ++ path)).drop 3 = bytes path := rfl
    have path_drop := Text.drop_locateFrom (start + byteLength scheme) schemeMarks path
    rw [show schemeMarks.length = 3 from rfl] at path_drop
    rw [if_pos rfl, if_pos rfl, path_left, path_drop, run, Text.takeWhile_bytes agrees_isUriByte,
      Text.length_bytes, Option.map_some]
    have whole : scheme ++ (schemeMarks ++ path) =
        (scheme ++ (schemeMarks ++ path.takeWhile isUriPart)) ++ path.dropWhile isUriPart := by
      conv => lhs; rw [split_run isUriPart path]
      simp only [List.append_assoc]
    have count : scheme.length + 3 + (path.takeWhile isUriPart).length =
        (scheme ++ (schemeMarks ++ path.takeWhile isUriPart)).length := by
      rw [List.length_append, List.length_append, Nat.add_assoc]
      rfl
    have taken := congrArg (List.take (scheme.length + 3 + (path.takeWhile isUriPart).length)) whole
    rw [count, List.take_left, ← count] at taken
    rw [taken, Text.byteLength_append, Text.byteLength_append]
    congr 1
    rw [Nat.add_assoc]
    rfl

theorem textOf_take_locateFrom (c : Located) (i n : Nat) (cs : List Char) :
    Text.textOf (c :: (locateFrom i cs).take n) = String.ofList (c.char :: cs.take n) := by
  rw [Text.textOf, List.map_cons, List.map_take, Text.map_char_locateFrom]

theorem nameAt?_eq (whole : src.toList = front ++ c :: (inner ++ behind)) (small : c.utf8Size = 1) :
    nameAt? src (byteLength front) c.toUInt8 (bytes inner) =
      some (placedAt ⟨byteLength front, c⟩ (inner ++ behind)
        (nameLexeme (byteLength front + 1 + byteLength inner) ⟨byteLength front, c⟩
          (locateFrom (byteLength front + 1) inner))) := by
  have all : Inside (byteLength front + 1 + byteLength inner) (byteLength front) (c :: inner) := by
    rw [Inside, Text.byteLength_cons, small, ← Nat.add_assoc]
  have uri := uriBytes?_eq all
  have word := wordBytes_eq (inside_self (byteLength front + 1) inner)
  have cut : ∀ n, cut? src (byteLength front) (byteLength front + 1 + byteLength (inner.take n)) =
      some (String.ofList (c :: inner.take n)) :=
    fun n => cut?_lexeme whole small (List.take_append_drop n inner).symm
  rw [Text.bytes_cons, Text.utf8EncodeChar_of_ascii small, List.singleton_append, locateFrom, small]
    at uri
  unfold nameAt? nameLexeme
  rw [uri]
  cases found : uriLength? (byteLength front + 1 + byteLength inner)
      (⟨byteLength front, c⟩ :: locateFrom (byteLength front + 1) inner) with
  | none =>
    have short := wordLength_le (byteLength front + 1 + byteLength inner)
      (locateFrom (byteLength front + 1) inner)
    rw [Text.length_locateFrom] at short
    rw [Option.map_none]
    dsimp only
    rw [word, cut, textOf_take_locateFrom, placedAt, List.take_append_of_le_length short]
    dsimp only
    rw [small]
    rfl
  | some n =>
    obtain ⟨positive, short⟩ := uriLength?_le found
    rw [List.length_cons, Text.length_locateFrom] at short
    obtain ⟨k, rfl⟩ := Nat.exists_eq_add_one.2 positive
    rw [Option.map_some, List.take_succ_cons, Text.byteLength_cons, small]
    dsimp only
    rw [← Nat.add_assoc, Nat.add_sub_cancel, cut, textOf_take_locateFrom, placedAt,
      List.take_append_of_le_length (Nat.le_of_succ_le_succ short)]
    dsimp only
    rw [small]
    rfl

/-! Signs. -/

theorem markBytes?_eq {stop start : Nat} {cs : List Char} (inside : Inside stop start cs)
    (small : c.utf8Size = 1) :
    markBytes? c.toUInt8 (bytes cs) = readMark? stop c (locateFrom start cs) := by
  unfold markBytes? readMark?
  simp only [startsWith_locateFrom inside, head?_beq (d := '=') rfl, head?_beq (d := '>') rfl]
  repeat rw [beq_toUInt8 small rfl]

theorem markBytes?_high {b : UInt8} (far : isHigh b = true) (bs : List UInt8) :
    markBytes? b bs = none := by
  have differs : ∀ {d : Char}, d.utf8Size = 1 → (b == d.toUInt8) = false :=
    fun single => beq_eq_false_iff_ne.2 (Text.ne_of_isHigh far single)
  unfold markBytes?
  repeat rw [differs rfl]
  rfl

theorem signAt?_eq (whole : src.toList = front ++ c :: (inner ++ behind)) (small : c.utf8Size = 1) :
    signAt? src (byteLength front) c.toUInt8 (bytes inner) =
      some (placedAt ⟨byteLength front, c⟩ (inner ++ behind)
        (signLexeme (byteLength front + 1 + byteLength inner) ⟨byteLength front, c⟩
          (locateFrom (byteLength front + 1) inner))) := by
  have inside := inside_self (byteLength front + 1) inner
  unfold signAt? signLexeme
  rw [markBytes?_eq inside small]
  cases found : readMark? (byteLength front + 1 + byteLength inner) c
      (locateFrom (byteLength front + 1) inner) with
  | none =>
    dsimp only
    rw [characterAt?_eq whole]
    rfl
  | some sign =>
    obtain ⟨mark, n⟩ := sign
    have taken : byteLength ((inner ++ behind).take n) = n := by
      rcases readMark?_taken found with rfl | ⟨rfl, next⟩
      · rfl
      · rw [startsWith_locateFrom inside, startsWith_locateFrom inside, beq_iff_eq, beq_iff_eq]
          at next
        cases inner with
        | nil => rcases next with next | next <;> cases next
        | cons d inner => rcases next with next | next <;> cases next <;> rfl
    dsimp only
    rw [placedAt, taken, small]

/-- A character beyond ASCII begins no lexeme. -/
theorem signAt?_large (whole : src.toList = front ++ c :: (inner ++ behind)) {b : UInt8}
    (far : isHigh b = true) (bs : List UInt8) : signAt? src (byteLength front) b bs =
      some (.error ⟨byteLength front, .strayCharacter c⟩) := by
  rw [signAt?, markBytes?_high far]
  dsimp only
  rw [characterAt?_eq whole]
  rfl

/-! Quoted texts as lexemes. -/

theorem quotedAt?_eq {quote : Char} (make : String → Lexeme) {cs : List Char}
    (quoted : isQuote quote = true) (whole : src.toList = front ++ quote :: cs) :
    quotedAt? make src quote.toUInt8 (byteLength front) =
      some (match readQuoted quote (locateFrom (byteLength front + 1) cs) with
        | some (text, n) =>
          .ok (some (make (String.ofList text)), byteLength front + 1 + byteLength (cs.take n))
        | none => .error ⟨byteLength front, .openText⟩) := by
  have single := isAscii_of_isQuote quoted
  have later : src.toList = (front ++ [quote]) ++ cs := by
    rw [whole, List.append_assoc, List.singleton_append]
  have read := quotedAlike quoted later
  unfold QuotedAlike at read
  rw [length_concat, single] at read
  have bytesBehind := Text.drop_utf8 later
  rw [length_concat, single] at bytesBehind
  rw [quotedAt?, bytesBehind, read, Option.bind_eq_bind, Option.bind_some]
  cases readQuoted quote (locateFrom (byteLength front + 1) cs) with
  | none => rfl
  | some found => rfl

theorem faultOffset_openText (c : Located) :
    faultOffset c .openText = if isQuote c.char then c.offset else c.offset + 1 := rfl

theorem textAt?_eq {quote : Char} {cs : List Char} (quoted : isQuote quote = true)
    (whole : src.toList = front ++ quote :: cs) :
    quotedAt? .text src quote.toUInt8 (byteLength front) =
      some (placedAt ⟨byteLength front, quote⟩ cs
        (quotedLexeme .text 0 quote (locateFrom (byteLength front + 1) cs))) := by
  rw [quotedAt?_eq .text quoted whole, quotedLexeme]
  cases readQuoted quote (locateFrom (byteLength front + 1) cs) with
  | none =>
    dsimp only
    rw [placedAt, faultOffset_openText, if_pos quoted]
  | some found =>
    dsimp only
    rw [placedAt, isAscii_of_isQuote quoted]
    rfl

theorem instantAt?_eq {cs : List Char} (small : c.utf8Size = 1) (plain : isQuote c = false)
    (whole : src.toList = front ++ c :: '\'' :: cs) :
    quotedAt? .instant src '\''.toUInt8 (byteLength front + 1) =
      some (placedAt ⟨byteLength front, c⟩ ('\'' :: cs)
        (quotedLexeme .instant 1 '\'' (locateFrom (byteLength front + 1 + 1) cs))) := by
  have later : src.toList = (front ++ [c]) ++ '\'' :: cs := by
    rw [whole, List.append_assoc, List.singleton_append]
  have read := quotedAt?_eq .instant rfl later
  rw [length_concat, small] at read
  rw [read, quotedLexeme]
  cases readQuoted '\'' (locateFrom (byteLength front + 1 + 1) cs) with
  | none =>
    dsimp only
    rw [placedAt, faultOffset_openText, if_neg (by simp [plain])]
  | some found =>
    dsimp only
    rw [placedAt, List.take_succ_cons, Text.byteLength_cons, small,
      show '\''.utf8Size = 1 from rfl, ← Nat.add_assoc]

theorem digitFollows_locateFrom {stop start : Nat} {cs : List Char}
    (inside : Inside stop start cs) :
    digitFollows stop (locateFrom start cs) = cs.head?.any Char.isDigit := by
  cases cs with
  | nil => rfl
  | cons c cs => simp [locateFrom, digitFollows, inside.cons.1]

/-! All lexemes. -/

/-- What is found at a character of ASCII. -/
theorem lexemeAt?_small (whole : src.toList = front ++ c :: (inner ++ behind))
    (small : c.utf8Size = 1) (previous : Option Lexeme) :
    lexemeAt? src (byteLength front + 1 + byteLength inner) previous (byteLength front) c.toUInt8
        (bytes inner) =
      some (placedAt ⟨byteLength front, c⟩ (inner ++ behind)
        (readLexeme (byteLength front + 1 + byteLength inner) previous ⟨byteLength front, c⟩
          (locateFrom (byteLength front + 1) (inner ++ behind)))) := by
  have inside := inside_self (byteLength front + 1) inner
  have beyond := beyond_locateFrom (byteLength front + 1 + byteLength inner) behind
  rw [readLexeme_eq, lexemeAt?, beq_toUInt8 small rfl, isQuoteByte_toUInt8 small,
    beq_toUInt8 small rfl, beq_toUInt8 small rfl, head?_beq rfl,
    Text.ofAscii_toUInt8 isWordStart small]
  have numbers : startsNumberByte previous c.toUInt8 (bytes inner) =
      startsNumber (byteLength front + 1 + byteLength inner) previous ⟨byteLength front, c⟩
        (locateFrom (byteLength front + 1) (inner ++ behind)) := by
    rw [Text.locateFrom_append, startsNumber_append beyond, startsNumber, startsNumberByte,
      Text.ofAscii_toUInt8 _ small, beq_toUInt8 small rfl, any_head? isSmall_isDigit,
      digitFollows_locateFrom inside]
  have instants : ((c == 't' || c == 'T') && inner.head? == some '\'') =
      marksInstant (byteLength front + 1 + byteLength inner) ⟨byteLength front, c⟩
        (locateFrom (byteLength front + 1) (inner ++ behind)) := by
    rw [Text.locateFrom_append, marksInstant_append beyond, marksInstant,
      startsWith_locateFrom inside]
  rw [numbers, instants]
  dsimp only
  split
  · rename_i backslash
    obtain rfl := eq_of_beq backslash
    rw [continuationAt?_eq whole, Text.locateFrom_append, continuation_append beyond]
  split
  · rename_i quoted
    rw [textAt?_eq quoted whole]
  split
  · rename_i marked
    obtain ⟨plain, -⟩ := exists_of_marksInstant marked
    rw [← instants, Bool.and_eq_true, beq_iff_eq] at marked
    obtain ⟨rest, text⟩ := List.head?_eq_some_iff.1 marked.2
    rw [text, List.cons_append] at whole ⊢
    rw [instantAt?_eq small plain whole, locateFrom]
    rfl
  split
  · rw [numberAt?_eq whole small, Text.locateFrom_append, numberLexeme_append beyond]
  split
  · rw [nameAt?_eq whole small, Text.locateFrom_append, nameLexeme_append beyond]
  · rw [signAt?_eq whole small, Text.locateFrom_append, signLexeme_append beyond]

theorem IsSmall.eq_false {inClass : Char → Bool} (isSmall : IsSmall inClass)
    (large : c.utf8Size ≠ 1) : inClass c = false :=
  eq_false_of_ne_true (fun member => large (isSmall c member))

/-- No lexeme begins with a character beyond ASCII. -/
theorem readLexeme_large (stop : Nat) (previous : Option Lexeme) (i : Nat) (cs : List Located)
    (large : c.utf8Size ≠ 1) :
    readLexeme stop previous ⟨i, c⟩ cs = .error (.strayCharacter c) := by
  have other : ∀ {d : Char}, d.utf8Size = 1 → (c == d) = false :=
    fun single => beq_eq_false_iff_ne.2 (ne_of_large large single)
  have sign : readMark? stop c cs = none := by
    unfold readMark?
    repeat rw [other rfl]
    rfl
  rw [readLexeme_eq, marksInstant, startsNumber, isQuote]
  dsimp only
  repeat rw [other rfl]
  rw [isSmall_isDigit.eq_false large, isSmall_isWordStart.eq_false large, signLexeme, sign]
  rfl

theorem lexemeAt?_large (whole : src.toList = front ++ c :: (inner ++ behind)) (stop : Nat)
    (previous : Option Lexeme) {b : UInt8} (far : isHigh b = true) (bs : List UInt8) :
    lexemeAt? src stop previous (byteLength front) b bs =
      some (.error ⟨byteLength front, .strayCharacter c⟩) := by
  have differs : ∀ {d : Char}, d.utf8Size = 1 → (b == d.toUInt8) = false :=
    fun single => beq_eq_false_iff_ne.2 (Text.ne_of_isHigh far single)
  rw [lexemeAt?, startsNumberByte, isQuoteByte, Text.ofAscii_high _ far, Text.ofAscii_high _ far]
  repeat rw [differs rfl]
  exact signAt?_large whole far bs

/-- Lexemes are found at bytes as at characters. -/
theorem lexemeAt?_eq (whole : src.toList = front ++ c :: (inner ++ behind))
    (previous : Option Lexeme) {b : UInt8} {more : List UInt8}
    (text : String.utf8EncodeChar c = b :: more) :
    lexemeAt? src (byteLength front + byteLength (c :: inner)) previous (byteLength front) b
        (more ++ bytes inner) =
      some (placedAt ⟨byteLength front, c⟩ (inner ++ behind)
        (readLexeme (byteLength front + byteLength (c :: inner)) previous ⟨byteLength front, c⟩
          (locateFrom (byteLength front + c.utf8Size) (inner ++ behind)))) := by
  rcases Text.ascii_or_high c with ⟨small, one⟩ | ⟨large, high⟩
  · rw [text, List.cons.injEq] at one
    rw [one.1, one.2, List.nil_append, Text.byteLength_cons, small, ← Nat.add_assoc]
    exact lexemeAt?_small whole small previous
  · have far : isHigh b = true := high b (by rw [text]; exact List.mem_cons_self)
    rw [lexemeAt?_large whole _ previous far, readLexeme_large _ _ _ _ large]
    rfl

/-- Only a character of ASCII is taken by a lexeme as its first. -/
theorem small_of_readLexeme {stop i : Nat} {previous : Option Lexeme} {cs : List Located}
    {found : Option Lexeme × Nat} (read : readLexeme stop previous ⟨i, c⟩ cs = .ok found) :
    c.utf8Size = 1 := by
  by_contra large
  rw [readLexeme_large _ _ _ _ large] at read
  cases read

/-- A part of a source is split into tokens by bytes as it is by characters. -/
def LexedAlike (src : String) (previous : Option Lexeme) (front inner behind : List Char) : Prop :=
  lexBytes src (byteLength front + byteLength inner) previous (byteLength front) (bytes inner) =
    some (lexFrom (byteLength front + byteLength inner) previous
      (locateFrom (byteLength front) (inner ++ behind)))

theorem lexedAlike_nil (previous : Option Lexeme) (front behind : List Char) :
    LexedAlike src previous front [] behind := by
  have beyond : Beyond (byteLength front + byteLength []) (locateFrom (byteLength front) behind) :=
    beyond_locateFrom _ _
  rw [LexedAlike, show bytes [] = [] from rfl, lexBytes, List.nil_append, lexFrom_beyond beyond]

theorem not_stop_le (front inner : List Char) (c : Char) :
    ¬byteLength front + byteLength (c :: inner) ≤ byteLength front := by
  have size := Char.utf8Size_pos c
  rw [Text.byteLength_cons]
  omega

theorem lexedAlike_blank {previous : Option Lexeme} (blank : Text.isAsciiBlank c = true)
    (later : LexedAlike src previous (front ++ [c]) inner behind) :
    LexedAlike src previous front (c :: inner) behind := by
  have small := isSmall_isAsciiBlank c blank
  unfold LexedAlike at later ⊢
  rw [length_concat, small] at later
  rw [List.cons_append, locateFrom, lexFrom_blank (not_stop_le front inner c) blank, Text.bytes_cons,
    Text.utf8EncodeChar_of_ascii small, List.singleton_append, lexBytes,
    Text.ofAscii_toUInt8 _ small, if_pos blank, Text.byteLength_cons, small, ← Nat.add_assoc, later]

/-- Behind a lexeme that ends in its statement, the rest of the statement is left. -/
theorem lexBytes_inside {n : Nat} {previous : Option Lexeme} (small : c.utf8Size = 1)
    (short : n ≤ inner.length)
    (later : LexedAlike src previous (front ++ c :: inner.take n) (inner.drop n) behind) :
    lexBytes src (byteLength front + byteLength (c :: inner)) previous
        (byteLength front + 1 + byteLength ((inner ++ behind).take n))
        ((bytes inner).drop (byteLength ((inner ++ behind).take n))) =
      some (lexFrom (byteLength front + byteLength (c :: inner)) previous
        ((locateFrom (byteLength front + 1) (inner ++ behind)).drop n)) := by
  have split : inner = inner.take n ++ inner.drop n := (List.take_append_drop n inner).symm
  have start : byteLength (front ++ c :: inner.take n) =
      byteLength front + 1 + byteLength (inner.take n) := by
    rw [Text.byteLength_append, Text.byteLength_cons, small, Nat.add_assoc]
  have stop : byteLength (front ++ c :: inner.take n) + byteLength (inner.drop n) =
      byteLength front + byteLength (c :: inner) := by
    rw [start, Text.byteLength_cons, small]
    conv => rhs; rw [split, Text.byteLength_append]
    omega
  have left : (bytes inner).drop (byteLength (inner.take n)) = bytes (inner.drop n) := by
    have text := congrArg bytes split
    rw [Text.bytes_append] at text
    rw [text, ← Text.length_bytes, List.drop_left]
  have rest := Text.drop_locateFrom (byteLength front + 1) (inner.take n) (inner.drop n ++ behind)
  rw [← List.append_assoc, ← split, List.length_take_of_le short] at rest
  unfold LexedAlike at later
  rw [stop, start] at later
  rw [List.take_append_of_le_length short, left, rest, later]

/-- Nothing is left behind a lexeme that ends behind its statement. -/
theorem lexBytes_outside {n : Nat} {previous : Option Lexeme} (small : c.utf8Size = 1)
    (long : inner.length < n) :
    lexBytes src (byteLength front + byteLength (c :: inner)) previous
        (byteLength front + 1 + byteLength ((inner ++ behind).take n))
        ((bytes inner).drop (byteLength ((inner ++ behind).take n))) =
      some (lexFrom (byteLength front + byteLength (c :: inner)) previous
        ((locateFrom (byteLength front + 1) (inner ++ behind)).drop n)) := by
  have stop : byteLength front + byteLength (c :: inner) =
      byteLength front + 1 + byteLength inner := by
    rw [Text.byteLength_cons, small, Nat.add_assoc]
  have beyond : Beyond (byteLength front + byteLength (c :: inner))
      ((locateFrom (byteLength front + 1) (inner ++ behind)).drop n) := by
    rw [Text.locateFrom_append, List.drop_append, List.drop_of_length_le, List.nil_append, stop]
    · exact (beyond_locateFrom _ _).drop _
    · rw [Text.length_locateFrom]
      exact Nat.le_of_lt long
  have none : (bytes inner).drop (byteLength ((inner ++ behind).take n)) = [] := by
    apply List.drop_of_length_le
    rw [List.take_append, List.take_of_length_le (Nat.le_of_lt long), Text.length_bytes,
      Text.byteLength_append]
    exact Nat.le_add_right _ _
  rw [none, lexBytes, lexFrom_beyond beyond]

theorem lexedAlike_lexeme {previous : Option Lexeme}
    (whole : src.toList = front ++ c :: (inner ++ behind)) (visible : ¬Text.isAsciiBlank c = true)
    (later : ∀ (l : Option Lexeme) (k : Nat), c.utf8Size = 1 →
      lexBytes src (byteLength front + byteLength (c :: inner)) l
        (byteLength front + 1 + byteLength ((inner ++ behind).take k))
        ((bytes inner).drop (byteLength ((inner ++ behind).take k))) =
      some (lexFrom (byteLength front + byteLength (c :: inner)) l
        ((locateFrom (byteLength front + 1) (inner ++ behind)).drop k))) :
    LexedAlike src previous front (c :: inner) behind := by
  have within := not_stop_le front inner c
  obtain ⟨b, more, text⟩ := Text.exists_bytes c
  have other : ofAscii Text.isAsciiBlank b = false := by
    rw [Text.agrees_ofAscii isSmall_isAsciiBlank c b (by rw [text]; exact List.mem_cons_self)]
    exact eq_false_of_ne_true visible
  have found := lexemeAt?_eq whole previous text
  unfold LexedAlike
  rw [Text.bytes_cons, text, List.cons_append, lexBytes, other, found, List.cons_append, locateFrom]
  simp only [Bool.false_eq_true, if_false, Option.bind_eq_bind, Option.bind_some]
  cases read : readLexeme (byteLength front + byteLength (c :: inner)) previous
      ⟨byteLength front, c⟩ (locateFrom (byteLength front + c.utf8Size) (inner ++ behind)) with
  | error fault =>
    rw [lexFrom_fault within visible read]
    rfl
  | ok found =>
    obtain ⟨l, k⟩ := found
    have small := small_of_readLexeme read
    have one := Text.utf8EncodeChar_of_ascii small
    rw [text, List.cons.injEq] at one
    rw [one.2, List.nil_append, placedAt]
    cases l with
    | none =>
      rw [lexFrom_skipped within visible read]
      dsimp only
      rw [small, Nat.add_sub_cancel_left, later previous k small]
    | some lexeme =>
      rw [lexFrom_lexeme within visible read]
      dsimp only
      rw [small, Nat.add_sub_cancel_left, later (some lexeme) k small]
      rfl

/-- Splitting a statement into tokens byte by byte cuts the source only between characters, and
gives its tokens. -/
theorem lexedAlike (previous : Option Lexeme) (front inner behind : List Char)
    (whole : src.toList = front ++ (inner ++ behind)) :
    LexedAlike src previous front inner behind := by
  induction size : inner.length using Nat.strongRecOn generalizing previous front inner behind with
  | ind n ih =>
    cases inner with
    | nil => exact lexedAlike_nil previous front behind
    | cons c inner =>
      rw [List.length_cons] at size
      rw [List.cons_append] at whole
      by_cases blank : Text.isAsciiBlank c = true
      · refine lexedAlike_blank blank (ih inner.length (by omega) previous _ _ _ ?_ rfl)
        rw [whole, List.append_assoc, List.singleton_append]
      · refine lexedAlike_lexeme whole blank (fun l k small => ?_)
        rcases Nat.lt_or_ge inner.length k with long | short
        · exact lexBytes_outside small long
        · refine lexBytes_inside small short (ih (inner.drop k).length ?_ l _ _ _ ?_ rfl)
          · rw [List.length_drop]
            omega
          · rw [whole, List.append_assoc, List.cons_append, ← List.append_assoc (inner.take k),
              List.take_append_drop]

end Lexeme

end ThreatHunt.Source
