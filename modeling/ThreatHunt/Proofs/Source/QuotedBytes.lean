import ThreatHunt.Proofs.Source.Ahead
import ThreatHunt.Proofs.Source.SplitBytes

/-!
Reading quoted texts byte by byte. Behind a backslash two bytes may be passed at once, and any other
character is copied as a whole; the reader is never left inside of a character.
-/

namespace ThreatHunt.Source

open Text (Located locateFrom byteLength bytes utf8 cut? isHigh)

/-- What an escaped byte stands for. -/
def unescapeByte? (quote b : UInt8) : Option Char :=
  if b == 'n'.toUInt8 then some '\n'
  else if b == 't'.toUInt8 then some '\t'
  else if b == '\\'.toUInt8 || b == quote then some (Char.ofNat b.toNat)
  else none

/-- The character at a byte. -/
def characterAt? (src : String) (i : Nat) : Option (Option Char) := do
  let rest ← cut? src i (utf8 src).length
  return rest.toList.head?

/-- A quoted text from byte `i` behind its opening quote on, and the byte behind its closing one. -/
def quotedBytes (src : String) (quote : UInt8) (i : Nat) :
    List UInt8 → Option (Option (List Char × Nat))
  | [] => some none
  | b :: rest =>
    if b == '\\'.toUInt8 && !rest.isEmpty then
      match rest.head?.bind (unescapeByte? quote) with
      | some e => do
        let read ← quotedBytes src quote (i + 2) (rest.drop 1)
        return read.map (fun r => (e :: r.1, r.2))
      | none => do
        let read ← quotedBytes src quote (i + 1) rest
        return read.map (fun r => ('\\' :: r.1, r.2))
    else if b == quote then some (some ([], i + 1))
    else do
      let char ← characterAt? src i
      let size := (char.map Char.utf8Size).getD 1
      let copied ← cut? src i (i + size)
      let read ← quotedBytes src quote (i + size) (rest.drop (size - 1))
      return read.map (fun r => (copied.toList ++ r.1, r.2))
termination_by bs => bs.length
decreasing_by all_goals simp only [List.length_cons, List.length_drop]; omega

section Quoted

variable {src : String} {quote c d : Char} {front cs : List Char} {b : UInt8} {more : List UInt8}

theorem characterAt?_eq (whole : src.toList = front ++ cs) :
    characterAt? src (byteLength front) = some cs.head? := by
  have stop : (utf8 src).length = byteLength front + byteLength cs := by
    rw [Text.length_utf8, whole, Text.byteLength_append]
  have ended : src.toList = front ++ (cs ++ []) := by rw [whole, List.append_nil]
  have rest := Text.cut?_middle ended
  rw [characterAt?, stop, rest, Option.bind_eq_bind, Option.bind_some, String.toList_ofList]
  rfl

theorem unescape?_large (large : d.utf8Size ≠ 1) (single : quote.utf8Size = 1) :
    unescape? quote d = none := by
  have other : ∀ {e : Char}, e.utf8Size = 1 → d ≠ e := ne_of_large large
  simp [unescape?, other (e := 'n') rfl, other (e := 't') rfl, other (e := '\\') rfl, other single]

/-- The first byte of a character tells what it stands for behind a backslash. -/
theorem unescapeByte?_eq (single : quote.utf8Size = 1)
    (text : String.utf8EncodeChar d = b :: more) :
    unescapeByte? quote.toUInt8 b = unescape? quote d := by
  rcases Text.ascii_or_high d with ⟨small, one⟩ | ⟨large, high⟩
  · rw [text, List.cons.injEq] at one
    rw [one.1, unescapeByte?, beq_toUInt8 small rfl, beq_toUInt8 small rfl, beq_toUInt8 small rfl,
      beq_toUInt8 small single, Text.toNat_toUInt8 small, Char.ofNat_toNat]
    rfl
  · have far : isHigh b = true := high b (by rw [text]; exact List.mem_cons_self)
    have other : ∀ {e : Char}, e.utf8Size = 1 → b ≠ e.toUInt8 := Text.ne_of_isHigh far
    rw [unescape?_large large single]
    simp [unescapeByte?, other (e := 'n') rfl, other (e := 't') rfl, other (e := '\\') rfl,
      other single]

theorem utf8Size_of_unescape? {e : Char} (single : quote.utf8Size = 1)
    (stands : unescape? quote d = some e) : d.utf8Size = 1 := by
  by_contra large
  rw [unescape?_large large single] at stands
  cases stands

theorem first_ne (text : String.utf8EncodeChar c = b :: more) (small : d.utf8Size = 1)
    (other : c ≠ d) : b ≠ d.toUInt8 := by
  rintro rfl
  have begins : (bytes [c]).head? = some d.toUInt8 := by
    rw [Text.bytes_cons, text]
    rfl
  have first := (Text.head?_bytes small).1 begins
  exact other (Option.some.inj first)

/-- A quoted text is read from bytes as from characters. -/
def QuotedAlike (src : String) (quote : Char) (front cs : List Char) : Prop :=
  quotedBytes src quote.toUInt8 (byteLength front) (bytes cs) =
    some ((readQuoted quote (locateFrom (byteLength front) cs)).map
      (fun r => (r.1, byteLength front + byteLength (cs.take r.2))))

theorem length_concat (front : List Char) (c : Char) :
    byteLength (front ++ [c]) = byteLength front + c.utf8Size := by
  rw [Text.byteLength_append]
  rfl

/-- A character that is copied as a whole. -/
theorem quotedAlike_copied (quoted : isQuote quote = true) (whole : src.toList = front ++ c :: cs)
    (other : c ≠ quote) (plain : c ≠ '\\' ∨ cs = [])
    (later : QuotedAlike src quote (front ++ [c]) cs) : QuotedAlike src quote front (c :: cs) := by
  have single := isAscii_of_isQuote quoted
  obtain ⟨b, more, text⟩ := Text.exists_bytes c
  have size : more.length = c.utf8Size - 1 := by
    rw [← String.length_utf8EncodeChar, text, List.length_cons, Nat.add_sub_cancel]
  have behind : (more ++ bytes cs).drop (c.utf8Size - 1) = bytes cs := by
    rw [← size, List.drop_left]
  have differs : (b == quote.toUInt8) = false := beq_eq_false_iff_ne.2 (first_ne text single other)
  have kept : (b == '\\'.toUInt8 && !(more ++ bytes cs).isEmpty) = false := by
    by_cases backslash : c = '\\'
    · subst backslash
      obtain rfl := plain.resolve_left (not_not_intro rfl)
      obtain ⟨-, rfl⟩ := List.cons.inj text
      exact Bool.and_false _
    · rw [beq_eq_false_iff_ne.2 (first_ne text rfl backslash), Bool.false_and]
  have char := characterAt?_eq whole
  have split : src.toList = front ++ ([c] ++ cs) := by rw [whole, List.singleton_append]
  have copied := Text.cut?_middle split
  have read : readQuoted quote (locateFrom (byteLength front) (c :: cs)) =
      (readQuoted quote (locateFrom (byteLength front + c.utf8Size) cs)).map
        (fun r => (c :: r.1, r.2 + 1)) := by
    by_cases backslash : c = '\\'
    · obtain rfl := plain.resolve_left (not_not_intro backslash)
      rw [readQuoted.eq_def]
      simp [locateFrom, other, readQuoted]
    · exact readQuoted_plain backslash other
  unfold QuotedAlike at later ⊢
  rw [length_concat] at later
  rw [Text.bytes_cons, text, List.cons_append, quotedBytes, kept, differs, char, read]
  simp only [Bool.false_eq_true, if_false, Option.bind_eq_bind, Option.bind_some, List.head?_cons,
    Option.map_some, Option.getD_some]
  rw [show byteLength [c] = c.utf8Size from rfl] at copied
  rw [behind, copied, later, Option.bind_some, Option.bind_some, Option.map_map, String.toList_ofList]
  cases readQuoted quote (locateFrom (byteLength front + c.utf8Size) cs) with
  | none => rfl
  | some found => simp [Text.byteLength_cons, Nat.add_assoc]

/-- What an escape stands for takes two bytes. -/
theorem quotedAlike_escaped {e : Char} (quoted : isQuote quote = true)
    (stands : unescape? quote d = some e)
    (later : QuotedAlike src quote (front ++ ['\\'] ++ [d]) cs) :
    QuotedAlike src quote front ('\\' :: d :: cs) := by
  have single := isAscii_of_isQuote quoted
  have small := utf8Size_of_unescape? single stands
  have one := Text.utf8EncodeChar_of_ascii small
  have read : readQuoted quote (⟨byteLength front, '\\'⟩ :: ⟨byteLength front + 1, d⟩ ::
      locateFrom (byteLength front + 1 + 1) cs) = _ := readQuoted_escaped rfl stands
  unfold QuotedAlike at later ⊢
  rw [length_concat, length_concat, small, show '\\'.utf8Size = 1 from rfl] at later
  rw [locateFrom, locateFrom, show '\\'.utf8Size = 1 from rfl, small, read, Text.bytes_cons,
    Text.bytes_cons, one, show String.utf8EncodeChar '\\' = ['\\'.toUInt8] from rfl,
    List.singleton_append, List.singleton_append, quotedBytes]
  simp only [BEq.rfl, List.isEmpty_cons, Bool.not_false, Bool.and_self, if_true, List.head?_cons,
    Option.bind_some, unescapeByte?_eq single one, stands, List.drop_one, List.tail_cons,
    Option.bind_eq_bind]
  rw [later, Option.bind_some, Option.map_map]
  cases readQuoted quote (locateFrom (byteLength front + 1 + 1) cs) with
  | none => rfl
  | some found =>
    simp [Text.byteLength_cons, small, show '\\'.utf8Size = 1 from rfl]
    omega

/-- A backslash before any other character stands for itself. -/
theorem quotedAlike_kept (quoted : isQuote quote = true) (keeps : unescape? quote d = none)
    (later : QuotedAlike src quote (front ++ ['\\']) (d :: cs)) :
    QuotedAlike src quote front ('\\' :: d :: cs) := by
  have single := isAscii_of_isQuote quoted
  obtain ⟨b, more, text⟩ := Text.exists_bytes d
  have read : readQuoted quote (⟨byteLength front, '\\'⟩ :: ⟨byteLength front + 1, d⟩ ::
      locateFrom (byteLength front + 1 + d.utf8Size) cs) = _ := readQuoted_kept rfl keeps
  unfold QuotedAlike at later ⊢
  rw [length_concat, show '\\'.utf8Size = 1 from rfl, Text.bytes_cons, text, List.cons_append]
    at later
  rw [locateFrom, locateFrom, show '\\'.utf8Size = 1 from rfl, read, Text.bytes_cons,
    Text.bytes_cons, text, show String.utf8EncodeChar '\\' = ['\\'.toUInt8] from rfl,
    List.singleton_append, List.cons_append, quotedBytes]
  simp only [BEq.rfl, List.isEmpty_cons, Bool.not_false, Bool.and_self, if_true, List.head?_cons,
    Option.bind_some, unescapeByte?_eq single text, keeps, Option.bind_eq_bind]
  rw [later, Option.bind_some, Option.map_map, locateFrom]
  cases readQuoted quote (⟨byteLength front + 1, d⟩ ::
      locateFrom (byteLength front + 1 + d.utf8Size) cs) with
  | none => rfl
  | some found =>
    simp [Text.byteLength_cons, show '\\'.utf8Size = 1 from rfl]
    omega

theorem quotedAlike_close (quoted : isQuote quote = true) :
    QuotedAlike src quote front (quote :: cs) := by
  have single := isAscii_of_isQuote quoted
  have plain : (quote.toUInt8 == '\\'.toUInt8) = false := by
    rw [beq_toUInt8 single rfl, beq_eq_false_iff_ne]
    exact ne_backslash_of_isQuote quoted
  have read : readQuoted quote (⟨byteLength front, quote⟩ ::
      locateFrom (byteLength front + quote.utf8Size) cs) = _ := readQuoted_close quoted rfl
  unfold QuotedAlike
  rw [locateFrom, read, Text.bytes_cons, Text.utf8EncodeChar_of_ascii single,
    List.singleton_append, quotedBytes, plain]
  simp [Text.byteLength_cons, single, show byteLength [] = 0 from rfl]

theorem quotedAlike (quoted : isQuote quote = true) (whole : src.toList = front ++ cs) :
    QuotedAlike src quote front cs := by
  induction size : cs.length using Nat.strongRecOn generalizing front cs with
  | ind n ih =>
    cases cs with
    | nil =>
      unfold QuotedAlike
      rw [show bytes [] = [] from rfl, quotedBytes]
      rfl
    | cons c cs =>
      rw [List.length_cons] at size
      have next : src.toList = (front ++ [c]) ++ cs := by
        rw [whole, List.append_assoc, List.singleton_append]
      have rest := ih cs.length (by omega) next rfl
      by_cases closes : c = quote
      · subst closes
        exact quotedAlike_close quoted
      · by_cases backslash : c = '\\'
        · subst backslash
          cases cs with
          | nil => exact quotedAlike_copied quoted whole closes (.inr rfl) rest
          | cons d cs =>
            cases stands : unescape? quote d with
            | none => exact quotedAlike_kept quoted stands rest
            | some e =>
              rw [List.length_cons] at size
              refine quotedAlike_escaped quoted stands (ih cs.length (by omega) ?_ rfl)
              rw [next, List.append_assoc, List.append_assoc, List.singleton_append,
                List.append_assoc]
              rfl
        · exact quotedAlike_copied quoted whole closes (.inl backslash) rest

end Quoted

end ThreatHunt.Source
