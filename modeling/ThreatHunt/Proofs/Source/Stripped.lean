import Mathlib.Data.List.Forall2
import ThreatHunt.Proofs.Source.Parts
import ThreatHunt.Proofs.Text.Located

/-!
Blanking comments byte by byte.
-/

namespace ThreatHunt.Source

open Text (bytes utf8 isHigh)

/-- What a byte of a source belongs to. -/
inductive ByteRegion where
  | code
  | text (quote : UInt8)
  | line
  | block (depth : Nat)

def Region.ofBytes : Region → ByteRegion
  | .code => .code
  | .text quote => .text quote.toUInt8
  | .line => .line
  | .block depth => .block depth

/-- Line breaks stay, and any other byte gives way to a blank. -/
def blankByte (b : UInt8) : UInt8 :=
  if b == '\n'.toUInt8 || b == '\r'.toUInt8 then b else ' '.toUInt8

def isQuoteByte (b : UInt8) : Bool := b == '\''.toUInt8 || b == '\x22'.toUInt8

/-- The bytes of a source with those of comments blanked. Two bytes are passed at once where a
comment opens or closes, and behind a backslash in quotes. -/
def blankBytes : ByteRegion → List UInt8 → List UInt8
  | _, [] => []
  | .line, b :: rest => blankByte b :: blankBytes (if b == '\n'.toUInt8 then .code else .line) rest
  | .block _, [b] => [blankByte b]
  | .block depth, b :: next :: rest =>
    if b == '/'.toUInt8 && next == '*'.toUInt8 then
      ' '.toUInt8 :: ' '.toUInt8 :: blankBytes (.block (depth + 1)) rest
    else if b == '*'.toUInt8 && next == '/'.toUInt8 then
      ' '.toUInt8 :: ' '.toUInt8 ::
        blankBytes (if depth ≤ 1 then .code else .block (depth - 1)) rest
    else blankByte b :: blankBytes (.block depth) (next :: rest)
  | .text _, [b] => [b]
  | .text quote, b :: next :: rest =>
    if b == '\\'.toUInt8 then b :: next :: blankBytes (.text quote) rest
    else b :: blankBytes (if b == quote then .code else .text quote) (next :: rest)
  | .code, [b] => if b == '#'.toUInt8 then [' '.toUInt8] else [b]
  | .code, b :: next :: rest =>
    if isQuoteByte b then b :: blankBytes (.text b) (next :: rest)
    else if b == '#'.toUInt8 then ' '.toUInt8 :: blankBytes .line (next :: rest)
    else if b == '-'.toUInt8 && next == '-'.toUInt8 then
      ' '.toUInt8 :: ' '.toUInt8 :: blankBytes .line rest
    else if b == '/'.toUInt8 && next == '*'.toUInt8 then
      ' '.toUInt8 :: ' '.toUInt8 :: blankBytes (.block 1) rest
    else b :: blankBytes .code (next :: rest)

/-! What becomes of one byte. -/

variable {b quote : UInt8} {rest front : List UInt8} {depth : Nat}

theorem blankBytes_nil (region : ByteRegion) : blankBytes region [] = [] := by
  cases region <;> rfl

theorem blankBytes_line (b : UInt8) (rest : List UInt8) :
    blankBytes .line (b :: rest) =
      blankByte b :: blankBytes (if b == '\n'.toUInt8 then .code else .line) rest := rfl

theorem blankBytes_block (opens : ¬(b = '/'.toUInt8 ∧ rest.head? = some '*'.toUInt8))
    (closes : ¬(b = '*'.toUInt8 ∧ rest.head? = some '/'.toUInt8)) :
    blankBytes (.block depth) (b :: rest) = blankByte b :: blankBytes (.block depth) rest := by
  cases rest with
  | nil => rfl
  | cons next rest =>
    have further : ¬(b == '/'.toUInt8 && next == '*'.toUInt8) = true := by simpa using opens
    have last : ¬(b == '*'.toUInt8 && next == '/'.toUInt8) = true := by simpa using closes
    exact (if_neg further).trans (if_neg last)

theorem blankBytes_text (plain : b ≠ '\\'.toUInt8) :
    blankBytes (.text quote) (b :: rest) =
      b :: blankBytes (if b == quote then .code else .text quote) rest := by
  cases rest with
  | nil =>
    rw [blankBytes_nil]
    rfl
  | cons next rest => exact if_neg (by simpa using plain)

theorem blankBytes_code (number : b ≠ '#'.toUInt8)
    (hyphen : ¬(b = '-'.toUInt8 ∧ rest.head? = some '-'.toUInt8))
    (opens : ¬(b = '/'.toUInt8 ∧ rest.head? = some '*'.toUInt8)) :
    blankBytes .code (b :: rest) =
      b :: blankBytes (if isQuoteByte b then .text b else .code) rest := by
  have other : ¬(b == '#'.toUInt8) = true := by simpa using number
  cases rest with
  | nil =>
    rw [blankBytes_nil]
    exact if_neg other
  | cons next rest =>
    have noLine : ¬(b == '-'.toUInt8 && next == '-'.toUInt8) = true := by simpa using hyphen
    have noBlock : ¬(b == '/'.toUInt8 && next == '*'.toUInt8) = true := by simpa using opens
    cases quoted : isQuoteByte b with
    | true => exact if_pos quoted
    | false =>
      calc blankBytes .code (b :: next :: rest)
        _ = _ := if_neg (Bool.not_eq_true _ ▸ quoted)
        _ = _ := if_neg other
        _ = _ := if_neg noLine
        _ = b :: blankBytes .code (next :: rest) := if_neg noBlock

theorem blankBytes_number (rest : List UInt8) : blankBytes .code ('#'.toUInt8 :: rest) =
    ' '.toUInt8 :: blankBytes .line rest := by
  cases rest with
  | nil => rfl
  | cons next rest => rfl

/-! High bytes. -/

/-- What becomes of a high byte. -/
def ByteRegion.keep : ByteRegion → UInt8 → UInt8
  | .code, b => b
  | .text _, b => b
  | .line, b => blankByte b
  | .block _, b => blankByte b

/-- Whether the quote of a region is a character of ASCII. -/
def Region.IsAscii : Region → Prop
  | .text quote => quote.utf8Size = 1
  | _ => True

theorem blankBytes_high (region : Region) (ascii : region.IsAscii)
    (high : ∀ b ∈ front, isHigh b = true) (rest : List UInt8) :
    blankBytes region.ofBytes (front ++ rest) =
      front.map region.ofBytes.keep ++ blankBytes region.ofBytes rest := by
  induction front with
  | nil => rfl
  | cons b front ih =>
    obtain ⟨first, others⟩ := List.forall_mem_cons.1 high
    have differs : ∀ {c : Char}, c.utf8Size = 1 → b ≠ c.toUInt8 := Text.ne_of_isHigh first
    rw [List.cons_append, List.map_cons, List.cons_append, ← ih others]
    cases region with
    | code =>
      have quoted : isQuoteByte b = false := by
        simp [isQuoteByte, differs (c := '\'') rfl, differs (c := '\x22') rfl]
      unfold Region.ofBytes
      rw [blankBytes_code (differs rfl) (fun both => differs rfl both.1)
        (fun both => differs rfl both.1), quoted]
      rfl
    | text quote =>
      unfold Region.ofBytes
      rw [blankBytes_text (differs rfl), if_neg (by simpa using differs ascii)]
      rfl
    | line =>
      unfold Region.ofBytes
      rw [blankBytes_line, if_neg (by simpa using differs (c := '\n') rfl)]
      rfl
    | block depth =>
      unfold Region.ofBytes
      rw [blankBytes_block (fun both => differs rfl both.1) (fun both => differs rfl both.1)]
      rfl

theorem blankByte_of_ne {b : UInt8} (line : b ≠ '\n'.toUInt8) (feed : b ≠ '\r'.toUInt8) :
    blankByte b = ' '.toUInt8 := by
  simp [blankByte, line, feed]

theorem bytes_replicate (n : Nat) :
    bytes (List.replicate n ' ') = List.replicate n ' '.toUInt8 := by
  induction n with
  | zero => rfl
  | succ n ih =>
    rw [List.replicate_succ, Text.bytes_cons, ih, List.replicate_succ]
    rfl

theorem bytes_blank (c : Char) : bytes (blank c) = (String.utf8EncodeChar c).map blankByte := by
  unfold blank
  split
  · rename_i breaks
    simp only [Bool.or_eq_true, beq_iff_eq] at breaks
    rcases breaks with rfl | rfl <;> rfl
  · rename_i other
    simp only [Bool.or_eq_true, beq_iff_eq, not_or] at other
    have blanked : ∀ b ∈ String.utf8EncodeChar c, blankByte b = ' '.toUInt8 := by
      intro b member
      rcases Text.ascii_or_high c with ⟨ascii, one⟩ | ⟨-, high⟩
      · rw [one, List.mem_singleton] at member
        subst member
        exact blankByte_of_ne (mt (Text.toUInt8_inj ascii rfl).1 other.1)
          (mt (Text.toUInt8_inj ascii rfl).1 other.2)
      · exact blankByte_of_ne (Text.ne_of_isHigh (high b member) rfl)
          (Text.ne_of_isHigh (high b member) rfl)
    rw [List.map_congr_left blanked, List.map_const', String.length_utf8EncodeChar,
      bytes_replicate]

theorem beq_toUInt8 {c d : Char} (ascii : c.utf8Size = 1) (ascii' : d.utf8Size = 1) :
    (c.toUInt8 == d.toUInt8) = (c == d) := by
  rw [Bool.eq_iff_iff, beq_iff_eq, beq_iff_eq, Text.toUInt8_inj ascii ascii']

/-- A byte of ASCII and the one behind it are given ones only if the characters are. -/
theorem not_pair {c d e : Char} {cs : List Char} (ascii : c.utf8Size = 1) (first : d.utf8Size = 1)
    (second : e.utf8Size = 1) (apart : ∀ rest, c = d → cs = e :: rest → False) :
    ¬(c.toUInt8 = d.toUInt8 ∧ (bytes cs).head? = some e.toUInt8) := by
  rintro ⟨same, next⟩
  obtain ⟨rest, text⟩ := List.head?_eq_some_iff.1 ((Text.head?_bytes second).1 next)
  exact apart rest ((Text.toUInt8_inj ascii first).1 same) text

theorem isQuoteByte_toUInt8 {c : Char} (ascii : c.utf8Size = 1) :
    isQuoteByte c.toUInt8 = isQuote c := by
  rw [isQuoteByte, beq_toUInt8 ascii rfl, beq_toUInt8 ascii rfl, isQuote]

/-! What becomes of the bytes of one character. A character that is not of ASCII is passed byte by
byte, and the region stays. -/

section Character

variable {c quote : Char} {cs : List Char}

theorem ne_of_large {d : Char} (large : c.utf8Size ≠ 1) (ascii : d.utf8Size = 1) : c ≠ d := by
  rintro rfl
  exact large ascii

theorem blankBytes_bytes_line (c : Char) (cs : List Char) :
    blankBytes .line (bytes (c :: cs)) = bytes (blank c) ++
      blankBytes (if c == '\n' then Region.code else .line).ofBytes (bytes cs) := by
  rw [bytes_blank, Text.bytes_cons]
  rcases Text.ascii_or_high c with ⟨small, one⟩ | ⟨large, high⟩
  · rw [one, List.singleton_append, blankBytes, beq_toUInt8 small rfl]
    cases c == '\n' <;> rfl
  · have apart : (c == '\n') = false := beq_eq_false_iff_ne.2 (ne_of_large large rfl)
    rw [apart]
    exact blankBytes_high .line trivial high (bytes cs)

theorem blankBytes_bytes_block (opens : ∀ rest, c = '/' → cs = '*' :: rest → False)
    (closes : ∀ rest, c = '*' → cs = '/' :: rest → False) :
    blankBytes (.block depth) (bytes (c :: cs)) =
      bytes (blank c) ++ blankBytes (.block depth) (bytes cs) := by
  rw [bytes_blank, Text.bytes_cons]
  rcases Text.ascii_or_high c with ⟨small, one⟩ | ⟨-, high⟩
  · rw [one, List.singleton_append, blankBytes_block (not_pair small rfl rfl opens)
      (not_pair small rfl rfl closes)]
    rfl
  · exact blankBytes_high (.block depth) trivial high (bytes cs)

/-- Behind a backslash the first byte of a character is passed, and then those that go on with
it. -/
theorem blankBytes_bytes_escape (ascii : quote.utf8Size = 1) (c : Char) (cs : List Char) :
    blankBytes (.text quote.toUInt8) (bytes ('\\' :: c :: cs)) =
      bytes ['\\', c] ++ blankBytes (.text quote.toUInt8) (bytes cs) := by
  obtain ⟨lead, more, text⟩ := Text.exists_bytes c
  have continues : ∀ b ∈ more, isHigh b = true := by
    intro b member
    rcases Text.ascii_or_high c with ⟨-, one⟩ | ⟨-, high⟩
    · rw [text] at one
      rw [(List.cons.inj one).2] at member
      cases member
    · exact high b (text ▸ List.mem_cons_of_mem _ member)
  have passed := blankBytes_high (.text quote) ascii continues (bytes cs)
  have kept : more.map (ByteRegion.text quote.toUInt8).keep = more := List.map_id more
  rw [Region.ofBytes, kept] at passed
  have pair : bytes ['\\', c] = '\\'.toUInt8 :: lead :: more := by
    rw [Text.bytes_cons, Text.bytes_cons, text]
    exact congrArg ('\\'.toUInt8 :: lead :: ·) (List.append_nil more)
  have whole : bytes ('\\' :: c :: cs) = bytes ['\\', c] ++ bytes cs :=
    Text.bytes_append ['\\', c] cs
  rw [whole, pair]
  exact congrArg ('\\'.toUInt8 :: lead :: ·) passed

theorem blankBytes_bytes_text (ascii : quote.utf8Size = 1)
    (escape : ∀ d rest, c = '\\' → cs = d :: rest → False) :
    blankBytes (.text quote.toUInt8) (bytes (c :: cs)) = String.utf8EncodeChar c ++
      blankBytes (if c == quote then Region.code else .text quote).ofBytes (bytes cs) := by
  rw [Text.bytes_cons]
  rcases Text.ascii_or_high c with ⟨small, one⟩ | ⟨large, high⟩
  · rw [one, List.singleton_append, List.singleton_append]
    by_cases backslash : c = '\\'
    · subst backslash
      cases cs with
      | nil =>
        have ended : bytes [] = [] := rfl
        rw [ended, blankBytes_nil]
        rfl
      | cons d rest => exact (escape d rest rfl rfl).elim
    · rw [blankBytes_text (mt (Text.toUInt8_inj small rfl).1 backslash), beq_toUInt8 small ascii]
      cases c == quote <;> rfl
  · have apart : (c == quote) = false := beq_eq_false_iff_ne.2 (ne_of_large large ascii)
    have passed := blankBytes_high (.text quote) ascii high (bytes cs)
    rw [apart, if_neg Bool.false_ne_true, ← Region.ofBytes.eq_2, passed]
    exact congrArg (· ++ _) (List.map_id _)

theorem blankBytes_bytes_code (number : c ≠ '#')
    (hyphen : ∀ rest, c = '-' → cs = '-' :: rest → False)
    (opens : ∀ rest, c = '/' → cs = '*' :: rest → False) :
    blankBytes .code (bytes (c :: cs)) = String.utf8EncodeChar c ++
      blankBytes (if isQuote c then Region.text c else .code).ofBytes (bytes cs) := by
  rw [Text.bytes_cons]
  rcases Text.ascii_or_high c with ⟨small, one⟩ | ⟨large, high⟩
  · rw [one, List.singleton_append, List.singleton_append,
      blankBytes_code (mt (Text.toUInt8_inj small rfl).1 number)
        (not_pair small rfl rfl hyphen) (not_pair small rfl rfl opens), isQuoteByte_toUInt8 small]
    cases isQuote c <;> rfl
  · have plain : isQuote c = false := by
      simp [isQuote, ne_of_large large (d := '\'') rfl, ne_of_large large (d := '\x22') rfl]
    have passed := blankBytes_high .code trivial high (bytes cs)
    rw [plain, if_neg Bool.false_ne_true, ← Region.ofBytes.eq_1, passed]
    exact congrArg (· ++ _) (List.map_id _)

end Character

theorem isAscii_of_isQuote {c : Char} (quoted : isQuote c = true) : c.utf8Size = 1 := by
  simp only [isQuote, Bool.or_eq_true, beq_iff_eq] at quoted
  rcases quoted with rfl | rfl <;> rfl

/-- Blanking the bytes of a source gives the bytes of the blanked source. -/
theorem blankBytes_bytes (region : Region) (ascii : region.IsAscii) (cs : List Char) :
    blankBytes region.ofBytes (bytes cs) = bytes (blankFrom region cs) := by
  induction region, cs using blankFrom.induct with
  | case1 region => cases region <;> rfl
  | case2 c rest ih =>
    have next : (if c == '\n' then Region.code else .line).IsAscii := by split <;> trivial
    rw [blankFrom, Text.bytes_append, ← ih next]
    exact blankBytes_bytes_line c rest
  | case3 depth rest ih => exact congrArg (' '.toUInt8 :: ' '.toUInt8 :: ·) (ih trivial)
  | case4 depth rest ih =>
    have next : (if depth ≤ 1 then Region.code else .block (depth - 1)).IsAscii := by
      split <;> trivial
    have outer : (if depth ≤ 1 then ByteRegion.code else .block (depth - 1)) =
        (if depth ≤ 1 then Region.code else .block (depth - 1)).ofBytes := by
      split <;> rfl
    have read := ih next
    rw [← outer] at read
    exact congrArg (' '.toUInt8 :: ' '.toUInt8 :: ·) read
  | case5 depth c rest opens closes ih =>
    rw [blankFrom.eq_5 _ _ _ opens closes, Text.bytes_append, ← ih trivial]
    exact blankBytes_bytes_block opens closes
  | case6 quote c rest ih =>
    have read := blankBytes_bytes_escape ascii c rest
    rw [← Region.ofBytes.eq_2, ih ascii] at read
    rw [read, blankFrom, ← Text.bytes_append]
    rfl
  | case7 quote c rest escape ih =>
    have next : (if c == quote then Region.code else .text quote).IsAscii := by
      split
      · trivial
      · exact ascii
    rw [blankFrom.eq_7 _ _ _ escape]
    exact (blankBytes_bytes_text ascii escape).trans (congrArg (_ ++ ·) (ih next))
  | case8 rest ih => exact (blankBytes_number (bytes rest)).trans (congrArg _ (ih trivial))
  | case9 rest ih => exact congrArg (' '.toUInt8 :: ' '.toUInt8 :: ·) (ih trivial)
  | case10 rest ih => exact congrArg (' '.toUInt8 :: ' '.toUInt8 :: ·) (ih trivial)
  | case11 c rest number hyphen opens ih =>
    have next : (if isQuote c then Region.text c else .code).IsAscii := by
      split
      · rename_i quoted
        exact isAscii_of_isQuote quoted
      · trivial
    rw [blankFrom.eq_11 _ _ number hyphen opens]
    exact (blankBytes_bytes_code number hyphen opens).trans (congrArg (_ ++ ·) (ih next))

/-! Sources without comments. -/

/-- Whether a byte may stand where another stood: the same, or a blank in the place of what is no
line break. -/
def MayReplace (old new : UInt8) : Prop :=
  new = old ∨ new = ' '.toUInt8 ∧ old ≠ '\n'.toUInt8 ∧ old ≠ '\r'.toUInt8

theorem mayReplace_blankByte (b : UInt8) : MayReplace b (blankByte b) := by
  unfold blankByte
  split
  · exact .inl rfl
  · rename_i other
    simp only [Bool.or_eq_true, beq_iff_eq, not_or] at other
    exact .inr ⟨rfl, other⟩

theorem forall₂_mayReplace_self (bs : List UInt8) : List.Forall₂ MayReplace bs bs :=
  List.forall₂_same.2 (fun _ _ => .inl rfl)

theorem forall₂_blank (cs : List Char) :
    List.Forall₂ MayReplace (bytes cs) (bytes (cs.flatMap blank)) := by
  induction cs with
  | nil => exact .nil
  | cons c cs ih =>
    rw [Text.bytes_cons, List.flatMap_cons, Text.bytes_append, bytes_blank]
    refine List.rel_append ?_ ih
    exact List.forall₂_map_right_iff.2 (List.forall₂_same.2 (fun b _ => mayReplace_blankByte b))

theorem joinParts_blanked (part : Part) : joinParts part.blanked =
    match part with
    | .comment cs => cs.flatMap blank
    | part => part.chars := by
  cases part with
  | plain c => rfl
  | literal cs => exact List.append_nil cs
  | comment cs => simp [joinParts, Part.blanked, List.flatMap_map, Part.chars]

theorem forall₂_blanked (parts : List Part) :
    List.Forall₂ MayReplace (bytes (joinParts parts))
      (bytes (joinParts (parts.flatMap Part.blanked))) := by
  induction parts with
  | nil => exact .nil
  | cons part parts ih =>
    have first : List.Forall₂ MayReplace (bytes part.chars) (bytes (joinParts part.blanked)) := by
      rw [joinParts_blanked]
      cases part with
      | comment cs => exact forall₂_blank cs
      | _ => exact forall₂_mayReplace_self _
    rw [joinParts, List.flatMap_cons, Text.bytes_append, List.flatMap_cons, joinParts_append,
      Text.bytes_append]
    exact List.rel_append first ih

theorem byteLength_blanked (parts : List Part) :
    Text.byteLength (joinParts (parts.flatMap Part.blanked)) =
      Text.byteLength (joinParts parts) := by
  rw [← Text.length_bytes, ← Text.length_bytes, (forall₂_blanked parts).length_eq]

theorem parted_plain {front back : List Part} {c : Char} {cs : List Char}
    (parted : Parted cs (front ++ .plain c :: back)) : opensComment (c :: joinParts back) = false := by
  induction front generalizing cs with
  | nil =>
    cases parted with
    | plain _ opens rest =>
      rw [joinParts_of_parted rest]
      exact opens
  | cons part front ih =>
    cases parted with
    | plain _ _ rest => exact ih rest
    | literal _ rest => exact ih rest
    | comment _ rest => exact ih rest

/-- The bytes that are blanked one by one are valid, and those of the text without comments. -/
theorem fromUTF8?_blankBytes (s : String) :
    String.fromUTF8? (blankBytes .code (utf8 s)).toByteArray = some (stripComments s) := by
  have same := blankBytes_bytes .code trivial s.toList
  rw [Text.utf8_eq_bytes]
  exact (congrArg _ (congrArg _ same)).trans (Text.fromUTF8?_bytes _)

/-- What is left of a source with certain parts when its comments are stripped. -/
structure StripsTo (s : String) (parts : List Part) (stripped : String) : Prop where
  /-- The quoted texts and comments of a source are where its only parting has them. -/
  parting : ∀ others, Parted s.toList others ↔ others = parts
  /-- Comments become blanks, and the other parts stay. -/
  parted : Parted stripped.toList (parts.flatMap Part.blanked)
  uncommented : ∀ part ∈ parts.flatMap Part.blanked, part.isComment = false
  /-- Nothing outside of quoted texts opens a comment. -/
  unopened : ∀ front c back, parts.flatMap Part.blanked = front ++ .plain c :: back →
    opensComment (c :: joinParts back) = false
  /-- A quoted text stands at the byte where it stood. -/
  literal : ∀ front cs back, parts = front ++ .literal cs :: back →
    ∃ before behind, stripped.toList = before ++ (cs ++ behind) ∧
      Text.byteLength before = Text.byteLength (joinParts front)
  /-- Byte by byte, a source gives way to a text of its length. -/
  replaced : List.Forall₂ MayReplace (utf8 s) (utf8 stripped)
  /-- The bytes that are blanked one by one are valid, and those of the text. -/
  valid : String.fromUTF8? (blankBytes .code (utf8 s)).toByteArray = some stripped
  stable : stripComments stripped = stripped

/-- Stripping leaves of every source the source without its comments. -/
theorem stripComments_stripsTo (s : String) : ∃ parts, StripsTo s parts (stripComments s) := by
  obtain ⟨parts, parted⟩ := exists_parted s.toList
  have text : (stripComments s).toList = blankFrom .code s.toList := String.toList_ofList
  have blanked : Parted (stripComments s).toList (parts.flatMap Part.blanked) := by
    rw [text]
    exact parted.blank
  have none : ∀ part ∈ parts.flatMap Part.blanked, part.isComment = false := by
    intro part member
    obtain ⟨whole, -, inner⟩ := List.mem_flatMap.1 member
    exact isComment_of_mem_blanked inner
  refine ⟨parts, ?_⟩
  constructor
  case parting => exact fun others => ⟨fun other => other.unique parted, fun same => same ▸ parted⟩
  case parted => exact blanked
  case uncommented => exact none
  case unopened =>
    intro front c back same
    rw [same] at blanked
    exact parted_plain blanked
  case literal =>
    rintro front cs back rfl
    refine ⟨joinParts (front.flatMap Part.blanked), joinParts (back.flatMap Part.blanked), ?_,
      byteLength_blanked front⟩
    rw [← joinParts_of_parted blanked, List.flatMap_append, List.flatMap_cons, joinParts_append,
      joinParts_append, joinParts_blanked]
    rfl
  case replaced =>
    have replaced := forall₂_blanked parts
    rw [joinParts_of_parted parted, joinParts_of_parted blanked] at replaced
    rw [Text.utf8_eq_bytes, Text.utf8_eq_bytes]
    exact replaced
  case valid => exact fromUTF8?_blankBytes s
  case stable => rw [stripComments, blankFrom_of_parted blanked none, String.ofList_toList]

end ThreatHunt.Source
