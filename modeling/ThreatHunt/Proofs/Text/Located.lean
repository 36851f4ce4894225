import ThreatHunt.Text.Located

/-!
Texts in parts. A part of a text takes as many bytes as its characters do, and what is cut out
between the ends of a part is that part.
-/

namespace ThreatHunt.Text

variable {start : Nat} {c : Char} {cs front middle back : List Char}

theorem byteLength_cons (c : Char) (cs : List Char) :
    byteLength (c :: cs) = c.utf8Size + byteLength cs := rfl

theorem byteLength_append (front back : List Char) :
    byteLength (front ++ back) = byteLength front + byteLength back := by
  induction front with
  | nil => simp [byteLength]
  | cons c cs ih => rw [List.cons_append, byteLength_cons, byteLength_cons, ih, Nat.add_assoc]

theorem length_le_byteLength (cs : List Char) : cs.length ≤ byteLength cs := by
  induction cs with
  | nil => exact Nat.le_refl 0
  | cons c cs ih =>
    have size := c.utf8Size_pos
    rw [byteLength_cons, List.length_cons]
    omega

theorem locateFrom_append (start : Nat) (front back : List Char) :
    locateFrom start (front ++ back) =
      locateFrom start front ++ locateFrom (start + byteLength front) back := by
  induction front generalizing start with
  | nil => simp [locateFrom, byteLength]
  | cons c cs ih =>
    rw [List.cons_append, locateFrom, ih, locateFrom, byteLength_cons, List.cons_append,
      Nat.add_assoc]

theorem length_locateFrom (start : Nat) (cs : List Char) :
    (locateFrom start cs).length = cs.length := by
  induction cs generalizing start with
  | nil => rfl
  | cons c cs ih => rw [locateFrom, List.length_cons, ih, List.length_cons]

theorem drop_locateFrom (start : Nat) (front back : List Char) :
    (locateFrom start (front ++ back)).drop front.length =
      locateFrom (start + byteLength front) back := by
  rw [locateFrom_append, ← length_locateFrom start front, List.drop_left]

theorem textOf_take (start : Nat) (c : Located) (front back : List Char) :
    textOf (c :: (locateFrom start (front ++ back)).take front.length) =
      String.ofList (c.char :: front) := by
  rw [locateFrom_append, ← length_locateFrom start front, List.take_left, textOf,
    List.map_cons, map_char_locateFrom]

theorem offset_of_mem_locateFrom {d : Located} (member : d ∈ locateFrom start cs) :
    start ≤ d.offset ∧ d.offset + d.char.utf8Size ≤ start + byteLength cs := by
  induction cs generalizing start with
  | nil => cases member
  | cons c cs ih =>
    rw [byteLength_cons]
    rcases List.mem_cons.1 member with rfl | later
    · exact ⟨Nat.le_refl _, by dsimp only; omega⟩
    · obtain ⟨low, high⟩ := ih later
      exact ⟨by omega, by omega⟩

/-- All characters of a part begin before its end. -/
theorem offset_lt_of_mem_locateFrom {d : Located} (member : d ∈ locateFrom start cs) :
    d.offset < start + byteLength cs := by
  have within := (offset_of_mem_locateFrom member).2
  have size := Char.utf8Size_pos d.char
  omega

/-- What stands before a character takes the bytes up to it. -/
theorem split_of_mem_locateFrom {d : Located} (member : d ∈ locateFrom start cs) :
    ∃ front back, cs = front ++ back ∧ d.offset = start + byteLength front := by
  induction cs generalizing start with
  | nil => cases member
  | cons c cs ih =>
    rcases List.mem_cons.1 member with rfl | later
    · exact ⟨[], c :: cs, rfl, rfl⟩
    · obtain ⟨front, back, rfl, place⟩ := ih later
      refine ⟨c :: front, back, rfl, ?_⟩
      rw [place, byteLength_cons, Nat.add_assoc]

/-- Characters begin one after the other. -/
theorem pairwise_locateFrom (start : Nat) (cs : List Char) :
    (locateFrom start cs).Pairwise (fun c d => c.offset < d.offset) := by
  induction cs generalizing start with
  | nil => exact .nil
  | cons c cs ih =>
    refine .cons (fun d member => ?_) (ih (start + c.utf8Size))
    have later := (offset_of_mem_locateFrom member).1
    have size := Char.utf8Size_pos c
    dsimp only
    omega

/-- A text begins in the first column of the first line. -/
theorem positionAt_zero (s : String) : positionAt s 0 = ⟨1, 1⟩ := by
  rw [positionAt, before]
  cases locate s with
  | nil => rfl
  | cons c cs => simp

end ThreatHunt.Text

/-!
The bytes of texts. A character of ASCII is one byte, and all bytes of any other character lie
above ASCII: what looks for a character of ASCII among bytes finds the same as among characters.
Runs of bytes are runs of characters where a test of a character does not depend on which of its
bytes is looked at.
-/

namespace ThreatHunt.Text

section Bytes

variable {c d : Char} {cs front back : List Char}

/-- The bytes of characters. -/
def bytes (cs : List Char) : List UInt8 := cs.flatMap String.utf8EncodeChar

/-- Whether a byte is no character of ASCII. -/
def isHigh (b : UInt8) : Bool := 128 ≤ b.toNat

theorem bytes_cons (c : Char) (cs : List Char) :
    bytes (c :: cs) = String.utf8EncodeChar c ++ bytes cs := rfl

theorem bytes_append (front back : List Char) :
    bytes (front ++ back) = bytes front ++ bytes back := List.flatMap_append

theorem length_bytes (cs : List Char) : (bytes cs).length = byteLength cs := by
  induction cs with
  | nil => rfl
  | cons c cs ih =>
    rw [bytes_cons, List.length_append, String.length_utf8EncodeChar, ih, byteLength_cons]

theorem toUTF8_ofList (cs : List Char) : (String.ofList cs).toUTF8 = (bytes cs).toByteArray := by
  rw [String.toUTF8_eq_toByteArray, String.toByteArray_ofList]
  rfl

/-- The bytes of a text. -/
def utf8 (s : String) : List UInt8 := s.toUTF8.data.toList

theorem utf8_eq_bytes (s : String) : utf8 s = bytes s.toList := by
  rw [utf8, ← String.ofList_toList (s := s), toUTF8_ofList, String.toList_ofList]
  simp

/-- Bytes that are those of characters are read as these characters. -/
theorem fromUTF8?_bytes (cs : List Char) :
    String.fromUTF8? (bytes cs).toByteArray = some (String.ofList cs) := by
  have valid : (bytes cs).toByteArray.IsValidUTF8 := ⟨cs, rfl⟩
  rw [String.fromUTF8?, dif_pos valid]
  exact congrArg some rfl

/-! Bytes of one character. -/

theorem utf8EncodeChar_of_ascii (ascii : c.utf8Size = 1) :
    String.utf8EncodeChar c = [c.toUInt8] := String.utf8EncodeChar_eq_singleton ascii

theorem isHigh_ofNat {n : Nat} (low : 128 ≤ n) (high : n < 256) :
    isHigh (UInt8.ofNat n) = true := by
  rw [isHigh, decide_eq_true_eq, UInt8.toNat_ofNat', Nat.mod_eq_of_lt high]
  exact low

theorem isHigh_of_mem (large : c.utf8Size ≠ 1) :
    ∀ b ∈ String.utf8EncodeChar c, isHigh b = true := by
  have beyond : ¬c.val.toNat ≤ 0x7f := by
    intro small
    exact large (Char.utf8Size_eq_one_iff.2 (UInt32.le_iff_toNat_le.2 small))
  intro b member
  unfold String.utf8EncodeChar at member
  dsimp only at member
  rw [if_neg beyond] at member
  split at member
  · rw [List.mem_cons, List.mem_singleton] at member
    rcases member with rfl | rfl <;> exact isHigh_ofNat (by omega) (by omega)
  · split at member
    · simp only [List.mem_cons, List.not_mem_nil, or_false] at member
      rcases member with rfl | rfl | rfl <;> exact isHigh_ofNat (by omega) (by omega)
    · simp only [List.mem_cons, List.not_mem_nil, or_false] at member
      rcases member with rfl | rfl | rfl | rfl <;> exact isHigh_ofNat (by omega) (by omega)

theorem toNat_toUInt8 (ascii : c.utf8Size = 1) : c.toUInt8.toNat = c.toNat := by
  rw [Char.utf8Size_eq_one_iff, UInt32.le_iff_toNat_le] at ascii
  have small : c.val.toNat ≤ 127 := ascii
  rw [← Char.toUInt8_val, UInt32.toNat_toUInt8]
  exact Nat.mod_eq_of_lt (by omega)

theorem isHigh_toUInt8 (ascii : c.utf8Size = 1) : isHigh c.toUInt8 = false := by
  rw [isHigh, toNat_toUInt8 ascii, decide_eq_false_iff_not]
  rw [Char.utf8Size_eq_one_iff, UInt32.le_iff_toNat_le] at ascii
  have small : c.val.toNat ≤ 127 := ascii
  exact Nat.not_le.2 (Nat.lt_succ_of_le small)

theorem toUInt8_inj (ascii : c.utf8Size = 1) (ascii' : d.utf8Size = 1) :
    c.toUInt8 = d.toUInt8 ↔ c = d := by
  constructor
  · intro same
    have numbers := congrArg UInt8.toNat same
    rw [toNat_toUInt8 ascii, toNat_toUInt8 ascii'] at numbers
    exact Char.toNat_inj.1 numbers
  · exact congrArg Char.toUInt8

theorem ne_of_isHigh {b : UInt8} (high : isHigh b = true) (ascii : c.utf8Size = 1) :
    b ≠ c.toUInt8 := by
  rintro rfl
  rw [isHigh_toUInt8 ascii] at high
  exact Bool.false_ne_true high

/-- A character is one byte of ASCII, or its bytes are high. -/
theorem ascii_or_high (c : Char) :
    (c.utf8Size = 1 ∧ String.utf8EncodeChar c = [c.toUInt8]) ∨
      (c.utf8Size ≠ 1 ∧ ∀ b ∈ String.utf8EncodeChar c, isHigh b = true) := by
  by_cases ascii : c.utf8Size = 1
  · exact .inl ⟨ascii, utf8EncodeChar_of_ascii ascii⟩
  · exact .inr ⟨ascii, isHigh_of_mem ascii⟩

theorem exists_bytes (c : Char) : ∃ b more, String.utf8EncodeChar c = b :: more := by
  apply List.exists_cons_of_ne_nil
  intro none
  have size := String.length_utf8EncodeChar c
  rw [none] at size
  exact absurd size.symm (Nat.ne_of_gt (Char.utf8Size_pos c))

/-- A byte of ASCII at the head is the first character. -/
theorem head?_bytes (ascii : d.utf8Size = 1) :
    (bytes cs).head? = some d.toUInt8 ↔ cs.head? = some d := by
  cases cs with
  | nil => simp [bytes]
  | cons c cs =>
    rw [bytes_cons, List.head?_cons, Option.some.injEq]
    rcases ascii_or_high c with ⟨small, one⟩ | ⟨large, high⟩
    · rw [one, List.singleton_append, List.head?_cons, Option.some.injEq, toUInt8_inj small ascii]
    · have apart : c ≠ d := fun same => large (same ▸ ascii)
      obtain ⟨b, more, text⟩ := exists_bytes c
      have other := ne_of_isHigh (high b (by simp [text])) ascii
      simp [text, other, apart]

end Bytes

/-! Cuts. A cut is checked: it gives nothing if an end lies outside of the text or inside of a
character. -/

section Cuts

variable {s : String} {c : Char} {cs front middle back : List Char} {b : UInt8}

/-! Boundaries. -/

/-- Whether a byte goes on with a character that began before it. -/
def continues (b : UInt8) : Bool := 128 ≤ b.toNat && b.toNat < 192

/-- Whether a character begins at a byte, or the text ends there. -/
def isBoundary (s : String) (i : Nat) : Bool :=
  match (utf8 s).drop i with
  | [] => i == (utf8 s).length
  | b :: _ => !continues b

/-- A part of a text between two bytes, if both are boundaries and stand in order. -/
def cut? (s : String) (start stop : Nat) : Option String :=
  if start ≤ stop ∧ isBoundary s start ∧ isBoundary s stop then some (slice s start stop) else none

theorem continues_ofNat {n : Nat} (inside : n < 128 ∨ 192 ≤ n) (high : n < 256) :
    continues (UInt8.ofNat n) = false := by
  rw [continues, UInt8.toNat_ofNat', Nat.mod_eq_of_lt high, Bool.and_eq_false_iff,
    decide_eq_false_iff_not, decide_eq_false_iff_not]
  omega

/-- The first byte of a character does not go on with another. -/
theorem exists_lead (c : Char) :
    ∃ b more, String.utf8EncodeChar c = b :: more ∧ continues b = false := by
  unfold String.utf8EncodeChar
  dsimp only
  split
  · exact ⟨_, _, rfl, continues_ofNat (.inl (by omega)) (by omega)⟩
  split
  · exact ⟨_, _, rfl, continues_ofNat (.inr (by omega)) (by omega)⟩
  split
  · exact ⟨_, _, rfl, continues_ofNat (.inr (by omega)) (by omega)⟩
  · exact ⟨_, _, rfl, continues_ofNat (.inr (by omega)) (by omega)⟩

theorem length_utf8 (s : String) : (utf8 s).length = byteLength s.toList := by
  rw [utf8_eq_bytes, length_bytes]

theorem drop_utf8 (whole : s.toList = front ++ back) :
    (utf8 s).drop (byteLength front) = bytes back := by
  rw [utf8_eq_bytes, whole, bytes_append, ← length_bytes, List.drop_left]

/-- Between characters lies a boundary. -/
theorem isBoundary_of_append (whole : s.toList = front ++ back) :
    isBoundary s (byteLength front) = true := by
  unfold isBoundary
  rw [drop_utf8 whole]
  cases back with
  | nil =>
    rw [List.append_nil] at whole
    rw [length_utf8, whole]
    exact beq_self_eq_true _
  | cons c back =>
    obtain ⟨b, more, text, leads⟩ := exists_lead c
    rw [bytes_cons, text]
    simp [leads]

/-- What lies between the ends of a part of a text is the part. -/
theorem slice_middle (whole : s.toList = front ++ (middle ++ back)) :
    slice s (byteLength front) (byteLength front + byteLength middle) = String.ofList middle := by
  have first : ∀ d ∈ locateFrom 0 front, ¬byteLength front ≤ d.offset := by
    intro d member
    have early := offset_lt_of_mem_locateFrom member
    omega
  have inside : ∀ d ∈ locateFrom (byteLength front) middle, byteLength front ≤ d.offset ∧
      d.offset < byteLength front + byteLength middle := fun d member =>
    ⟨(offset_of_mem_locateFrom member).1, offset_lt_of_mem_locateFrom member⟩
  have last : ∀ d ∈ locateFrom (byteLength front + byteLength middle) back,
      ¬d.offset < byteLength front + byteLength middle := fun d member =>
    Nat.not_lt.2 (offset_of_mem_locateFrom member).1
  rw [slice, locate, whole, locateFrom_append, locateFrom_append, Nat.zero_add,
    List.filter_append, List.filter_append, List.filter_eq_nil_iff.2, List.filter_eq_self.2,
    List.filter_eq_nil_iff.2, List.nil_append, List.append_nil, textOf, map_char_locateFrom]
  · intro d member
    simp [last d member]
  · intro d member
    simp [inside d member]
  · intro d member
    simp [first d member]

theorem cut?_middle (whole : s.toList = front ++ (middle ++ back)) :
    cut? s (byteLength front) (byteLength front + byteLength middle) =
      some (String.ofList middle) := by
  have start := isBoundary_of_append whole
  have stop : isBoundary s (byteLength front + byteLength middle) = true := by
    rw [← byteLength_append]
    have split : s.toList = (front ++ middle) ++ back := by rw [whole, List.append_assoc]
    exact isBoundary_of_append split
  rw [cut?, if_pos ⟨Nat.le_add_right _ _, start, stop⟩, slice_middle whole]

/-- What is left of a line from byte `start` on, in a text that ends at byte `stop`. -/
def lineAt? (s : String) (start stop : Nat) : Option String := do
  let rest ← cut? s start stop
  cut? rest 0 (byteLength (rest.toList.takeWhile (· != '\n')))

theorem lineAt?_middle (whole : s.toList = front ++ (middle ++ back)) :
    lineAt? s (byteLength front) (byteLength front + byteLength middle) =
      some (String.ofList (middle.takeWhile (· != '\n'))) := by
  have split : (String.ofList middle).toList =
      [] ++ (middle.takeWhile (· != '\n') ++ middle.dropWhile (· != '\n')) := by
    rw [String.toList_ofList, List.nil_append, List.takeWhile_append_dropWhile]
  have line := cut?_middle split
  rw [show byteLength [] = 0 from rfl, Nat.zero_add] at line
  rw [lineAt?, cut?_middle whole, Option.bind_eq_bind, Option.bind_some, String.toList_ofList, line]

/-! Tests of bytes. -/

/-- A test of characters of ASCII as a test of bytes. -/
def ofAscii (inClass : Char → Bool) (b : UInt8) : Bool :=
  !isHigh b && inClass (Char.ofNat b.toNat)

/-- Whether a test of bytes finds in any byte of a character what a test of characters finds. -/
def Agrees (inBytes : UInt8 → Bool) (inClass : Char → Bool) : Prop :=
  ∀ c, ∀ b ∈ String.utf8EncodeChar c, inBytes b = inClass c

theorem ofAscii_toUInt8 (inClass : Char → Bool) (ascii : c.utf8Size = 1) :
    ofAscii inClass c.toUInt8 = inClass c := by
  rw [ofAscii, isHigh_toUInt8 ascii, toNat_toUInt8 ascii, Char.ofNat_toNat]
  rfl

theorem ofAscii_high (inClass : Char → Bool) (high : isHigh b = true) :
    ofAscii inClass b = false := by
  simp [ofAscii, high]

theorem agrees_ofAscii {inClass : Char → Bool}
    (small : ∀ c, inClass c = true → c.utf8Size = 1) : Agrees (ofAscii inClass) inClass := by
  intro c b member
  rcases ascii_or_high c with ⟨ascii, one⟩ | ⟨large, high⟩
  · rw [one, List.mem_singleton] at member
    rw [member, ofAscii_toUInt8 inClass ascii]
  · have other : inClass c = false := eq_false_of_ne_true (fun holds => large (small c holds))
    rw [ofAscii_high inClass (high b member), other]

theorem takeWhile_bytes {inBytes : UInt8 → Bool} {inClass : Char → Bool}
    (agrees : Agrees inBytes inClass) (cs : List Char) :
    (bytes cs).takeWhile inBytes = bytes (cs.takeWhile inClass) := by
  induction cs with
  | nil => rfl
  | cons c cs ih =>
    have each := agrees c
    rw [bytes_cons, List.takeWhile_cons]
    cases holds : inClass c with
    | true =>
      rw [holds] at each
      rw [List.takeWhile_append_of_pos each, ih]
      rfl
    | false =>
      rw [holds] at each
      obtain ⟨b, more, text⟩ := exists_bytes c
      rw [text] at each ⊢
      rw [List.cons_append, List.takeWhile_cons_of_neg (by simp [each b List.mem_cons_self])]
      rfl

end Cuts

end ThreatHunt.Text
