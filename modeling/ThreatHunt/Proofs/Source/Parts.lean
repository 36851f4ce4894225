import ThreatHunt.Proofs.Source.Lexing

/-!
The parts of a source. A source is made of characters that stand alone, of quoted texts, and of
comments, and in one way only. Blanking the comments leaves the quoted texts and all line breaks
where they are, and makes a source that has no comments.
-/

namespace ThreatHunt.Source

variable {quote c : Char} {depth : Nat} {cs rest front back : List Char}

/-- Characters between quotes: a backslash takes the character behind it along. -/
inductive Quoted (quote : Char) : List Char → Prop where
  | nil : Quoted quote []
  | escaped {c : Char} {cs : List Char} : Quoted quote cs → Quoted quote ('\\' :: c :: cs)
  | plain {c : Char} {cs : List Char} : c ≠ '\\' → c ≠ quote → Quoted quote cs →
      Quoted quote (c :: cs)

/-- A quoted text before a rest. One without a closing quote reaches to the end of the source. -/
inductive IsLiteral : List Char → List Char → Prop where
  | closed {quote : Char} {cs : List Char} (rest : List Char) : isQuote quote = true →
      Quoted quote cs → IsLiteral (quote :: (cs ++ [quote])) rest
  | unclosed {quote : Char} {cs : List Char} : isQuote quote = true → Quoted quote cs →
      IsLiteral (quote :: cs) []
  /-- The source ends in a backslash. -/
  | broken {quote : Char} {cs : List Char} : isQuote quote = true → Quoted quote cs →
      IsLiteral (quote :: (cs ++ ['\\'])) []

/-- Whether a block opens or closes at the head of characters. -/
def marksBlock : List Char → Bool
  | '/' :: '*' :: _ => true
  | '*' :: '/' :: _ => true
  | _ => false

/-- What closes a number of nested blocks, before a rest. Blocks that are not closed reach to the
end of the source. -/
inductive Closing : Nat → List Char → List Char → Prop where
  | done (rest : List Char) : Closing 0 [] rest
  | ended (depth : Nat) : Closing (depth + 1) [] []
  | opens {depth : Nat} {cs rest : List Char} : Closing (depth + 2) cs rest →
      Closing (depth + 1) ('/' :: '*' :: cs) rest
  | closes {depth : Nat} {cs rest : List Char} : Closing depth cs rest →
      Closing (depth + 1) ('*' :: '/' :: cs) rest
  | plain {depth : Nat} {c : Char} {cs rest : List Char} :
      marksBlock (c :: (cs ++ rest)) = false → Closing (depth + 1) cs rest →
      Closing (depth + 1) (c :: cs) rest

/-- What opens a comment that ends with its line. -/
def lineMarks : List (List Char) := [['#'], ['-', '-']]

/-- A comment before a rest. -/
inductive IsComment : List Char → List Char → Prop where
  | line {mark cs rest : List Char} : mark ∈ lineMarks → '\n' ∉ cs →
      (∀ c ∈ rest.head?, c = '\n') → IsComment (mark ++ cs) rest
  | block {cs rest : List Char} : Closing 1 cs rest → IsComment ('/' :: '*' :: cs) rest

/-- Whether a comment starts at the head of characters. -/
def opensComment : List Char → Bool
  | '#' :: _ => true
  | '-' :: '-' :: _ => true
  | '/' :: '*' :: _ => true
  | _ => false

inductive Part where
  | plain (c : Char)
  | literal (cs : List Char)
  | comment (cs : List Char)
  deriving DecidableEq, Repr

namespace Part

def chars : Part → List Char
  | .plain c => [c]
  | .literal cs => cs
  | .comment cs => cs

/-- What is left of a part when comments are blanked. -/
def blanked : Part → List Part
  | .comment cs => (cs.flatMap blank).map .plain
  | part => [part]

end Part

/-- The characters of parts. -/
def joinParts (parts : List Part) : List Char := parts.flatMap Part.chars

/-- The parts of a source. A character stands alone where neither a quoted text nor a comment
starts. -/
inductive Parted : List Char → List Part → Prop where
  | nil : Parted [] []
  | plain {c : Char} {rest : List Char} {parts : List Part} : isQuote c = false →
      opensComment (c :: rest) = false → Parted rest parts → Parted (c :: rest) (.plain c :: parts)
  | literal {cs rest : List Char} {parts : List Part} : IsLiteral cs rest → Parted rest parts →
      Parted (cs ++ rest) (.literal cs :: parts)
  | comment {cs rest : List Char} {parts : List Part} : IsComment cs rest → Parted rest parts →
      Parted (cs ++ rest) (.comment cs :: parts)

theorem joinParts_append (front back : List Part) :
    joinParts (front ++ back) = joinParts front ++ joinParts back :=
  List.flatMap_append

theorem joinParts_of_parted {parts : List Part} (parted : Parted cs parts) :
    joinParts parts = cs := by
  induction parted with
  | nil => rfl
  | plain _ _ _ ih => exact congrArg (_ :: ·) ih
  | literal _ _ ih => exact congrArg (_ ++ ·) ih
  | comment _ _ ih => exact congrArg (_ ++ ·) ih

/-! Each source has parts. -/

/-- Characters behind an opening quote hold the closing one, or all of them are quoted, perhaps but
for a backslash at the end. -/
def Splits (quote : Char) (cs : List Char) : Prop :=
  (∃ front back, cs = front ++ quote :: back ∧ Quoted quote front) ∨ Quoted quote cs ∨
    ∃ front, cs = front ++ ['\\'] ∧ Quoted quote front

theorem Splits.extend (splits : Splits quote cs) (more : List Char)
    (each : ∀ {front}, Quoted quote front → Quoted quote (more ++ front)) :
    Splits quote (more ++ cs) := by
  rcases splits with ⟨front, back, rfl, quoted⟩ | quoted | ⟨front, rfl, quoted⟩
  · exact .inl ⟨more ++ front, back, (List.append_assoc ..).symm, each quoted⟩
  · exact .inr (.inl (each quoted))
  · exact .inr (.inr ⟨more ++ front, (List.append_assoc ..).symm, each quoted⟩)

theorem splits (quote : Char) : ∀ cs, Splits quote cs
  | [] => .inr (.inl .nil)
  | c :: rest => by
    by_cases escape : c = '\\'
    · subst escape
      cases rest with
      | nil => exact .inr (.inr ⟨[], rfl, .nil⟩)
      | cons d rest => exact (splits quote rest).extend ['\\', d] Quoted.escaped
    · by_cases closing : c = quote
      · exact .inl ⟨[], rest, by rw [closing, List.nil_append], .nil⟩
      · exact (splits quote rest).extend [c] (Quoted.plain escape closing)

theorem exists_literal (opens : isQuote quote = true) (cs : List Char) :
    ∃ front back, quote :: cs = front ++ back ∧ IsLiteral front back ∧ front ≠ [] := by
  rcases splits quote cs with ⟨front, back, rfl, quoted⟩ | quoted | ⟨front, rfl, quoted⟩
  · exact ⟨quote :: (front ++ [quote]), back, by simp, .closed back opens quoted, by simp⟩
  · exact ⟨quote :: cs, [], by simp, .unclosed opens quoted, by simp⟩
  · exact ⟨quote :: (front ++ ['\\']), [], by simp, .broken opens quoted, by simp⟩

theorem exists_of_marksBlock (marks : marksBlock cs = true) :
    ∃ inner, cs = '/' :: '*' :: inner ∨ cs = '*' :: '/' :: inner := by
  unfold marksBlock at marks
  split at marks
  · exact ⟨_, .inl rfl⟩
  · exact ⟨_, .inr rfl⟩
  · exact absurd marks Bool.false_ne_true

theorem exists_closing (depth : Nat) (cs : List Char) :
    ∃ front back, cs = front ++ back ∧ Closing depth front back := by
  induction size : cs.length using Nat.strongRecOn generalizing depth cs with
  | ind n ih =>
    cases depth with
    | zero => exact ⟨[], cs, rfl, .done cs⟩
    | succ depth =>
      cases marks : marksBlock cs with
      | true =>
        obtain ⟨inner, rfl | rfl⟩ := exists_of_marksBlock marks
        all_goals
          rw [List.length_cons, List.length_cons] at size
          have shorter : inner.length < n := by omega
        · obtain ⟨front, back, rfl, closing⟩ := ih inner.length shorter (depth + 2) inner rfl
          exact ⟨'/' :: '*' :: front, back, rfl, closing.opens⟩
        · obtain ⟨front, back, rfl, closing⟩ := ih inner.length shorter depth inner rfl
          exact ⟨'*' :: '/' :: front, back, rfl, closing.closes⟩
      | false =>
        cases cs with
        | nil => exact ⟨[], [], rfl, .ended depth⟩
        | cons c rest =>
          obtain ⟨front, back, rfl, closing⟩ := ih rest.length (by simp [← size]) (depth + 1) rest rfl
          exact ⟨c :: front, back, rfl, .plain marks closing⟩

theorem exists_of_opensComment (opens : opensComment cs = true) :
    ∃ inner, cs = '#' :: inner ∨ cs = '-' :: '-' :: inner ∨ cs = '/' :: '*' :: inner := by
  unfold opensComment at opens
  split at opens
  · exact ⟨_, .inl rfl⟩
  · exact ⟨_, .inr (.inl rfl)⟩
  · exact ⟨_, .inr (.inr rfl)⟩
  · exact absurd opens Bool.false_ne_true

/-- A comment ends with its line. -/
theorem exists_line (mark : List Char) (member : mark ∈ lineMarks) (cs : List Char) :
    ∃ front back, mark ++ cs = front ++ back ∧ IsComment front back := by
  refine ⟨mark ++ cs.takeWhile (· != '\n'), cs.dropWhile (· != '\n'), ?_, .line member ?_ ?_⟩
  · rw [List.append_assoc, List.takeWhile_append_dropWhile]
  · intro newline
    have other := List.all_eq_true.1 List.all_takeWhile '\n' newline
    exact absurd other (by decide)
  · intro c first
    have stops := List.head?_dropWhile_not (· != '\n') cs
    rw [first] at stops
    simpa using stops

theorem exists_comment (opens : opensComment cs = true) :
    ∃ front back, cs = front ++ back ∧ IsComment front back := by
  obtain ⟨inner, rfl | rfl | rfl⟩ := exists_of_opensComment opens
  · exact exists_line ['#'] (by simp [lineMarks]) inner
  · exact exists_line ['-', '-'] (by simp [lineMarks]) inner
  · obtain ⟨front, back, rfl, closing⟩ := exists_closing 1 inner
    exact ⟨'/' :: '*' :: front, back, rfl, .block closing⟩

theorem IsComment.opens (comment : IsComment cs rest) : opensComment (cs ++ rest) = true := by
  cases comment with
  | line member =>
    simp only [lineMarks, List.mem_cons, List.not_mem_nil, or_false] at member
    rcases member with rfl | rfl <;> rfl
  | block => rfl

theorem IsComment.ne_nil (comment : IsComment cs rest) : cs ≠ [] := by
  cases comment with
  | line member =>
    simp only [lineMarks, List.mem_cons, List.not_mem_nil, or_false] at member
    rcases member with rfl | rfl <;> simp
  | block => simp

theorem exists_parted (cs : List Char) : ∃ parts, Parted cs parts := by
  induction size : cs.length using Nat.strongRecOn generalizing cs with
  | ind n ih =>
    have shorter : ∀ {front back : List Char}, cs = front ++ back → front ≠ [] →
        ∃ parts, Parted back parts := by
      intro front back same some
      refine ih back.length ?_ back rfl
      have positive := List.length_pos_iff.2 some
      rw [← size, same, List.length_append]
      omega
    cases opens : opensComment cs with
    | true =>
      obtain ⟨front, back, same, comment⟩ := exists_comment opens
      obtain ⟨parts, parted⟩ := shorter same comment.ne_nil
      exact ⟨.comment front :: parts, same ▸ .comment comment parted⟩
    | false =>
      cases cs with
      | nil => exact ⟨[], .nil⟩
      | cons c rest =>
        cases quoted : isQuote c with
        | true =>
          obtain ⟨front, back, same, literal, some⟩ := exists_literal quoted rest
          obtain ⟨parts, parted⟩ := shorter same some
          exact ⟨.literal front :: parts, same ▸ .literal literal parted⟩
        | false =>
          obtain ⟨parts, parted⟩ := shorter (show c :: rest = [c] ++ rest from rfl) (List.cons_ne_nil _ _)
          exact ⟨.plain c :: parts, .plain quoted opens parted⟩

/-! A source has no other parts. -/

/-- What may stand behind the characters of a quoted text: its closing quote, or the end of the
source, perhaps with a backslash before it. -/
def IsTail (quote : Char) (cs : List Char) : Prop :=
  cs = [] ∨ cs = ['\\'] ∨ ∃ rest, cs = quote :: rest

theorem IsLiteral.exists_tail (literal : IsLiteral cs rest) :
    ∃ quote inner tail, isQuote quote = true ∧ Quoted quote inner ∧ IsTail quote tail ∧
      cs = quote :: (inner ++ tail.take 1) ∧ cs ++ rest = quote :: (inner ++ tail) := by
  cases literal with
  | @closed quote inner _ opens quoted =>
    exact ⟨quote, inner, quote :: rest, opens, quoted, .inr (.inr ⟨rest, rfl⟩), by simp, by simp⟩
  | @unclosed quote inner opens quoted =>
    exact ⟨quote, inner, [], opens, quoted, .inl rfl, by simp, by simp⟩
  | @broken quote inner opens quoted =>
    exact ⟨quote, inner, ['\\'], opens, quoted, .inr (.inl rfl), by simp, by simp⟩

/-- No quoted characters start a tail. -/
theorem IsTail.eq_nil (opens : isQuote quote = true) (quoted : Quoted quote cs) {tail : List Char}
    (isTail : IsTail quote tail) (same : tail = cs ++ rest) : cs = [] := by
  have other := ne_backslash_of_isQuote opens
  cases quoted with
  | nil => rfl
  | escaped _ =>
    rcases isTail with rfl | rfl | ⟨rest, rfl⟩
    · cases same
    · cases (List.cons.inj same).2
    · exact absurd (List.cons.inj same).1 other
  | plain escape differs _ =>
    rcases isTail with rfl | rfl | ⟨rest, rfl⟩
    · cases same
    · exact absurd (List.cons.inj same).1.symm escape
    · exact absurd (List.cons.inj same).1.symm differs

theorem Quoted.unique (opens : isQuote quote = true) (quoted : Quoted quote front)
    (other : Quoted quote back) {tail last : List Char} (isTail : IsTail quote tail)
    (isLast : IsTail quote last) (same : front ++ tail = back ++ last) :
    front = back ∧ tail = last := by
  induction quoted generalizing back with
  | nil =>
    obtain rfl := isTail.eq_nil opens other same
    exact ⟨rfl, same⟩
  | @escaped c front quoted ih =>
    cases other with
    | nil => exact absurd (isLast.eq_nil opens quoted.escaped same.symm) (List.cons_ne_nil _ _)
    | escaped other =>
      obtain ⟨rfl, more⟩ := List.cons.inj (List.cons.inj same).2
      obtain ⟨rfl, tails⟩ := ih other more
      exact ⟨rfl, tails⟩
    | plain escape _ _ => exact absurd (List.cons.inj same).1.symm escape
  | @plain c front escape differs quoted ih =>
    cases other with
    | nil =>
      have none := isLast.eq_nil opens (quoted.plain escape differs) same.symm
      exact absurd none (List.cons_ne_nil _ _)
    | escaped _ => exact absurd (List.cons.inj same).1 escape
    | plain _ _ other =>
      obtain ⟨rfl, more⟩ := List.cons.inj same
      obtain ⟨rfl, tails⟩ := ih other more
      exact ⟨rfl, tails⟩

theorem IsLiteral.unique {left right : List Char} (literal : IsLiteral cs rest)
    (other : IsLiteral left right) (same : cs ++ rest = left ++ right) : cs = left := by
  obtain ⟨quote, inner, tail, opens, quoted, isTail, rfl, text⟩ := literal.exists_tail
  obtain ⟨quote', inner', tail', -, quoted', isTail', rfl, text'⟩ := other.exists_tail
  rw [text, text'] at same
  obtain ⟨rfl, behind⟩ := List.cons.inj same
  obtain ⟨rfl, rfl⟩ := quoted.unique opens quoted' isTail isTail' behind
  rfl

theorem Closing.unique {left right : List Char} (closing : Closing depth cs rest)
    (other : Closing depth left right) (same : cs ++ rest = left ++ right) : cs = left := by
  induction closing generalizing left with
  | done => cases other; rfl
  | ended => exact (List.append_eq_nil_iff.1 same.symm).1.symm
  | opens closing ih =>
    cases other with
    | ended => cases same
    | opens other => rw [ih other (List.cons.inj (List.cons.inj same).2).2]
    | closes other => exact absurd (List.cons.inj same).1 (by decide)
    | plain mark other =>
      rw [← List.cons_append, ← same] at mark
      cases mark
  | closes closing ih =>
    cases other with
    | ended => cases same
    | opens other => exact absurd (List.cons.inj same).1 (by decide)
    | closes other => rw [ih other (List.cons.inj (List.cons.inj same).2).2]
    | plain mark other =>
      rw [← List.cons_append, ← same] at mark
      cases mark
  | plain mark closing ih =>
    rw [← List.cons_append, same] at mark
    cases other with
    | ended => cases same
    | opens other => cases mark
    | closes other => cases mark
    | plain _ other =>
      obtain ⟨rfl, more⟩ := List.cons.inj same
      rw [ih other more]

/-- A line ends before a line feed. -/
theorem takeWhile_line (plain : '\n' ∉ cs) (ends : ∀ c ∈ rest.head?, c = '\n') :
    (cs ++ rest).takeWhile (· != '\n') = cs := by
  apply takeWhile_append
  · exact List.all_eq_true.2 (fun c member => bne_iff_ne.2 (fun same => plain (same ▸ member)))
  · intro c first
    rw [ends c first]
    rfl

theorem IsComment.unique {left right : List Char} (comment : IsComment cs rest)
    (other : IsComment left right) (same : cs ++ rest = left ++ right) : cs = left := by
  cases comment with
  | @line mark front _ member plain ends =>
    cases other with
    | @line mark' front' _ member' plain' ends' =>
      rw [List.append_assoc, List.append_assoc] at same
      simp only [lineMarks, List.mem_cons, List.not_mem_nil, or_false] at member member'
      have marks : mark = mark' := by
        rcases member with rfl | rfl <;> rcases member' with rfl | rfl <;>
          first | rfl | exact absurd (List.cons.inj same).1 (by decide)
      subst marks
      have lines := List.append_cancel_left same
      rw [← takeWhile_line plain ends, lines, takeWhile_line plain' ends']
    | block =>
      simp only [lineMarks, List.mem_cons, List.not_mem_nil, or_false] at member
      rcases member with rfl | rfl <;> exact absurd (List.cons.inj same).1 (by decide)
  | block closing =>
    cases other with
    | line member =>
      simp only [lineMarks, List.mem_cons, List.not_mem_nil, or_false] at member
      rcases member with rfl | rfl <;> exact absurd (List.cons.inj same).1 (by decide)
    | block other => rw [closing.unique other (List.cons.inj (List.cons.inj same).2).2]

/-- What starts at the head of characters. -/
inductive Starts where
  | plain
  | literal
  | comment
  deriving DecidableEq

def starts (cs : List Char) : Starts :=
  if opensComment cs then .comment else if cs.head?.any isQuote then .literal else .plain

theorem starts_plain (quoted : isQuote c = false) (opens : opensComment (c :: rest) = false) :
    starts (c :: rest) = .plain := by
  simp [starts, quoted, opens]

theorem IsLiteral.starts (literal : IsLiteral cs rest) : starts (cs ++ rest) = .literal := by
  obtain ⟨quote, inner, tail, quoted, -, -, -, text⟩ := literal.exists_tail
  have opens : opensComment (quote :: (inner ++ tail)) = false := by
    simp only [isQuote, Bool.or_eq_true, beq_iff_eq] at quoted
    rcases quoted with rfl | rfl <;> rfl
  simp [Source.starts, text, opens, quoted]

theorem IsComment.starts (comment : IsComment cs rest) : starts (cs ++ rest) = .comment := by
  rw [Source.starts, comment.opens, if_pos rfl]

theorem Parted.unique {parts others : List Part} (parted : Parted cs parts)
    (other : Parted cs others) : parts = others := by
  induction parted generalizing others with
  | nil =>
    generalize text : ([] : List Char) = cs at other
    cases other with
    | nil => rfl
    | plain => cases text
    | literal literal => exact absurd (text ▸ literal.starts) (by decide)
    | comment comment => exact absurd (text ▸ comment.starts) (by decide)
  | @plain c rest _ quoted opens _ ih =>
    have kind := starts_plain quoted opens
    generalize text : c :: rest = cs at other
    cases other with
    | nil => cases text
    | plain _ _ other =>
      obtain ⟨rfl, rfl⟩ := List.cons.inj text
      rw [ih other]
    | literal literal _ =>
      rw [text, literal.starts] at kind
      cases kind
    | comment comment _ =>
      rw [text, comment.starts] at kind
      cases kind
  | @literal front rest _ literal _ ih =>
    have kind := literal.starts
    generalize text : front ++ rest = cs at other
    rw [text] at kind
    cases other with
    | nil => cases kind
    | plain quoted opens _ =>
      rw [starts_plain quoted opens] at kind
      cases kind
    | literal same other =>
      obtain rfl := literal.unique same text
      rw [ih (List.append_cancel_left text ▸ other)]
    | comment comment _ =>
      rw [comment.starts] at kind
      cases kind
  | @comment front rest _ comment _ ih =>
    have kind := comment.starts
    generalize text : front ++ rest = cs at other
    rw [text] at kind
    cases other with
    | nil => cases kind
    | plain quoted opens _ =>
      rw [starts_plain quoted opens] at kind
      cases kind
    | literal literal _ =>
      rw [literal.starts] at kind
      cases kind
    | comment same other =>
      obtain rfl := comment.unique same text
      rw [ih (List.append_cancel_left text ▸ other)]

/-! Blanking. -/

theorem blankFrom_quoted (quoted : Quoted quote cs) (rest : List Char) :
    blankFrom (.text quote) (cs ++ rest) = cs ++ blankFrom (.text quote) rest := by
  induction quoted with
  | nil => rfl
  | escaped _ ih => simp only [List.cons_append, blankFrom, ih]
  | @plain c cs escape differs _ ih =>
    rw [List.cons_append, blankFrom, if_neg (by simpa using differs), ih, List.cons_append]
    exact fun _ _ same => absurd same escape

theorem blankFrom_literal (literal : IsLiteral cs rest) :
    blankFrom .code (cs ++ rest) = cs ++ blankFrom .code rest := by
  have opened : ∀ {quote : Char} {cs : List Char}, isQuote quote = true →
      blankFrom .code (quote :: cs) = quote :: blankFrom (.text quote) cs := by
    intro quote cs quoted
    have both := quoted
    simp only [isQuote, Bool.or_eq_true, beq_iff_eq] at both
    rcases both with rfl | rfl <;> simp [blankFrom, quoted]
  cases literal with
  | @closed quote cs _ quoted inner =>
    have other := ne_backslash_of_isQuote quoted
    have close : blankFrom (.text quote) (quote :: rest) = quote :: blankFrom .code rest := by
      rw [blankFrom, if_pos (beq_self_eq_true quote)]
      exact fun _ _ same => absurd same other
    rw [List.cons_append, opened quoted, List.append_assoc, blankFrom_quoted inner,
      List.singleton_append, close]
    simp
  | @unclosed quote cs quoted inner =>
    rw [List.cons_append, opened quoted, blankFrom_quoted inner]
    rfl
  | @broken quote cs quoted inner =>
    rw [List.cons_append, opened quoted, List.append_assoc, blankFrom_quoted inner]
    have last : blankFrom (.text quote) ['\\'] = ['\\'] := by
      simp [blankFrom]
    rw [List.append_nil, last]
    simp [blankFrom]

/-- The region inside of nested blocks. -/
def within (depth : Nat) : Region := if depth = 0 then .code else .block depth

theorem blankFrom_block (mark : marksBlock (c :: rest) = false) (depth : Nat) :
    blankFrom (.block depth) (c :: rest) = blank c ++ blankFrom (.block depth) rest := by
  rw [blankFrom]
  · rintro after rfl rfl
    cases mark
  · rintro after rfl rfl
    cases mark

theorem blankFrom_closing (closing : Closing depth cs rest) :
    blankFrom (within depth) (cs ++ rest) = cs.flatMap blank ++ blankFrom .code rest := by
  induction closing with
  | done => rfl
  | ended => rfl
  | @opens depth cs rest _ ih =>
    have inner : within (depth + 2) = .block (depth + 2) := rfl
    rw [List.cons_append, List.cons_append, within, if_neg (Nat.succ_ne_zero depth), blankFrom,
      ← inner, ih]
    rfl
  | @closes depth cs rest _ ih =>
    have outer : (if depth + 1 ≤ 1 then Region.code else .block (depth + 1 - 1)) = within depth := by
      cases depth <;> rfl
    rw [List.cons_append, List.cons_append, within, if_neg (Nat.succ_ne_zero depth), blankFrom,
      outer, ih]
    rfl
  | @plain depth c cs rest mark _ ih =>
    have inner : within (depth + 1) = .block (depth + 1) := rfl
    rw [List.cons_append, inner, blankFrom_block mark, ← inner, ih, List.flatMap_cons,
      List.append_assoc]

theorem blankFrom_line (plain : '\n' ∉ cs) (ends : ∀ c ∈ rest.head?, c = '\n') :
    blankFrom .line (cs ++ rest) = cs.flatMap blank ++ blankFrom .code rest := by
  induction cs with
  | nil =>
    cases rest with
    | nil => rfl
    | cons c rest =>
      rw [ends c rfl]
      rfl
  | cons c cs ih =>
    rw [List.mem_cons, not_or] at plain
    have other : (c == '\n') = false := beq_eq_false_iff_ne.2 (Ne.symm plain.1)
    rw [List.cons_append, blankFrom, other, if_neg Bool.false_ne_true, ih plain.2,
      List.flatMap_cons, List.append_assoc]

theorem blankFrom_comment (comment : IsComment cs rest) :
    blankFrom .code (cs ++ rest) = cs.flatMap blank ++ blankFrom .code rest := by
  cases comment with
  | @line mark cs _ member plain ends =>
    have body := blankFrom_line plain ends
    simp only [lineMarks, List.mem_cons, List.not_mem_nil, or_false] at member
    rcases member with rfl | rfl
    · rw [List.append_assoc, List.singleton_append, blankFrom, body]
      rfl
    · rw [List.append_assoc, List.cons_append, List.singleton_append, blankFrom, body]
      rfl
  | block closing =>
    rw [List.cons_append, List.cons_append, blankFrom]
    exact congrArg (' ' :: ' ' :: ·) (blankFrom_closing closing)

theorem blankFrom_plain (quoted : isQuote c = false) (opens : opensComment (c :: rest) = false) :
    blankFrom .code (c :: rest) = c :: blankFrom .code rest := by
  rw [blankFrom, quoted, if_neg Bool.false_ne_true]
  · rintro rfl
    cases opens
  · rintro after rfl rfl
    cases opens
  · rintro after rfl rfl
    cases opens

/-- The first character stays, or it gives way to a blank. -/
theorem head_blankFrom {d : Char} (first : (blankFrom .code cs).head? = some d) :
    d = ' ' ∨ cs.head? = some d := by
  obtain ⟨parts, parted⟩ := exists_parted cs
  cases parted with
  | nil => exact .inr first
  | plain quoted opens _ =>
    rw [blankFrom_plain quoted opens] at first
    exact .inr first
  | literal literal _ =>
    obtain ⟨quote, inner, tail, -, -, -, rfl, -⟩ := literal.exists_tail
    rw [blankFrom_literal literal] at first
    exact .inr first
  | comment comment _ =>
    rw [blankFrom_comment comment] at first
    cases comment with
    | line member =>
      simp only [lineMarks, List.mem_cons, List.not_mem_nil, or_false] at member
      rcases member with rfl | rfl <;> exact .inl (Option.some.inj first).symm
    | block => exact .inl (Option.some.inj first).symm

/-- Blanking makes no comment out of what stands around one. -/
theorem opensComment_blankFrom (opens : opensComment (c :: rest) = false) :
    opensComment (c :: blankFrom .code rest) = false := by
  by_contra opened
  obtain ⟨inner, same⟩ := exists_of_opensComment (Bool.eq_true_of_not_eq_false opened)
  have kept : ∀ {d : Char}, d ≠ ' ' → blankFrom .code rest = d :: inner →
      ∃ more, rest = d :: more := by
    intro d other text
    have first : (blankFrom .code rest).head? = some d := by rw [text, List.head?_cons]
    exact List.head?_eq_some_iff.1 ((head_blankFrom first).resolve_left other)
  rcases same with same | same | same
  · obtain ⟨rfl, -⟩ := List.cons.inj same
    cases opens
  · obtain ⟨rfl, text⟩ := List.cons.inj same
    obtain ⟨more, rfl⟩ := kept (by decide) text
    cases opens
  · obtain ⟨rfl, text⟩ := List.cons.inj same
    obtain ⟨more, rfl⟩ := kept (by decide) text
    cases opens

theorem IsLiteral.blank (literal : IsLiteral cs rest) : IsLiteral cs (blankFrom .code rest) := by
  cases literal with
  | closed _ quoted inner => exact .closed _ quoted inner
  | unclosed quoted inner => exact .unclosed quoted inner
  | broken quoted inner => exact .broken quoted inner

theorem of_mem_blank {d : Char} (member : d ∈ blank c) :
    isQuote d = false ∧ ∀ rest, opensComment (d :: rest) = false := by
  unfold blank at member
  split at member
  · rename_i breaks
    rw [List.mem_singleton.1 member]
    simp only [Bool.or_eq_true, beq_iff_eq] at breaks
    rcases breaks with rfl | rfl <;> exact ⟨rfl, fun _ => rfl⟩
  · rw [List.eq_of_mem_replicate member]
    exact ⟨rfl, fun _ => rfl⟩

theorem parted_blanks {parts : List Part} (parted : Parted rest parts)
    (all : ∀ c ∈ cs, isQuote c = false ∧ ∀ rest, opensComment (c :: rest) = false) :
    Parted (cs ++ rest) (cs.map .plain ++ parts) := by
  induction cs with
  | nil => exact parted
  | cons c cs ih =>
    obtain ⟨quoted, opens⟩ := all c List.mem_cons_self
    exact .plain quoted (opens _) (ih (fun d member => all d (List.mem_cons_of_mem c member)))

/-- The parts of a source of which the comments are blanked. -/
theorem Parted.blank {parts : List Part} (parted : Parted cs parts) :
    Parted (blankFrom .code cs) (parts.flatMap Part.blanked) := by
  induction parted with
  | nil => exact .nil
  | plain quoted opens _ ih =>
    rw [blankFrom_plain quoted opens]
    exact .plain quoted (opensComment_blankFrom opens) ih
  | literal literal _ ih =>
    rw [blankFrom_literal literal]
    exact .literal literal.blank ih
  | comment comment _ ih =>
    rw [blankFrom_comment comment]
    apply parted_blanks ih
    intro d member
    obtain ⟨c, -, blanked⟩ := List.mem_flatMap.1 member
    exact of_mem_blank blanked

def Part.isComment : Part → Bool
  | .comment _ => true
  | _ => false

theorem isComment_of_mem_blanked {part p : Part} (member : p ∈ part.blanked) :
    p.isComment = false := by
  cases part with
  | plain c =>
    rw [List.mem_singleton.1 member]
    rfl
  | literal cs =>
    rw [List.mem_singleton.1 member]
    rfl
  | comment cs =>
    obtain ⟨c, -, rfl⟩ := List.mem_map.1 member
    rfl

/-- A source without comments stays as it is. -/
theorem blankFrom_of_parted {parts : List Part} (parted : Parted cs parts)
    (none : ∀ p ∈ parts, p.isComment = false) : blankFrom .code cs = cs := by
  induction parted with
  | nil => rfl
  | plain quoted opens _ ih =>
    rw [blankFrom_plain quoted opens, ih (fun p member => none p (List.mem_cons_of_mem _ member))]
  | literal literal _ ih =>
    rw [blankFrom_literal literal, ih (fun p member => none p (List.mem_cons_of_mem _ member))]
  | comment => cases none _ List.mem_cons_self

end ThreatHunt.Source
