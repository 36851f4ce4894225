import Mathlib.Data.List.Forall2
import ThreatHunt.Pattern.Match
import ThreatHunt.Proofs.Regex.Spans

/-!
What `LIKE` patterns match. A pattern matches a text that can be cut into one piece for each of its
characters, where a percent sign takes any piece, an underscore a piece of one character, and any
other character itself alone. The expression for a pattern matches these texts, and so does the
expression that the pattern is written as: no character of a pattern is read as anything else.
-/

namespace ThreatHunt.Like

open Regex

/-- Whether a piece of a text is what a character of a pattern stands for. -/
def Stands (c : Char) (piece : List Char) : Prop :=
  if c = '%' then True else if c = '_' then piece.length = 1 else piece = [c]

/-- Whether a text can be cut into pieces that the characters of a pattern stand for. -/
def Splits (p t : String) : Prop :=
  ∃ pieces, List.Forall₂ Stands p.toList pieces ∧ pieces.flatten = t.toList

variable {l : List Char} {c d : Char} {i k : Nat}

/-! What single characters of a pattern match. -/

theorem has_any : CharSet.any.has c = true := by
  have small : c.toNat < 0x110000 := by
    rcases c.valid with low | ⟨_, high⟩
    · exact Nat.lt_trans low (by decide)
    · exact high
  simp only [CharSet.any, CharSet.has, CharSet.holds, CharSet.inRanges, CharSet.lastNumber]
  rw [if_pos (by omega)]
  simp

theorem has_single : (CharSet.single c).has d = true ↔ d = c := by
  rw [← Char.toNat_inj]
  simp only [CharSet.single, CharSet.range, CharSet.has, CharSet.holds, CharSet.inRanges]
  split
  · rw [decide_eq_true_iff]
    omega
  · simp only [Bool.false_eq_true, false_iff]
    omega

theorem hasAt_any : hasAt l.toArray .any i = true ↔ i < l.length := by
  rcases Nat.lt_or_ge i l.length with inside | beyond
  · simp [hasAt, inside, has_any]
  · simp [hasAt, beyond]

theorem hasAt_single : hasAt l.toArray (.single c) i = true ↔ l[i]? = some c := by
  cases found : l[i]? with
  | none => simp [hasAt, found]
  | some d => simp [hasAt, found, has_single]

/-- The rest of a text after a piece of it. -/
theorem drop_of_front {piece : List Char} (front : piece <+: l.drop i) :
    l.drop i = piece ++ l.drop (i + piece.length) := by
  obtain ⟨rest, whole⟩ := front
  rw [← List.drop_drop, ← whole, List.drop_left]

theorem exists_front {n : Nat} :
    (∃ piece : List Char, piece.length = n ∧ piece <+: l.drop i) ↔ n = 0 ∨ i + n ≤ l.length := by
  constructor
  · rintro ⟨piece, rfl, front⟩
    have few := front.length_le
    rw [List.length_drop] at few
    omega
  · intro room
    refine ⟨(l.drop i).take n, ?_, List.take_prefix _ _⟩
    rw [List.length_take, List.length_drop]
    omega

theorem times_any {n : Nat} :
    Times (Spans l.toArray (.one .any)) n i k ↔ i + n = k ∧ (n = 0 ∨ k ≤ l.length) := by
  induction n generalizing i with
  | zero => simp [Times]
  | succ n ih =>
    constructor
    · rintro ⟨j, ⟨here, rfl⟩, rest⟩
      have inside := hasAt_any.1 here
      obtain ⟨rfl, room⟩ := ih.1 rest
      omega
    · rintro ⟨rfl, room⟩
      exact ⟨i + 1, ⟨hasAt_any.2 (by omega), rfl⟩, ih.2 ⟨by omega, by omega⟩⟩

/-- A character of a pattern takes the pieces that it stands for. -/
theorem spans_charRegex : Spans l.toArray (charRegex c) i k ↔
    ∃ piece, Stands c piece ∧ piece <+: l.drop i ∧ i + piece.length = k := by
  by_cases percent : c = '%'
  · have all : charRegex c = .times (.one .any) 0 none := by rw [percent]; rfl
    simp only [all, Stands, if_pos percent, true_and]
    constructor
    · rintro ⟨n, -, -, steps⟩
      obtain ⟨rfl, room⟩ := times_any.1 steps
      obtain ⟨piece, rfl, front⟩ := exists_front.2 room
      exact ⟨piece, front, rfl⟩
    · rintro ⟨piece, front, rfl⟩
      have room := exists_front.1 ⟨piece, rfl, front⟩
      exact ⟨piece.length, Nat.zero_le _, by simp, times_any.2 ⟨rfl, room⟩⟩
  by_cases underscore : c = '_'
  · have any : charRegex c = .one .any := by rw [underscore]; rfl
    simp only [any, Stands, if_neg percent, if_pos underscore, Spans, hasAt_any]
    constructor
    · rintro ⟨inside, rfl⟩
      obtain ⟨piece, single, front⟩ := (exists_front (n := 1)).2 (.inr inside)
      exact ⟨piece, single, front, by rw [single]⟩
    · rintro ⟨piece, single, front, rfl⟩
      have room := exists_front.1 ⟨piece, rfl, front⟩
      exact ⟨by omega, by omega⟩
  · have itself : charRegex c = .one (.single c) := by simp [charRegex, percent, underscore, char]
    have front : [c] <+: l.drop i ↔ l[i]? = some c := by
      rw [← List.head?_drop]
      cases l.drop i <;> simp [List.cons_prefix_cons, eq_comm]
    simp only [itself, Stands, if_neg percent, if_neg underscore, exists_eq_left, Spans,
      hasAt_single, front, List.length_singleton]

/-! Whole patterns. -/

theorem holdsAt_textStart (inside : i ≤ l.length) :
    Look.textStart.holdsAt l.toArray i = true ↔ i = 0 := by
  rcases Nat.eq_zero_or_pos i with rfl | positive
  · simp [Look.holdsAt, Look.holds]
  · have before : i - 1 < l.length := by omega
    simp [Look.holdsAt, Look.holds, before]

theorem holdsAt_textEnd : Look.textEnd.holdsAt l.toArray i = true ↔ l.length ≤ i := by
  simp [Look.holdsAt, Look.holds]

/-- The characters of a pattern in one row with the end of the text. -/
def row (cs : List Char) : Regex := (cs.map charRegex).foldr .seq (.look .textEnd)

/-- A row takes what is left of a text in pieces. -/
theorem spans_row {cs : List Char} (inside : i ≤ l.length) :
    Spans l.toArray (row cs) i k ↔
      k = l.length ∧ ∃ pieces, List.Forall₂ Stands cs pieces ∧ pieces.flatten = l.drop i := by
  induction cs generalizing i with
  | nil =>
    simp only [row, List.map_nil, List.foldr_nil, Spans, holdsAt_textEnd, List.forall₂_nil_left_iff,
      exists_eq_left, List.flatten_nil, List.nil_eq, List.drop_eq_nil_iff]
    omega
  | cons c cs ih =>
    constructor
    · rintro ⟨_, first, rest⟩
      obtain ⟨piece, stands, front, rfl⟩ := spans_charRegex.1 first
      have few := front.length_le
      rw [List.length_drop] at few
      obtain ⟨ended, pieces, others, whole⟩ := (ih (by omega)).1 rest
      exact ⟨ended, piece :: pieces, .cons stands others, by
        rw [List.flatten_cons, whole, drop_of_front front]⟩
    · rintro ⟨ended, pieces, split, whole⟩
      obtain ⟨piece, others, stands, rest, rfl⟩ := List.forall₂_cons_left_iff.1 split
      have front : piece <+: l.drop i := ⟨others.flatten, whole⟩
      have few := front.length_le
      rw [List.length_drop] at few
      rw [drop_of_front front, List.flatten_cons, List.append_cancel_left_eq] at whole
      exact ⟨_, spans_charRegex.2 ⟨piece, stands, front, rfl⟩,
        (ih (by omega)).2 ⟨ended, others, rest, whole⟩⟩

/-- The expression that a pattern is written as. -/
def rowRegex (p : String) : Regex := .seq (.look .textStart) (row p.toList)

theorem occursIn_rowRegex (p t : String) : (rowRegex p).occursIn t = true ↔ Splits p t := by
  rw [occursIn_iff]
  constructor
  · rintro ⟨i, k, inside, j, ⟨starts, rfl⟩, row⟩
    obtain rfl := (holdsAt_textStart inside).1 starts
    exact ((spans_row inside).1 row).2
  · rintro split
    exact ⟨0, _, Nat.zero_le _, 0, ⟨(holdsAt_textStart (Nat.zero_le _)).2 rfl, rfl⟩,
      (spans_row (Nat.zero_le _)).2 ⟨rfl, split⟩⟩

theorem spans_foldr {text : Array Char} {rs : List Regex} {last : Regex} {i k : Nat} :
    Spans text (rs.foldr .seq last) i k ↔ Spans text (.seq (Regex.sequence rs) last) i k := by
  induction rs generalizing i with
  | nil => simp [Regex.sequence, Spans]
  | cons r rs ih =>
    constructor
    · rintro ⟨j, first, others⟩
      obtain ⟨m, row, ended⟩ := ih.1 others
      exact ⟨m, ⟨j, first, row⟩, ended⟩
    · rintro ⟨m, ⟨j, first, row⟩, ended⟩
      exact ⟨j, first, ih.2 ⟨m, row, ended⟩⟩

theorem occursIn_regex (p t : String) : (regex p).occursIn t = (rowRegex p).occursIn t := by
  rw [Bool.eq_iff_iff, occursIn_iff, occursIn_iff]
  simp only [regex, rowRegex, row, Spans, spans_foldr]

end ThreatHunt.Like

/-!
The texts of `LIKE` patterns as regular expressions. Reading the text of a pattern gives an item for
each of its characters, since those that mean something in an expression are escaped; the items
nest no deeper than they may, and together they mean the row of what the characters stand for.
-/

namespace ThreatHunt.Regex

variable {fuel : Nat} {branches items : List Written} {names : List String} {c : Char}
  {rest rest' : List Char}

theorem skip_false (cs : List Char) : skip false cs = cs := by
  cases cs <;> simp [skip, takeSpaced]

/-- An item that is no group and no repetition is read in one step. -/
theorem readBody_item {item : Written} (plain : c ∉ [')', '|', '(', '*', '+', '?', '\x7b'])
    (read : readItem false (c :: rest) = some (item, rest')) :
    readBody (fuel + 1) branches items ⟨false, names, c :: rest⟩ =
      readBody fuel branches (item :: items) ⟨false, names, rest'⟩ := by
  simp only [List.mem_cons, List.not_mem_nil, or_false, not_or] at plain
  obtain ⟨close, bar, opening, star, plus, question, brace⟩ := plain
  simp [readBody, skip_false, star, plus, question, brace, read]

theorem readBody_star (plain : dropLazy rest = rest) :
    readBody (fuel + 1) branches (.dot :: items) ⟨false, names, '*' :: rest⟩ =
      readBody fuel branches (.times .dot 0 none :: items) ⟨false, names, rest⟩ := by
  simp [readBody, skip_false, readRepetition, repeatLast, plain]

theorem readBody_dotAll :
    readBody (fuel + 1) branches items ⟨false, names, '(' :: '?' :: 's' :: ')' :: rest⟩ =
      readBody fuel branches (.settings [(.dotAll, true)] :: items) ⟨false, names, rest⟩ := by
  have head : readGroupHead ('?' :: 's' :: ')' :: rest) =
      some (.settings [(.dotAll, true)], rest) := by
    simp [readGroupHead, readSettings, switch?, Settings.value?]
  simp [readBody, skip_false, head, Settings.value?]

theorem Written.sequence_cons (w : Written) {ws : List Written} (more : ws ≠ []) :
    sequence (w :: ws) = .seq w (sequence ws) := by
  cases ws with
  | nil => exact absurd rfl more
  | cons w' ws => rfl

/-- A row of items is one level deeper than they are. -/
theorem Written.depth_sequence {deepest : Nat} {ws : List Written}
    (flat : ∀ w ∈ ws, ∀ inRow, w.depth inRow ≤ deepest) (inRow : Bool) :
    (sequence ws).depth inRow ≤ deepest + if inRow then 0 else 1 := by
  induction ws generalizing inRow with
  | nil => exact Nat.zero_le _
  | cons w ws ih =>
    by_cases alone : ws = []
    · rw [alone, sequence]
      exact Nat.le_add_right_of_le (flat w List.mem_cons_self inRow)
    · have first := flat w List.mem_cons_self false
      have others := ih (fun v member => flat v (List.mem_cons_of_mem w member)) true
      rw [sequence_cons w alone, depth]
      exact Nat.add_le_add_right (Nat.max_le.2 ⟨first, others⟩) _

theorem Written.meaning?_seq {first others : Written} {a b : Regex} {flags flags' flags'' : Flags}
    (front : first.meaning? flags = some (a, flags'))
    (back : others.meaning? flags' = some (b, flags'')) :
    (Written.seq first others).meaning? flags = some (a.followedBy b, flags'') := by
  simp [meaning?, front, back]

theorem followedBy_eq_seq {first second : Regex} (front : first ≠ .empty) (back : second ≠ .empty) :
    first.followedBy second = .seq first second := by
  unfold followedBy
  split
  · exact absurd rfl front
  · exact absurd rfl back
  · rfl

end ThreatHunt.Regex

namespace ThreatHunt.Like

open Regex

variable {fuel : Nat} {items : List Written} {names : List String} {rest : List Char}

/-- What a character of a pattern is read as. -/
def charWritten (c : Char) : Written :=
  if c == '%' then .times .dot 0 none
  else if c == '_' then .dot
  else .letter ⟨c, false⟩

theorem isEscapable_of_isMeta {c : Char} (special : isMeta c = true) : isEscapable c = true := by
  have all : ['\\', '.', '+', '*', '?', '(', ')', '|', '[', ']', '\x7b', '\x7d', '^', '$', '#', '&',
      '-', '~'].all isEscapable = true := by decide
  exact List.all_eq_true.1 all c (List.contains_iff_mem.1 special)

/-- The characters of a pattern are read one by one, none as anything but itself. -/
theorem readBody_charText (fuel : Nat) (branches items : List Written) (names : List String)
    (plain : dropLazy rest = rest) (c : Char) : ∃ fuel', fuel ≤ fuel' ∧
      readBody (fuel + (charText c).length) branches items ⟨false, names, charText c ++ rest⟩ =
        readBody fuel' branches (charWritten c :: items) ⟨false, names, rest⟩ := by
  unfold charText charWritten
  by_cases percent : c = '%'
  · refine ⟨fuel, Nat.le_refl _, ?_⟩
    simp only [percent, beq_self_eq_true, if_true]
    exact (readBody_item (by decide) rfl).trans (readBody_star plain)
  by_cases underscore : c = '_'
  · refine ⟨fuel, Nat.le_refl _, ?_⟩
    simp only [underscore, beq_self_eq_true, if_true]
    exact readBody_item (by decide) rfl
  simp only [percent, underscore, beq_iff_eq, if_false]
  split
  · rename_i special
    have read : readItem false ('\\' :: c :: rest) = some (.letter ⟨c, false⟩, rest) := by
      simp [readItem, readEscape, isEscapable_of_isMeta special, Escape.written]
    exact ⟨fuel + 1, Nat.le_succ fuel, readBody_item (by decide) read⟩
  · rename_i ordinary
    have apart : ∀ d, isMeta d = true → c ≠ d := by
      rintro d special rfl
      exact ordinary special
    have bare : [')', '|', '(', '*', '+', '?', '\x7b'].all isMeta = true := by decide
    have read : readItem false (c :: rest) = some (.letter ⟨c, false⟩, rest) := by
      simp [readItem, apart '[' rfl, apart '\\' rfl, apart '.' rfl, apart '^' rfl, apart '$' rfl]
    exact ⟨fuel, Nat.le_refl _, readBody_item
      (fun special => ordinary (List.all_eq_true.1 bare c special)) read⟩

/-- No question mark of a pattern stands bare. -/
theorem charText_front (c : Char) : ∃ d ds, charText c = d :: ds ∧ d ≠ '?' := by
  unfold charText
  split
  · exact ⟨'.', ['*'], rfl, by decide⟩
  split
  · exact ⟨'.', [], rfl, by decide⟩
  split
  · exact ⟨'\\', [c], rfl, by decide⟩
  · rename_i ordinary
    exact ⟨c, [], rfl, by rintro rfl; exact ordinary rfl⟩

theorem dropLazy_row (cs : List Char) :
    dropLazy (cs.flatMap charText ++ ['$']) = cs.flatMap charText ++ ['$'] := by
  cases cs with
  | nil => rfl
  | cons c cs =>
    obtain ⟨d, ds, text, bare⟩ := charText_front c
    simp [dropLazy, List.flatMap_cons, text, bare]

theorem readBody_row (cs : List Char) (enough : (cs.flatMap charText).length + 2 ≤ fuel) :
    readBody fuel [] items ⟨false, names, cs.flatMap charText ++ ['$']⟩ =
      some (Written.sequence (items.reverse ++ (cs.map charWritten ++ [.assertion .lineEnd])),
        ⟨false, names, []⟩) := by
  induction cs generalizing fuel items with
  | nil =>
    obtain ⟨fuel, rfl⟩ := Nat.exists_eq_add_of_le' (show 2 ≤ fuel from enough)
    rw [List.flatMap_nil, List.nil_append, readBody_item (by decide) rfl]
    simp [readBody, skip_false, addBranch, Written.alternatives]
  | cons c cs ih =>
    rw [List.flatMap_cons, List.length_append] at enough
    obtain ⟨more, rfl⟩ := Nat.exists_eq_add_of_le' enough
    obtain ⟨fuel', room, read⟩ := readBody_charText (more + ((cs.flatMap charText).length + 2)) []
      items names (dropLazy_row cs) c
    have others := @ih fuel' (charWritten c :: items) (by omega)
    have steps : more + ((charText c).length + (cs.flatMap charText).length + 2) =
        more + ((cs.flatMap charText).length + 2) + (charText c).length := by omega
    rw [List.flatMap_cons, List.append_assoc, steps, read, others]
    simp

/-! Depth and meaning of what is read. -/

theorem depth_charWritten (c : Char) (inRow : Bool) : (charWritten c).depth inRow ≤ 1 := by
  unfold charWritten
  split
  · exact Nat.le_refl 1
  split <;> exact Nat.zero_le 1

/-- The switches behind the front of a pattern. -/
def dotted : Flags := { Flags.plain with dotAll := true }

theorem meaning?_charWritten (c : Char) :
    (charWritten c).meaning? dotted = some (charRegex c, dotted) := by
  unfold charWritten charRegex
  split
  · rfl
  split
  · rfl
  · simp [Written.meaning?, Flags.letter?, Flags.close, dotted, Flags.plain, char]

theorem charRegex_ne_empty (c : Char) : charRegex c ≠ .empty := by
  unfold charRegex
  split
  · exact Regex.noConfusion
  split <;> exact Regex.noConfusion

theorem row_ne_empty (cs : List Char) : row cs ≠ .empty := by
  cases cs <;> exact Regex.noConfusion

theorem meaning?_row (cs : List Char) :
    (Written.sequence (cs.map charWritten ++ [.assertion .lineEnd])).meaning? dotted =
      some (row cs, dotted) := by
  induction cs with
  | nil => rfl
  | cons c cs ih =>
    have more : cs.map charWritten ++ [.assertion .lineEnd] ≠ [] := by simp
    rw [List.map_cons, List.cons_append, Written.sequence_cons _ more,
      Written.meaning?_seq (meaning?_charWritten c) ih,
      followedBy_eq_seq (charRegex_ne_empty c) (row_ne_empty cs)]
    rfl

theorem toList_regexText (p : String) : (regexText p).toList =
    '(' :: '?' :: 's' :: ')' :: '^' :: (p.toList.flatMap charText ++ ['$']) := by
  have front : "(?s)^".toList = ['(', '?', 's', ')', '^'] := rfl
  have back : "$".toList = ['$'] := rfl
  simp [regexText, front, back]

/-- What a whole pattern is read as. -/
def written (p : String) : List Written :=
  .settings [(.dotAll, true)] :: .assertion .lineStart ::
    (p.toList.map charWritten ++ [.assertion .lineEnd])

theorem depth_written (p : String) : (Written.sequence (written p)).depth false ≤ depthLimit := by
  have flat : ∀ w ∈ written p, ∀ inRow, w.depth inRow ≤ 1 := by
    intro w member inRow
    simp only [written, List.mem_cons, List.mem_append, List.mem_map, List.not_mem_nil, or_false]
      at member
    obtain rfl | rfl | ⟨c, _, rfl⟩ | rfl := member
    · exact Nat.zero_le 1
    · exact Nat.zero_le 1
    · exact depth_charWritten c inRow
    · exact Nat.zero_le 1
  exact Nat.le_trans (Written.depth_sequence flat false) (by decide)

theorem read?_regexText (p : String) :
    Written.read? (regexText p) = some (Written.sequence (written p)) := by
  have size : (regexText p).toList.length + 1 = (p.toList.flatMap charText).length + 5 + 2 := by
    rw [toList_regexText]
    simp only [List.length_cons, List.length_append, List.length_nil]
  have whole : readBody ((p.toList.flatMap charText).length + 5) []
      [.assertion .lineStart, .settings [(.dotAll, true)]]
      ⟨false, [], p.toList.flatMap charText ++ ['$']⟩ =
        some (Written.sequence (written p), ⟨false, [], []⟩) := readBody_row p.toList (by omega)
  unfold Written.read?
  rw [size, toList_regexText, readBody_dotAll, readBody_item (by decide) rfl, whole]
  simp [depth_written]

/-- The text of a pattern is read as the row of what its characters stand for. -/
theorem ofText?_regexText (p : String) : ofText? (regexText p) = some (rowRegex p) := by
  have meant : (Written.sequence (written p)).meaning? .plain = some (rowRegex p, dotted) := by
    have switched : (Written.settings [(.dotAll, true)]).meaning? .plain = some (.empty, dotted) :=
      rfl
    have start : (Written.assertion .lineStart).meaning? dotted =
        some (.look .textStart, dotted) := rfl
    have both := Written.meaning?_seq start (meaning?_row p.toList)
    rw [followedBy_eq_seq Regex.noConfusion (row_ne_empty p.toList)] at both
    rw [written, Written.sequence_cons _ (by simp), Written.sequence_cons _ (by simp)]
    exact Written.meaning?_seq switched both
  simp [ofText?, read?_regexText, meant]

/-- The expression whose text is made for a pattern, and the test whether a value matches the
pattern, take just the texts that split into pieces for the characters of the pattern. -/
theorem matches_iff_splits (p : String) :
    (∃ r, ofText? (regexText p) = some r ∧ ∀ t, r.occursIn t = true ↔ Splits p t) ∧
      ∀ v, Comparison.relates .like v (.str p) = true ↔ Splits p v.render := by
  refine ⟨⟨rowRegex p, ofText?_regexText p, occursIn_rowRegex p⟩, fun v => ?_⟩
  simp [Comparison.relates, Comparison.matchesText, Value.str?, occursIn_regex, occursIn_rowRegex]

end ThreatHunt.Like
