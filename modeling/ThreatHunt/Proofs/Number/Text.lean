import ThreatHunt.Value.Text
import ThreatHunt.Proofs.Number.Digits
import ThreatHunt.Proofs.Number.Shortest

/-!
Texts of numbers. Two floating point numbers that are written alike are the same or no numbers at
all, with or without the zero that marks a whole number.
-/

namespace ThreatHunt.Decimal

open Digits

variable {x y : Binary64}

/-! The layout without exponents. -/

theorem layout_low {ds : List Char} {place : Int} (low : place ≤ 0) :
    (plain.layout ds place).toList =
      '0' :: '.' :: (List.replicate (-place).toNat '0' ++ ds) := by
  simp [DecimalStyle.layout, plain, low]

theorem layout_whole {ds : List Char} {place : Int} (positive : ¬place ≤ 0)
    (whole : (ds.length : Int) ≤ place) :
    (plain.layout ds place).toList = ds ++ List.replicate (place - ds.length).toNat '0' := by
  simp [DecimalStyle.layout, plain, positive, whole]

theorem layout_pointed {ds : List Char} {place : Int} (positive : ¬place ≤ 0)
    (fraction : ¬(ds.length : Int) ≤ place) :
    (plain.layout ds place).toList = ds.take place.toNat ++ '.' :: ds.drop place.toNat := by
  simp [DecimalStyle.layout, plain, positive, fraction]

/-- Whether the layout begins with a zero tells whether the number is below one. -/
theorem head_layout {ds : List Char} (trimmed : Trimmed ds) (place : Int) :
    (plain.layout ds place).toList.head? = some '0' ↔ place ≤ 0 := by
  by_cases low : place ≤ 0
  · simp [layout_low low, low]
  · refine iff_of_false (fun zero => trimmed.head ?_) low
    by_cases whole : (ds.length : Int) ≤ place
    · rw [layout_whole low whole, List.head?_append_of_ne_nil _ trimmed.some] at zero
      exact zero
    · have front : ds.take place.toNat ≠ [] := by
        have := trimmed.some
        simp only [ne_eq, List.take_eq_nil_iff, this, or_false]
        omega
      rw [layout_pointed low whole, List.head?_append_of_ne_nil _ front, List.head?_take] at zero
      split at zero
      · exact absurd zero (by decide)
      · exact zero

theorem dot_mem_layout {ds : List Char} (trimmed : Trimmed ds) {place : Int}
    (positive : ¬place ≤ 0) :
    '.' ∈ (plain.layout ds place).toList ↔ ¬(ds.length : Int) ≤ place := by
  by_cases whole : (ds.length : Int) ≤ place
  · refine iff_of_false (fun dot => ?_) (not_not_intro whole)
    rw [layout_whole positive whole] at dot
    rcases List.mem_append.1 dot with early | late
    · exact dot_not_mem trimmed.digits early
    · exact absurd (List.eq_of_mem_replicate late) (by decide)
  · rw [layout_pointed positive whole]
    exact iff_of_true (List.mem_append_right _ (List.mem_cons_self ..)) whole

/-- The digits and the place of the first can be told from the layout. -/
theorem layout_injective {ds es : List Char} {p q : Int} (trimmed : Trimmed ds)
    (trimmed' : Trimmed es)
    (same : (plain.layout ds p).toList = (plain.layout es q).toList) : ds = es ∧ p = q := by
  by_cases low : p ≤ 0
  · have low' : q ≤ 0 := by rwa [← head_layout trimmed', ← same, head_layout trimmed]
    rw [layout_low low, layout_low low'] at same
    obtain ⟨zeros, rest⟩ := zeros_append_injective trimmed.head trimmed'.head
      (List.cons.inj (List.cons.inj same).2).2
    exact ⟨rest, by omega⟩
  · have high : ¬q ≤ 0 := by rwa [← head_layout trimmed', ← same, head_layout trimmed]
    by_cases whole : (ds.length : Int) ≤ p
    · have whole' : (es.length : Int) ≤ q := by
        by_contra fraction
        rw [← dot_mem_layout trimmed' high, ← same, dot_mem_layout trimmed low] at fraction
        exact fraction whole
      rw [layout_whole low whole, layout_whole high whole'] at same
      obtain ⟨zeros, rfl⟩ := append_zeros_injective trimmed.last trimmed'.last same
      exact ⟨rfl, by omega⟩
    · have fraction : ¬(es.length : Int) ≤ q := by
        rwa [← dot_mem_layout trimmed' high, ← same, dot_mem_layout trimmed low]
      rw [layout_pointed low whole, layout_pointed high fraction] at same
      have digits : ∀ {cs : List Char} (n : Nat), Trimmed cs → '.' ∉ cs.take n :=
        fun n good member => dot_not_mem good.digits (List.mem_of_mem_take member)
      obtain ⟨front, back⟩ := cut_injective (digits _ trimmed) (digits _ trimmed') same
      have size := congrArg List.length front
      rw [List.length_take, List.length_take] at size
      refine ⟨?_, by omega⟩
      rw [← List.take_append_drop p.toNat ds, front, back, List.take_append_drop]

/-- The last digit of a fraction is not zero. -/
theorem last_layout {ds : List Char} (trimmed : Trimmed ds) {place : Int}
    (dot : '.' ∈ (plain.layout ds place).toList) :
    (plain.layout ds place).toList.getLast? ≠ some '0' := by
  by_cases low : place ≤ 0
  · rw [layout_low low, ← List.cons_append, ← List.cons_append,
      List.getLast?_append_of_ne_nil _ trimmed.some]
    exact trimmed.last
  · have fraction := (dot_mem_layout trimmed low).1 dot
    have back : ds.drop place.toNat ≠ [] := by
      rw [ne_eq, List.drop_eq_nil_iff]
      omega
    rw [layout_pointed low fraction, ← List.singleton_append, ← List.append_assoc,
      List.getLast?_append_of_ne_nil _ back, List.getLast?_drop, if_neg (by omega)]
    exact trimmed.last

/-! The digits of the shortest decimal. -/

/-- Digits with a number of zeros behind them. -/
theorem value_append_zeros (ds : List Char) (z : Nat) :
    Nat.ofDigitChars 10 (ds ++ List.replicate z '0') 0 = 10 ^ z * Nat.ofDigitChars 10 ds 0 := by
  rw [Nat.ofDigitChars_append, Nat.ofDigitChars_replicate_zero]

/-- Decimals with the same digits and the same first place are the same number. -/
theorem sameDecimal_of_digits {c d : Nat} {k l : Int}
    (digits : dropTrailingZeros (Nat.repr c).toList = dropTrailingZeros (Nat.repr d).toList)
    (place : k + (Nat.repr c).toList.length = l + (Nat.repr d).toList.length) :
    SameDecimal c k d l := by
  obtain ⟨m, left⟩ := append_zeros (Nat.repr c).toList
  obtain ⟨n, right⟩ := append_zeros (Nat.repr d).toList
  rw [← digits] at right
  have size := congrArg List.length left
  have size' := congrArg List.length right
  rw [List.length_append, List.length_replicate] at size size'
  have power : m + k.toNat + (-l).toNat = n + l.toNat + (-k).toNat := by omega
  have value := congrArg (fun ds => Nat.ofDigitChars 10 ds 0) left
  have value' := congrArg (fun ds => Nat.ofDigitChars 10 ds 0) right
  simp only [value_repr, value_append_zeros] at value value'
  generalize Nat.ofDigitChars 10 (dropTrailingZeros (Nat.repr c).toList) 0 = v at value value'
  have split : ∀ a b s : Nat, 10 ^ s * v * 10 ^ a * 10 ^ b = 10 ^ (s + a + b) * v := by
    intro a b s
    rw [Nat.pow_add, Nat.pow_add]
    ring
  rw [SameDecimal, value, value', split, split, power]

theorem trimmed_shortest (finite : x.isFinite = true) (positive : 1 ≤ x.magnitude) (tie : Tie) :
    Trimmed (shortest tie x.significand x.exponent).1 := by
  obtain ⟨c, k, some, _, same⟩ := shortest_eq finite positive tie
  rw [same]
  exact trimmed_repr some

/-- No two numbers have the same shortest decimal. -/
theorem magnitude_eq_of_shortest_eq (finite : x.isFinite = true) (finite' : y.isFinite = true)
    (positive : 1 ≤ x.magnitude) (positive' : 1 ≤ y.magnitude) {tie : Tie}
    (same : shortest tie x.significand x.exponent = shortest tie y.significand y.exponent) :
    x.magnitude = y.magnitude := by
  obtain ⟨c, k, _, first, left⟩ := shortest_eq finite positive tie
  obtain ⟨d, l, _, second, right⟩ := shortest_eq finite' positive' tie
  rw [left, right] at same
  obtain ⟨digits, place⟩ := Prod.mk.inj same
  have notBelow := magnitude_not_lt finite finite' positive (sameDecimal_of_digits digits place)
    first second
  have notAbove := magnitude_not_lt finite' finite positive'
    (sameDecimal_of_digits digits.symm place.symm) second first
  omega

/-! Whole texts: a sign, and the magnitude. -/

/-- The text of a number without its sign. -/
def unsigned (x : Binary64) : String :=
  if x.isInfinite then "inf"
  else if x.magnitude = 0 then "0"
  else plain.layout (shortest .up x.significand x.exponent).1
    (shortest .up x.significand x.exponent).2

theorem text_eq (number : x.isNaN = false) :
    text x = (if x.isNegative then "-" else "") ++ unsigned x := by
  simp [text, write, unsigned, number, plain]

theorem text_of_isNaN (none : x.isNaN = true) : text x = "NaN" := by
  simp [text, write, none]

theorem isFinite_of (number : x.isNaN = false) (bounded : x.isInfinite = false) :
    x.isFinite = true := by
  simp only [Binary64.isNaN, Binary64.isInfinite, Binary64.isFinite, decide_eq_false_iff_not,
    beq_eq_false_iff_ne, decide_eq_true_eq] at *
  omega

/-- A text without a sign begins with a digit or is the word for infinity. -/
inductive Unsigned (x : Binary64) : Prop where
  | infinite (word : unsigned x = "inf") (top : x.magnitude = Binary64.infinityMagnitude)
  | zero (digit : unsigned x = "0") (least : x.magnitude = 0)
  | positive (finite : x.isFinite = true) (some : 1 ≤ x.magnitude)
      (layout : unsigned x = plain.layout (shortest .up x.significand x.exponent).1
        (shortest .up x.significand x.exponent).2)

theorem unsigned_cases (number : x.isNaN = false) : Unsigned x := by
  by_cases infinite : x.isInfinite
  · exact .infinite (by simp [unsigned, infinite]) (by simpa [Binary64.isInfinite] using infinite)
  · by_cases least : x.magnitude = 0
    · exact .zero (by simp [unsigned, infinite, least]) least
    · exact .positive (isFinite_of number (by simpa using infinite)) (by omega)
        (by simp [unsigned, infinite, least])

/-- The digits of a layout, zeros included, and perhaps a point. -/
theorem mem_layout {ds : List Char} (digits : ∀ c ∈ ds, c.isDigit = true) {place : Int} {c : Char}
    (member : c ∈ (plain.layout ds place).toList) : c.isDigit = true ∨ c = '.' := by
  by_cases low : place ≤ 0
  · rw [layout_low low] at member
    rcases List.mem_cons.1 member with rfl | member
    · exact .inl (by decide)
    · rcases List.mem_cons.1 member with rfl | member
      · exact .inr rfl
      · rcases List.mem_append.1 member with zero | digit
        · exact .inl (List.eq_of_mem_replicate zero ▸ by decide)
        · exact .inl (digits c digit)
  · by_cases whole : (ds.length : Int) ≤ place
    · rw [layout_whole low whole] at member
      rcases List.mem_append.1 member with digit | zero
      · exact .inl (digits c digit)
      · exact .inl (List.eq_of_mem_replicate zero ▸ by decide)
    · rw [layout_pointed low whole] at member
      rcases List.mem_append.1 member with digit | rest
      · exact .inl (digits c (List.mem_of_mem_take digit))
      · rcases List.mem_cons.1 rest with rfl | digit
        · exact .inr rfl
        · exact .inl (digits c (List.mem_of_mem_drop digit))

theorem layout_ne_nil {ds : List Char} (trimmed : Trimmed ds) (place : Int) :
    (plain.layout ds place).toList ≠ [] := by
  intro none
  have low := head_layout trimmed place
  rw [none] at low
  have positive : ¬place ≤ 0 := fun low' => absurd (low.2 low') (by decide)
  by_cases whole : (ds.length : Int) ≤ place
  · rw [layout_whole positive whole] at none
    exact trimmed.some (List.append_eq_nil_iff.1 none).1
  · rw [layout_pointed positive whole] at none
    exact List.cons_ne_nil _ _ (List.append_eq_nil_iff.1 none).2

/-- A text without a sign is the word for infinity or is made of digits and perhaps a point. -/
theorem unsigned_word (number : x.isNaN = false) :
    unsigned x = "inf" ∨
      (unsigned x).toList ≠ [] ∧ ∀ c ∈ (unsigned x).toList, c.isDigit = true ∨ c = '.' := by
  rcases unsigned_cases number with ⟨word, _⟩ | ⟨digit, _⟩ | ⟨finite, some, layout⟩
  · exact .inl word
  · refine .inr ⟨?_, fun c member => .inl ?_⟩
    · rw [digit]
      decide
    · rw [digit] at member
      exact List.eq_of_mem_singleton member ▸ rfl
  · have trimmed := trimmed_shortest finite some .up
    rw [layout]
    exact .inr ⟨layout_ne_nil trimmed _, fun c => mem_layout trimmed.digits⟩

/-- A magnitude can be told from its text. -/
theorem magnitude_eq_of_unsigned_eq (number : x.isNaN = false) (number' : y.isNaN = false)
    (same : unsigned x = unsigned y) : x.magnitude = y.magnitude := by
  have split : ∀ {z : Binary64}, z.isFinite = true → 1 ≤ z.magnitude →
      unsigned z = plain.layout (shortest .up z.significand z.exponent).1
        (shortest .up z.significand z.exponent).2 → unsigned z ≠ "inf" ∧ unsigned z ≠ "0" := by
    intro z finite some layout
    have trimmed := trimmed_shortest finite some .up
    refine ⟨fun word => ?_, fun zero => ?_⟩
    · rw [layout] at word
      have first := mem_layout trimmed.digits (c := 'i') (by rw [word]; decide)
      exact absurd first (by decide)
    · rw [layout] at zero
      have low := (head_layout trimmed _).1 (by rw [zero]; decide)
      have text := congrArg String.toList zero
      rw [layout_low low] at text
      exact List.cons_ne_nil _ _ (List.cons.inj text).2
  rcases unsigned_cases number with ⟨word, top⟩ | ⟨digit, least⟩ | ⟨finite, some, layout⟩ <;>
    rcases unsigned_cases number' with ⟨word', top'⟩ | ⟨digit', least'⟩ | ⟨finite', some', layout'⟩
  · rw [top, top']
  · rw [word, digit'] at same
    exact absurd same (by decide)
  · exact absurd (same ▸ word) (split finite' some' layout').1
  · rw [digit, word'] at same
    exact absurd same (by decide)
  · rw [least, least']
  · exact absurd (same ▸ digit) (split finite' some' layout').2
  · exact absurd (same.trans word') (split finite some layout).1
  · exact absurd (same.trans digit') (split finite some layout).2
  · rw [layout, layout'] at same
    obtain ⟨digits, place⟩ := layout_injective (trimmed_shortest finite some .up)
      (trimmed_shortest finite' some' .up) (congrArg String.toList same)
    exact magnitude_eq_of_shortest_eq finite finite' some some' (Prod.ext digits place)

/-- What a text without a sign begins with. -/
theorem head_unsigned (number : x.isNaN = false) :
    ∃ c, (unsigned x).toList.head? = some c ∧ (c = 'i' ∨ c.isDigit = true ∨ c = '.') := by
  rcases unsigned_word number with word | ⟨some, digits⟩
  · exact ⟨'i', by rw [word]; decide, .inl rfl⟩
  · cases text : (unsigned x).toList with
    | nil => exact absurd text some
    | cons c rest => exact ⟨c, rfl, .inr (digits c (text ▸ List.mem_cons_self ..))⟩

/-- The sign and the magnitude make a number. -/
theorem eq_of_magnitude (sign : x.isNegative = y.isNegative)
    (magnitude : x.magnitude = y.magnitude) : x = y := by
  obtain ⟨a⟩ := x
  obtain ⟨b⟩ := y
  have small := a.toNat_lt
  have small' := b.toNat_lt
  have same : a.toNat = b.toNat := by
    have sign := decide_eq_decide.1 sign
    simp only [Binary64.magnitude, Binary64.signWeight] at sign magnitude
    omega
  rw [UInt64.toNat_inj.1 same]

/-- Numbers that are written alike are the same, or neither is a number. -/
theorem text_injective (same : text x = text y) : x = y ∨ x.isNaN = true ∧ y.isNaN = true := by
  have named : ∀ {z : Binary64}, z.isNaN = false → text z ≠ "NaN" := by
    intro z number word
    obtain ⟨c, head, kind⟩ := head_unsigned number
    rw [text_eq number] at word
    have first := congrArg (fun s => s.toList.head?) word
    by_cases sign : z.isNegative
    · simp [sign] at first
    · simp only [sign, Bool.false_eq_true, if_false, String.empty_append, head] at first
      obtain rfl := Option.some.inj first
      exact absurd kind (by decide)
  cases number : x.isNaN with
  | true =>
    cases number' : y.isNaN with
    | true => exact .inr ⟨rfl, rfl⟩
    | false => exact absurd (same.symm.trans (text_of_isNaN number)) (named number')
  | false =>
    cases number' : y.isNaN with
    | true => exact absurd (same.trans (text_of_isNaN number')) (named number)
    | false =>
      have alone : ∀ {z w : Binary64}, z.isNaN = false → "-" ++ unsigned w ≠ unsigned z := by
        intro z w number word
        obtain ⟨c, head, kind⟩ := head_unsigned number
        rw [← word] at head
        simp only [String.toList_append, String.reduceToList, List.cons_append, List.nil_append,
          List.head?_cons, Option.some.injEq] at head
        subst head
        exact absurd kind (by decide)
      rw [text_eq number, text_eq number'] at same
      left
      cases sign : x.isNegative <;> cases sign' : y.isNegative <;>
        simp only [sign, sign', Bool.false_eq_true, if_false, if_true, String.empty_append] at same
      · exact eq_of_magnitude (sign.trans sign'.symm)
          (magnitude_eq_of_unsigned_eq number number' same)
      · exact absurd same.symm (alone number)
      · exact absurd same (alone number')
      · exact eq_of_magnitude (sign.trans sign'.symm) (magnitude_eq_of_unsigned_eq number number'
          (String.append_right_inj _ |>.1 same))

/-- The last digit behind a point is not zero. -/
theorem last_text (dot : '.' ∈ (text x).toList) : (text x).toList.getLast? ≠ some '0' := by
  cases number : x.isNaN with
  | true =>
    rw [text_of_isNaN number] at dot
    exact absurd dot (by decide)
  | false =>
    rw [text_eq number, String.toList_append] at dot ⊢
    have later : '.' ∈ (unsigned x).toList := by
      rcases List.mem_append.1 dot with early | late
      · split at early <;> exact absurd early (by decide)
      · exact late
    rw [List.getLast?_append_of_ne_nil _ (List.ne_nil_of_mem later)]
    rcases unsigned_cases number with ⟨word, _⟩ | ⟨digit, _⟩ | ⟨finite, some, layout⟩
    · rw [word]
      decide
    · rw [digit] at later
      exact absurd later (by decide)
    · rw [layout] at later ⊢
      exact last_layout (trimmed_shortest finite some .up) later

end ThreatHunt.Decimal

namespace ThreatHunt.Value

open Digits

variable {x y : Binary64}

/-- No text of a number ends in the zero that marks a whole one. -/
theorem text_ne_append (s : String) : Decimal.text x ≠ s ++ ".0" := by
  intro same
  have dot : '.' ∈ (Decimal.text x).toList := by simp [same]
  exact Decimal.last_text dot (by simp [same])

/-- The same with the zero of a whole number. -/
theorem floatText_injective (same : floatText x = floatText y) :
    x = y ∨ x.isNaN = true ∧ y.isNaN = true := by
  unfold floatText at same
  split at same <;> split at same
  · exact Decimal.text_injective (String.append_left_inj _ |>.1 same)
  · exact absurd same.symm (text_ne_append _)
  · exact absurd same (text_ne_append _)
  · exact Decimal.text_injective same

theorem ofInt_injective {i j : Int} (same : Text.ofInt i = Text.ofInt j) : i = j := by
  have alone : ∀ m n : Nat, "-" ++ Nat.repr m ≠ Nat.repr n := by
    intro m n same
    have minus : '-' ∈ (Nat.repr n).toList := by rw [← same]; simp
    exact absurd (isDigit_of_mem_repr minus) (by decide)
  unfold Text.ofInt at same
  split at same <;> split at same
  · have size := repr_injective (String.append_right_inj _ |>.1 same)
    omega
  · exact absurd same (alone _ _)
  · exact absurd same.symm (alone _ _)
  · have size := repr_injective same
    omega

/-- A text of digits is read as the number that they name. -/
theorem readInt64?_of_digits {s : String} {n : Nat} (digits : ∀ c ∈ s.toList, c.isDigit = true)
    (read : Text.readDigits? s.toList = some n) (fits : Text.fitsInt64 (Int.ofNat n) = true) :
    Text.readInt64? s = some (Int.ofNat n) := by
  have unsigned : ∀ c cs, s.toList = c :: cs → c ≠ '+' ∧ c ≠ '-' := by
    intro c cs chars
    have digit := digits c (chars ▸ List.mem_cons_self)
    constructor <;> (rintro rfl; exact absurd digit (by decide))
  unfold Text.readInt64?
  split
  · rename_i chars
    exact absurd rfl (unsigned _ _ chars).1
  · rename_i chars
    exact absurd rfl (unsigned _ _ chars).2
  · simp only [read, Option.map_some, fits, if_true]

/-- What is written for an integer of 64 bits is read as that integer. -/
theorem readInt64?_ofInt {i : Int} (fits : Text.fitsInt64 i = true) :
    Text.readInt64? (Text.ofInt i) = some i := by
  have read := readDigits?_repr i.natAbs
  unfold Text.ofInt
  split
  · have size : -Int.ofNat i.natAbs = i := by rw [Int.ofNat_eq_natCast]; omega
    have signed : ("-" ++ Nat.repr i.natAbs).toList = '-' :: (Nat.repr i.natAbs).toList :=
      String.toList_append ..
    simp only [Text.readInt64?, signed, read, Option.map_some, size, fits, if_true]
  · have size : Int.ofNat i.natAbs = i := by rw [Int.ofNat_eq_natCast]; omega
    rw [← size] at fits
    exact (readInt64?_of_digits (fun _ => isDigit_of_mem_repr) read fits).trans
      (congrArg some size)

/-- The characters of numbers, and of the words for what is none. -/
def isNumeral (c : Char) : Bool :=
  c.isDigit || ['-', '.', 'i', 'n', 'f', 'N', 'a'].contains c

theorem isNumeral_of_mem_ofInt {i : Int} {c : Char} (member : c ∈ (Text.ofInt i).toList) :
    isNumeral c = true := by
  have digit : ∀ n : Nat, c ∈ (Nat.repr n).toList → isNumeral c = true := by
    intro n member
    simp [isNumeral, isDigit_of_mem_repr member]
  unfold Text.ofInt at member
  split at member
  · rw [String.toList_append] at member
    rcases List.mem_append.1 member with minus | member
    · rw [List.mem_singleton.1 minus]
      decide
    · exact digit _ member
  · exact digit _ member

theorem isNumeral_of_mem_text {c : Char} (member : c ∈ (Decimal.text x).toList) :
    isNumeral c = true := by
  cases number : x.isNaN with
  | true =>
    rw [Decimal.text_of_isNaN number] at member
    exact List.all_eq_true.1 (show "NaN".toList.all isNumeral = true by decide) c member
  | false =>
    rw [Decimal.text_eq number, String.toList_append] at member
    rcases List.mem_append.1 member with minus | member
    · split at minus
      · rw [List.mem_singleton.1 minus]
        decide
      · exact absurd minus List.not_mem_nil
    · rcases Decimal.unsigned_word number with word | ⟨_, digits⟩
      · rw [word] at member
        exact List.all_eq_true.1 (show "inf".toList.all isNumeral = true by decide) c member
      · rcases digits c member with digit | rfl
        · simp [isNumeral, digit]
        · decide

theorem isNumeral_of_mem_floatText {c : Char} (member : c ∈ (floatText x).toList) :
    isNumeral c = true := by
  unfold floatText at member
  split at member
  · rw [String.toList_append] at member
    rcases List.mem_append.1 member with member | member
    · exact isNumeral_of_mem_text member
    · exact List.all_eq_true.1 (show ".0".toList.all isNumeral = true by decide) c member
  · exact isNumeral_of_mem_text member

end ThreatHunt.Value
