import ThreatHunt.Proofs.Json.Spelling
import ThreatHunt.Proofs.Number.Digits

/-!
The text that is written for a JSON value spells the value, on one line or indented, so a reader
gives it back. A reader keeps the fields of objects in the order of their names, knows integers of
64 bits only and follows containers down to a depth; floating point numbers are those whose digits
it takes for the same number.
-/

namespace ThreatHunt.Json

open Digits

variable {depth : Nat}

mutual

/-- The value with the fields of all its objects in the order of their names. -/
def ordered : Json → Json
  | .null => .null
  | .bool b => .bool b
  | .int i => .int i
  | .float x => .float x
  | .str s => .str s
  | .arr items => .arr (orderedItems items)
  | .obj fields => .obj (sortFields (orderedFields fields))

def orderedItems : List Json → List Json
  | [] => []
  | item :: rest => ordered item :: orderedItems rest

def orderedFields : List (String × Json) → List (String × Json)
  | [] => []
  | (name, value) :: rest => (name, ordered value) :: orderedFields rest

end

/-- Values that a reader can tell from their texts, in containers that nest less deep than a
depth. -/
inductive Legible : Nat → Json → Prop where
  | null {depth : Nat} : Legible depth .null
  | bool {depth : Nat} (b : Bool) : Legible depth (.bool b)
  | int {depth : Nat} {i : Int} (least : Text.minInt64 ≤ i) (most : i < Text.natBound64) :
      Legible depth (.int i)
  | float {depth : Nat} {x : Binary64} (exact : IsScalar (.float x) (floatText x).toList) :
      Legible depth (.float x)
  | str {depth : Nat} (s : String) : Legible depth (.str s)
  | arr {depth : Nat} {items : List Json} (room : 0 < depth)
      (each : ∀ item ∈ items, Legible depth item) : Legible (depth + 1) (.arr items)
  | obj {depth : Nat} {fields : List (String × Json)} (room : 0 < depth)
      (each : ∀ f ∈ fields, Legible depth f.2) : Legible (depth + 1) (.obj fields)

/-- What can be told at some depth can be told where containers may nest deeper. -/
theorem Legible.mono {j : Json} (legible : j.Legible depth) {more : Nat} (deeper : depth ≤ more) :
    j.Legible more := by
  induction legible generalizing more with
  | null => exact .null
  | bool b => exact .bool b
  | int least most => exact .int least most
  | float exact => exact .float exact
  | str s => exact .str s
  | arr room _ ih =>
    obtain ⟨inner, rfl⟩ := Nat.exists_eq_add_of_lt (Nat.lt_of_lt_of_le (Nat.succ_pos _) deeper)
    rw [Nat.zero_add] at deeper ⊢
    have inside := Nat.le_of_succ_le_succ deeper
    exact .arr (Nat.lt_of_lt_of_le room inside) (fun item member => ih item member inside)
  | obj room _ ih =>
    obtain ⟨inner, rfl⟩ := Nat.exists_eq_add_of_lt (Nat.lt_of_lt_of_le (Nat.succ_pos _) deeper)
    rw [Nat.zero_add] at deeper ⊢
    have inside := Nat.le_of_succ_le_succ deeper
    exact .obj (Nat.lt_of_lt_of_le room inside) (fun f member => ih f member inside)

/-! Integers. -/

theorem ofDigitChars_cons (n : Nat) (d : Char) (ds : List Char) :
    Nat.ofDigitChars 10 (d :: ds) n = Nat.ofDigitChars 10 ds (n * 10 + (d.toNat - '0'.toNat)) := by
  rw [Nat.mul_comm]
  rfl

theorem le_ofDigitChars (n : Nat) (ds : List Char) : n ≤ Nat.ofDigitChars 10 ds n := by
  induction ds generalizing n with
  | nil => exact Nat.le_refl n
  | cons d ds ih =>
    rw [ofDigitChars_cons]
    exact Nat.le_trans (by omega) (ih _)

/-- No digit is left over from a number below the bound. -/
theorem takeSignificand_eq {n : Nat} {ds : List Char}
    (small : Nat.ofDigitChars 10 ds n < Text.natBound64) :
    takeSignificand n ds = (Nat.ofDigitChars 10 ds n, []) := by
  induction ds generalizing n with
  | nil => rfl
  | cons d ds ih =>
    rw [ofDigitChars_cons] at small ⊢
    have next : ¬Text.natBound64 ≤ n * 10 + (d.toNat - '0'.toNat) :=
      Nat.not_le.2 (Nat.lt_of_le_of_lt (le_ofDigitChars _ ds) small)
    rw [takeSignificand, if_neg next, ih small]

theorem takeSignificand_repr {n : Nat} (small : n < Text.natBound64) :
    takeSignificand 0 (Nat.repr n).toList = (n, []) := by
  rw [takeSignificand_eq (by rwa [value_repr]), value_repr]

theorem isWhole_repr (n : Nat) : IsWhole (Nat.repr n).toList := by
  refine ⟨⟨repr_ne_nil n, fun _ => isDigit_of_mem_repr⟩, fun zero => ?_⟩
  rcases Nat.eq_zero_or_pos n with rfl | positive
  · rfl
  · exact absurd zero (head_repr positive)

/-- The text of a natural number is a numeral without fraction and power. -/
theorem isNumeral_repr (negative : Bool) (n : Nat) :
    IsNumeral ⟨negative, (Nat.repr n).toList, none, none⟩ (Nat.repr n).toList := by
  have parts : IsNumeral ⟨negative, _, none, none⟩ _ := .parts (isWhole_repr n) .none .none
  rwa [List.append_nil, List.append_nil] at parts

theorem isScalar_ofInt {i : Int} (least : Text.minInt64 ≤ i) (most : i < Text.natBound64) :
    IsScalar (.int i) (Text.ofInt i).toList := by
  have bounds : -9223372036854775808 ≤ i ∧ i < 18446744073709551616 := ⟨least, most⟩
  have small : i.natAbs < Text.natBound64 := by
    unfold Text.natBound64
    omega
  unfold Text.ofInt
  split
  · rename_i below
    have size : ¬(i.natAbs = 0 ∨ 9223372036854775808 < i.natAbs) := by omega
    have value : Numeral.value? ⟨true, (Nat.repr i.natAbs).toList, none, none⟩ = some (.int i) := by
      simp only [Numeral.value?, takeSignificand_repr small, if_true, if_neg size]
      exact congrArg (fun i => some (Json.int i)) (by omega)
    rw [String.toList_append]
    exact .negative (isNumeral_repr true i.natAbs) rfl value
  · have value :
        Numeral.value? ⟨false, (Nat.repr i.natAbs).toList, none, none⟩ = some (.int i) := by
      simp only [Numeral.value?, takeSignificand_repr small, Bool.false_eq_true, if_false]
      exact congrArg (fun i => some (Json.int i)) (by omega)
    exact .positive (isNumeral_repr false i.natAbs) rfl value

/-! Strings. -/

theorem hexValue?_hexDigit {n : Nat} (small : n < 16) : hexValue? (Text.hexDigit n) = some n := by
  interval_cases n <;> decide

theorem isHex4_hex {n : Nat} (small : n < 65536) : IsHex4 n (Text.hex 4 n) := by
  have digits := IsHex4.digits
    (hexValue?_hexDigit (n := n / 16 / 16 / 16 % 16) (Nat.mod_lt _ (by decide)))
    (hexValue?_hexDigit (n := n / 16 / 16 % 16) (Nat.mod_lt _ (by decide)))
    (hexValue?_hexDigit (n := n / 16 % 16) (Nat.mod_lt _ (by decide)))
    (hexValue?_hexDigit (n := n % 16) (Nat.mod_lt _ (by decide)))
  have value : ((n / 16 / 16 / 16 % 16 * 16 + n / 16 / 16 % 16) * 16 + n / 16 % 16) * 16 + n % 16 =
      n := by omega
  rw [value] at digits
  exact digits

/-- One character as it is written between quotes. -/
theorem isText_escapeChar (c : Char) {s cs : List Char} (rest : IsText s cs) :
    IsText (c :: s) (escapeChar c ++ cs) := by
  have letter : ∀ {l : Char}, escaped? l = some c → IsText (c :: s) (['\\', l] ++ cs) :=
    fun stands => .escaped (.letter stands) rest
  unfold escapeChar
  repeat' split
  iterate 7
    next same => exact letter (by rw [eq_of_beq same]; rfl)
  · rename_i control
    have code : IsEscape c ('u' :: Text.hex 4 c.toNat) := by
      have numbered := IsEscape.code (isHex4_hex (n := c.toNat) (by omega)) (.inl (by omega))
      rwa [Char.ofNat_toNat] at numbered
    exact .escaped code rest
  · rename_i quote backslash _ _ _ _ _ visible
    exact .plain (fun same => quote (beq_iff_eq.2 same)) (fun same => backslash (beq_iff_eq.2 same))
      (Nat.le_of_not_lt visible) rest

theorem isText_escapeChars (s : List Char) : IsText s (s.flatMap escapeChar) := by
  induction s with
  | nil => exact .nil
  | cons c s ih => exact isText_escapeChar c ih

theorem stringText_toList (s : String) :
    (stringText s).toList = '\x22' :: (s.toList.flatMap escapeChar ++ ['\x22']) := by
  rw [stringText, String.toList_ofList, List.cons_append]

theorem isScalar_stringText (s : String) : IsScalar (.str s) (stringText s).toList := by
  have spelled := IsScalar.text (isText_escapeChars s.toList)
  rwa [String.ofList_toList, ← stringText_toList] at spelled

/-! Containers. -/

/-- A layout that sets parts apart by blanks only. -/
structure Layout.Blank (layout : Layout) : Prop where
  newline : ∀ k, IsSpaces (layout.newline k).toList
  colon : ∃ bs bs' : List Char,
    IsSpaces bs ∧ IsSpaces bs' ∧ layout.colon.toList = bs ++ ':' :: bs'

theorem blank_compactLayout : compactLayout.Blank :=
  ⟨fun _ _ member => (by cases member), [], [], nofun, nofun, rfl⟩

theorem blank_indentedLayout : indentedLayout.Blank := by
  refine ⟨fun k c member => ?_, [], [' '], nofun, by simp [IsSpaces, isSpace], rfl⟩
  have inside : c = '\n' ∨ c ∈ List.replicate (2 * k) ' ' := by
    simpa [indentedLayout] using member
  rcases inside with rfl | blank
  · rfl
  · rw [List.eq_of_mem_replicate blank]
    rfl

/-- What follows a part of a container: the further parts and the closing bracket. -/
def behindPart (newline last : List Char) (right : Char) : List String → List Char
  | [] => last ++ [right]
  | part :: rest => (',' :: newline) ++ (part.toList ++ behindPart newline last right rest)

theorem intercalate_toList (newline : String) (last : List Char) (right : Char) (part : String)
    (rest : List String) :
    (("," ++ newline).intercalate (part :: rest)).toList ++ (last ++ [right]) =
      part.toList ++ behindPart newline.toList last right rest := by
  rw [String.toList_intercalate, List.map_cons]
  induction rest generalizing part with
  | nil => rw [List.map_nil, List.intercalate_singleton, behindPart]
  | cons next rest ih =>
    rw [List.map_cons, List.intercalate_cons_cons, List.append_assoc, List.append_assoc, ih,
      behindPart, String.toList_append]
    rfl

theorem enclose_toList (layout : Layout) (k : Nat) (left right : Char) (part : String)
    (rest : List String) :
    (layout.enclose k (String.singleton left) (String.singleton right) (part :: rest)).toList =
      left :: ((layout.newline (k + 1)).toList ++ (part.toList ++
        behindPart (layout.newline (k + 1)).toList (layout.newline k).toList right rest)) := by
  rw [← intercalate_toList]
  simp [Layout.enclose]

variable {layout : Layout} {k : Nat}

/-- Further items of a list, each written as its value, up to the closing bracket. -/
theorem spells_behindItems {newline last : List Char} (blank : IsSpaces newline)
    (end_ : IsSpaces last) {items : List Json}
    (each : ∀ item ∈ items, Spells depth (.value item.ordered) (write layout k item).toList) :
    Spells depth (.items false (orderedItems items))
      (behindPart newline last ']' (writeItems layout k items)) := by
  induction items with
  | nil => exact .noItem end_
  | cons item rest ih =>
    obtain ⟨first, others⟩ := List.forall_mem_cons.1 each
    have lead : IsLead false (',' :: newline) := IsLead.further (nofun : IsSpaces []) blank
    exact .item lead first (ih others)

theorem spells_items (blank : layout.Blank) {items : List Json}
    (each : ∀ item ∈ items, Spells depth (.value item.ordered) (write layout (k + 1) item).toList) :
    ∃ body, (layout.enclose k "[" "]" (writeItems layout (k + 1) items)).toList = '[' :: body ∧
      Spells depth (.items true (orderedItems items)) body := by
  cases items with
  | nil => exact ⟨[']'], by simp [Layout.enclose, writeItems], .noItem (nofun : IsSpaces [])⟩
  | cons item rest =>
    obtain ⟨first, others⟩ := List.forall_mem_cons.1 each
    exact ⟨_, enclose_toList layout k '[' ']' _ _, .item (.first (blank.newline _)) first
      (spells_behindItems (blank.newline _) (blank.newline _) others)⟩

theorem spells_field (blank : layout.Blank) {all : Bool} {lead more : List Char} {name : String}
    {value : Json} {fs : List (String × Json)} (leads : IsLead all lead)
    (spelled : Spells depth (.value value.ordered) (write layout k value).toList)
    (further : Spells depth (.fields false fs) more) :
    Spells depth (.fields all ((name, value.ordered) :: fs))
      (lead ++ ((stringText name ++ layout.colon ++ write layout k value).toList ++ more)) := by
  obtain ⟨bs, bs', before, behind, colon⟩ := blank.colon
  have field := Spells.field leads (isText_escapeChars name.toList) before behind spelled further
  rw [String.ofList_toList] at field
  simpa [stringText_toList, colon] using field

theorem spells_behindFields (blank : layout.Blank) {newline last : List Char}
    (spaces : IsSpaces newline) (end_ : IsSpaces last) {fields : List (String × Json)}
    (each : ∀ f ∈ fields, Spells depth (.value f.2.ordered) (write layout k f.2).toList) :
    Spells depth (.fields false (orderedFields fields))
      (behindPart newline last '\x7d' (writeFields layout k fields)) := by
  induction fields with
  | nil => exact .noField end_
  | cons f rest ih =>
    obtain ⟨first, others⟩ := List.forall_mem_cons.1 each
    have lead : IsLead false (',' :: newline) := IsLead.further (nofun : IsSpaces []) spaces
    exact spells_field blank lead first (ih others)

theorem spells_fields (blank : layout.Blank) {fields : List (String × Json)}
    (each : ∀ f ∈ fields, Spells depth (.value f.2.ordered) (write layout (k + 1) f.2).toList) :
    ∃ body,
      (layout.enclose k "\x7b" "\x7d" (writeFields layout (k + 1) fields)).toList = '\x7b' :: body ∧
        Spells depth (.fields true (orderedFields fields)) body := by
  cases fields with
  | nil => exact ⟨['\x7d'], by simp [Layout.enclose, writeFields], .noField (nofun : IsSpaces [])⟩
  | cons f rest =>
    obtain ⟨first, others⟩ := List.forall_mem_cons.1 each
    exact ⟨_, enclose_toList layout k '\x7b' '\x7d' _ _,
      spells_field blank (.first (blank.newline _)) first
        (spells_behindFields blank (blank.newline _) (blank.newline _) others)⟩

/-- What is written for a legible value spells it. -/
theorem spells_write (blank : layout.Blank) {j : Json} (legible : j.Legible depth) (k : Nat) :
    Spells depth (.value j.ordered) (write layout k j).toList := by
  induction legible generalizing k with
  | null =>
    rw [ordered, write]
    exact .scalar .null
  | bool b =>
    rw [ordered, write]
    cases b
    · exact .scalar .no
    · exact .scalar .yes
  | int least most =>
    rw [ordered, write]
    exact .scalar (isScalar_ofInt least most)
  | float exact =>
    rw [ordered, write]
    exact .scalar exact
  | str s =>
    rw [ordered, write]
    exact .scalar (isScalar_stringText s)
  | arr room _ ih =>
    obtain ⟨body, written, spelled⟩ := spells_items (k := k) blank (fun item member =>
      ih item member (k + 1))
    rw [ordered, write, written]
    exact .list room spelled
  | obj room _ ih =>
    obtain ⟨body, written, spelled⟩ := spells_fields (k := k) blank (fun f member =>
      ih f member (k + 1))
    rw [ordered, write, written]
    exact .object room spelled

theorem read_write (blank : layout.Blank) {j : Json} (legible : j.Legible depthLimit) :
    read (write layout 0 j) = .ok j.ordered :=
  read_eq_ok.2 ⟨[], (write layout 0 j).toList, [], by simp, nofun, nofun,
    spells_write blank legible 0⟩

theorem read_compact {j : Json} (legible : j.Legible depthLimit) : read j.compact = .ok j.ordered :=
  read_write blank_compactLayout legible

theorem read_indented {j : Json} (legible : j.Legible depthLimit) :
    read j.indented = .ok j.ordered :=
  read_write blank_indentedLayout legible

end ThreatHunt.Json
