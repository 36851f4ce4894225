import ThreatHunt.Json.Reader

/-!
The grammar of JSON. A text is one value between blanks; the grammar says what value the characters
spell, and how deep its containers nest.
-/

namespace ThreatHunt.Json

/-- Blanks between tokens. -/
def IsSpaces (cs : List Char) : Prop := ∀ c ∈ cs, isSpace c = true

/-! Numbers. -/

def IsDigits (ds : List Char) : Prop := ds ≠ [] ∧ ∀ d ∈ ds, d.isDigit = true

/-- The digits before a point: a zero stands alone. -/
structure IsWhole (ds : List Char) : Prop where
  digits : IsDigits ds
  zero : ds.head? = some '0' → ds = ['0']

inductive IsFraction : Option (List Char) → List Char → Prop where
  | none : IsFraction none []
  | some {ds : List Char} : IsDigits ds → IsFraction (some ds) ('.' :: ds)

/-- An exponent with its mark. -/
inductive IsPower : Option Int → List Char → Prop where
  | none : IsPower none []
  | unsigned {mark : Char} {ds : List Char} : mark = 'e' ∨ mark = 'E' → IsDigits ds →
      IsPower (some (Text.digitsValue ds)) (mark :: ds)
  | plus {mark : Char} {ds : List Char} : mark = 'e' ∨ mark = 'E' → IsDigits ds →
      IsPower (some (Text.digitsValue ds)) (mark :: '+' :: ds)
  | minus {mark : Char} {ds : List Char} : mark = 'e' ∨ mark = 'E' → IsDigits ds →
      IsPower (some (-(Text.digitsValue ds : Int))) (mark :: '-' :: ds)

/-- A number behind its sign. -/
inductive IsNumeral : Numeral → List Char → Prop where
  | parts {negative : Bool} {whole fraction power : List Char} {digits : Option (List Char)}
      {exponent : Option Int} : IsWhole whole → IsFraction digits fraction →
      IsPower exponent power →
      IsNumeral ⟨negative, whole, digits, exponent⟩ (whole ++ (fraction ++ power))

/-! Strings. -/

/-- Four hexadecimal digits and their value. -/
inductive IsHex4 : Nat → List Char → Prop where
  | digits {a b c d : Char} {i j k l : Nat} : hexValue? a = some i → hexValue? b = some j →
      hexValue? c = some k → hexValue? d = some l →
      IsHex4 (((i * 16 + j) * 16 + k) * 16 + l) [a, b, c, d]

/-- What stands behind a backslash for a character. -/
inductive IsEscape : Char → List Char → Prop where
  | letter {c d : Char} : escaped? c = some d → IsEscape d [c]
  | code {n : Nat} {cs : List Char} : IsHex4 n cs → n < 0xD800 ∨ 0xDFFF < n →
      IsEscape (Char.ofNat n) ('u' :: cs)
  | pair {high low : Nat} {cs ds : List Char} : IsHex4 high cs → 0xD800 ≤ high ∧ high ≤ 0xDBFF →
      IsHex4 low ds → 0xDC00 ≤ low ∧ low ≤ 0xDFFF →
      IsEscape (Char.ofNat ((high - 0xD800) * 1024 + (low - 0xDC00) + 0x10000))
        ('u' :: (cs ++ '\\' :: 'u' :: ds))

/-- The characters of a string and how they are written between quotes. -/
inductive IsText : List Char → List Char → Prop where
  | nil : IsText [] []
  | plain {c : Char} {s cs : List Char} : c ≠ '\x22' → c ≠ '\\' → 32 ≤ c.toNat → IsText s cs →
      IsText (c :: s) (c :: cs)
  | escaped {d : Char} {es s cs : List Char} : IsEscape d es → IsText s cs →
      IsText (d :: s) ('\\' :: (es ++ cs))

/-! Values. -/

/-- A value that is no container. -/
inductive IsScalar : Json → List Char → Prop where
  | null : IsScalar .null ['n', 'u', 'l', 'l']
  | yes : IsScalar (.bool true) ['t', 'r', 'u', 'e']
  | no : IsScalar (.bool false) ['f', 'a', 'l', 's', 'e']
  | positive {n : Numeral} {v : Json} {cs : List Char} : IsNumeral n cs → n.negative = false →
      n.value? = some v → IsScalar v cs
  | negative {n : Numeral} {v : Json} {cs : List Char} : IsNumeral n cs → n.negative = true →
      n.value? = some v → IsScalar v ('-' :: cs)
  | text {s cs : List Char} : IsText s cs →
      IsScalar (.str (String.ofList s)) ('\x22' :: (cs ++ ['\x22']))

/-- What stands before the first part of a container, or before a further one. -/
inductive IsLead : Bool → List Char → Prop where
  | first {bs : List Char} : IsSpaces bs → IsLead true bs
  | further {bs bs' : List Char} : IsSpaces bs → IsSpaces bs' → IsLead false (bs ++ ',' :: bs')

/-- What a part of a text spells. -/
inductive Meaning where
  | value (v : Json)
  /-- Items up to the end of their list; whether they are all of the list. -/
  | items (all : Bool) (vs : List Json)
  /-- Fields up to the end of their object; whether they are all of the object. -/
  | fields (all : Bool) (fs : List (String × Json))

/-- Characters that spell values, in containers that nest less deep than a depth. -/
inductive Spells : Nat → Meaning → List Char → Prop where
  | scalar {depth : Nat} {v : Json} {cs : List Char} : IsScalar v cs → Spells depth (.value v) cs
  | list {depth : Nat} {vs : List Json} {cs : List Char} : 0 < depth →
      Spells depth (.items true vs) cs → Spells (depth + 1) (.value (.arr vs)) ('[' :: cs)
  | object {depth : Nat} {fs : List (String × Json)} {cs : List Char} : 0 < depth →
      Spells depth (.fields true fs) cs →
      Spells (depth + 1) (.value (.obj (sortFields fs))) ('\x7b' :: cs)
  | noItem {depth : Nat} {all : Bool} {bs : List Char} : IsSpaces bs →
      Spells depth (.items all []) (bs ++ [']'])
  | item {depth : Nat} {all : Bool} {v : Json} {vs : List Json} {lead cs more : List Char} :
      IsLead all lead → Spells depth (.value v) cs → Spells depth (.items false vs) more →
      Spells depth (.items all (v :: vs)) (lead ++ (cs ++ more))
  | noField {depth : Nat} {all : Bool} {bs : List Char} : IsSpaces bs →
      Spells depth (.fields all []) (bs ++ ['\x7d'])
  | field {depth : Nat} {all : Bool} {v : Json} {fs : List (String × Json)}
      {lead name s bs bs' cs more : List Char} :
      IsLead all lead → IsText s name → IsSpaces bs → IsSpaces bs' → Spells depth (.value v) cs →
      Spells depth (.fields false fs) more →
      Spells depth (.fields all ((String.ofList s, v) :: fs))
        (lead ++ ('\x22' :: (name ++ '\x22' :: (bs ++ ':' :: (bs' ++ (cs ++ more))))))

end ThreatHunt.Json
