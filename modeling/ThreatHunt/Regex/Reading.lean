import ThreatHunt.Regex.Meaning
import ThreatHunt.Regex.Size
import ThreatHunt.Text.Words

/-!
Reading regular expressions. A step takes characters from the front of a list and gives none for a
malformed expression. While the `spaced` switch is on, blanks and comments are left out; a comment
goes from a number sign to the end of its line.
-/

namespace ThreatHunt.Regex

/-- The characters at the front that pass a test, and the rest. What is left out may stand before
each of them and before the rest; `inComment` says that a comment has begun. -/
def takeSpaced (spaced : Bool) (p : Char → Bool) (inComment : Bool) :
    List Char → List Char × List Char
  | [] => ([], [])
  | c :: rest =>
    if inComment then takeSpaced spaced p (c != '\n') rest
    else if spaced && Text.isBlank c then takeSpaced spaced p false rest
    else if spaced && c == '#' then takeSpaced spaced p true rest
    else if p c then
      let (taken, rest) := takeSpaced spaced p false rest
      (c :: taken, rest)
    else ([], c :: rest)

def skip (spaced : Bool) (cs : List Char) : List Char :=
  (takeSpaced spaced (fun _ => false) false cs).2

/-! Escapes. -/

/-- Characters that may be escaped though they stand for themselves. -/
def isEscapable (c : Char) : Bool :=
  c.toNat < 128 && !c.isAlphanum && c != '<' && c != '>'

def hexDigit? (c : Char) : Option Nat :=
  if c.isDigit then some (c.toNat - '0'.toNat)
  else if 'a' ≤ c ∧ c ≤ 'f' then some (c.toNat - 'a'.toNat + 10)
  else if 'A' ≤ c ∧ c ≤ 'F' then some (c.toNat - 'A'.toNat + 10)
  else none

/-- The character with a number. -/
def charOf? (n : Nat) : Option Char :=
  if n < 0xD800 ∨ (0xDFFF < n ∧ n ≤ 0x10FFFF) then some (Char.ofNat n) else none

/-- So many hexadecimal digits, after `n` from digits before. -/
def readHexDigits (spaced : Bool) : Nat → Nat → List Char → Option (Nat × List Char)
  | 0, n, cs => some (n, cs)
  | count + 1, n, cs =>
    match skip spaced cs with
    | c :: rest => (hexDigit? c).bind (fun d => readHexDigits spaced count (16 * n + d) rest)
    | [] => none

/-- What stands in braces, after the opening one. -/
def readBraced (spaced : Bool) (cs : List Char) : Option (List Char × List Char) :=
  match takeSpaced spaced (· != '\x7d') false cs with
  | (inner, _ :: rest) => some (inner, rest)
  | (_, []) => none

/-- A character given by its number: digits in braces, or a fixed number of digits. Two digits are
the number of a byte. -/
def readHex (spaced : Bool) (width : Nat) (cs : List Char) : Option (Letter × List Char) :=
  match skip spaced cs with
  | '\x7b' :: rest => do
    let (digits, rest) ← readBraced spaced rest
    let values ← digits.mapM hexDigit?
    if digits.isEmpty then none
    else some (⟨← charOf? (values.foldl (fun n d => 16 * n + d) 0), false⟩, rest)
  | cs => do
    let (n, rest) ← readHexDigits spaced width 0 cs
    some (⟨← charOf? n, width = 2⟩, rest)

/-- The characters before and after the first place of a sign. -/
def splitAtSign? (sign : List Char) : List Char → Option (List Char × List Char)
  | [] => none
  | c :: rest =>
    if sign.isPrefixOf (c :: rest) then some ([], (c :: rest).drop sign.length)
    else (splitAtSign? sign rest).map (fun r => (c :: r.1, r.2))

/-- What the braces after `\p` ask for. -/
def queryOf (text : List Char) : Query :=
  match (splitAtSign? ['!', '='] text).or ((splitAtSign? [':'] text).or (splitAtSign? ['='] text))
  with
  | some (property, value) => .value (String.ofList property) (String.ofList value)
  | none => .name (String.ofList text)

/-- What is asked for after `\p`: one letter, or braces. -/
def readQuery (spaced : Bool) (cs : List Char) : Option (Query × List Char) :=
  match skip spaced cs with
  | '\x7b' :: rest => (readBraced spaced rest).map (fun r => (queryOf r.1, r.2))
  | '\\' :: _ => none
  | c :: rest => some (.name (String.ofList [c]), rest)
  | [] => none

/-- The edge after `\b`: that in braces if a word stands there, else any. -/
def readEdge (spaced : Bool) (cs : List Char) : Option (WordEdge × List Char) :=
  match cs with
  | '\x7b' :: rest =>
    match takeSpaced spaced (fun c => c.isAlpha || c == '-') false rest with
    | ([], []) => none
    | ([], _) => some (.boundary, cs)
    | (name, '\x7d' :: rest) =>
      match String.ofList name with
      | "start" => some (.start, rest)
      | "end" => some (.stop, rest)
      | "start-half" => some (.startHalf, rest)
      | "end-half" => some (.stopHalf, rest)
      | _ => none
    | _ => none
  | cs => some (.boundary, cs)

/-- What an escape stands for. -/
inductive Escape where
  | letter (letter : Letter)
  | short (negative : Bool) (kind : ShortClass)
  | property (negative : Bool) (query : Query)
  | assertion (assertion : Assertion)
  deriving DecidableEq, Repr, Inhabited

/-- An escape outside brackets. -/
def Escape.written : Escape → Written
  | .letter l => .letter l
  | .short negative kind => .short negative kind
  | .property negative query => .property negative query
  | .assertion a => .assertion a

/-- An escape in brackets, where no assertion may stand. -/
def Escape.members? : Escape → Option Members
  | .letter l => some (.letter l)
  | .short negative kind => some (.short negative kind)
  | .property negative query => some (.property negative query)
  | .assertion _ => none

/-- An escape after its backslash. -/
def readEscape (spaced : Bool) : List Char → Option (Escape × List Char)
  | [] => none
  | c :: rest =>
    let letter := fun (d : Char) => some (Escape.letter ⟨d, false⟩, rest)
    let short := fun (negative : Bool) (kind : ShortClass) =>
      some (Escape.short negative kind, rest)
    let assertion := fun (a : Assertion) => some (Escape.assertion a, rest)
    let number := fun (width : Nat) =>
      (readHex spaced width rest).map (fun r => (Escape.letter r.1, r.2))
    let property := fun (negative : Bool) =>
      (readQuery spaced rest).map (fun r => (Escape.property negative r.1, r.2))
    if isEscapable c then letter c
    else
      match c with
      | 'd' => short false .digit
      | 'D' => short true .digit
      | 's' => short false .space
      | 'S' => short true .space
      | 'w' => short false .word
      | 'W' => short true .word
      | 'p' => property false
      | 'P' => property true
      | 'x' => number 2
      | 'u' => number 4
      | 'U' => number 8
      | 'a' => letter '\x07'
      | 'f' => letter '\x0c'
      | 't' => letter '\t'
      | 'n' => letter '\n'
      | 'r' => letter '\r'
      | 'v' => letter '\x0b'
      | 'A' => assertion .textStart
      | 'z' => assertion .textEnd
      | 'b' => (readEdge spaced rest).map (fun r => (.assertion (.word r.1), r.2))
      | 'B' => assertion (.word .noBoundary)
      | '<' => assertion (.word .start)
      | '>' => assertion (.word .stop)
      | _ => none

/-! Brackets. -/

/-- The classes that have names inside brackets. -/
def asciiClass? (name : String) : Option CharSet :=
  let ranges := match name with
    | "alnum" => "30-39 41-5A 61-7A"
    | "alpha" => "41-5A 61-7A"
    | "ascii" => "0-7F"
    | "blank" => "9 20"
    | "cntrl" => "0-1F 7F"
    | "digit" => "30-39"
    | "graph" => "21-7E"
    | "lower" => "61-7A"
    | "print" => "20-7E"
    | "punct" => "21-2F 3A-40 5B-60 7B-7E"
    | "space" => "9-D 20"
    | "upper" => "41-5A"
    | "word" => "30-39 41-5A 5F 61-7A"
    | "xdigit" => "30-39 41-46 61-66"
    | _ => ""
  if ranges.isEmpty then none else some (CharSet.ofTable [ranges])

/-- A named class after its opening bracket. -/
def readAsciiClass : List Char → Option (Members × List Char)
  | ':' :: cs =>
    let (negative, cs) := match cs with
      | '^' :: rest => (true, rest)
      | cs => (false, cs)
    let name := cs.takeWhile (· != ':')
    match cs.drop name.length with
    | ':' :: ']' :: rest =>
      (asciiClass? (String.ofList name)).map (fun s => (.ascii negative s, rest))
    | _ => none
  | _ => none

def letterMember (c : Char) : Members := .letter ⟨c, false⟩

/-- The front of a bracket expression after its opening bracket: whether it is negative, and the
hyphens or the closing bracket that stand for themselves there. -/
def readOpening (spaced : Bool) (cs : List Char) : Bool × List Members × List Char :=
  let (negative, cs) := match skip spaced cs with
    | '^' :: rest => (true, rest)
    | cs => (false, cs)
  match takeSpaced spaced (· == '-') false cs with
  | ([], ']' :: rest) => (negative, [letterMember ']'], rest)
  | (hyphens, rest) => (negative, hyphens.map letterMember, rest)

/-- A single member of a bracket expression. -/
def readMember (spaced : Bool) : List Char → Option (Escape × List Char)
  | '\\' :: rest => readEscape spaced rest
  | c :: rest => some (.letter ⟨c, false⟩, rest)
  | [] => none

/-- The character after a hyphen that decides whether the hyphen makes a range. A comment counts
only for its number sign. -/
def decider? (spaced : Bool) (cs : List Char) : Option Char :=
  if !spaced then cs.head?
  else
    let next := match cs.dropWhile Text.isBlank with
      | '#' :: rest => rest.dropWhile Text.isBlank
      | rest => rest
    next.head?.or cs.head?

/-- Whether a hyphen at the front makes a range with the member before it. -/
def makesRange (spaced : Bool) : List Char → Bool
  | '-' :: rest => decider? spaced rest != some ']' && decider? spaced rest != some '-'
  | _ => false

/-- Puts an operand behind an operator and what stands before that. -/
def closeOperand (pending : Option (Members × SetOperator)) (operand : Members) : Members :=
  match pending with
  | none => operand
  | some (left, op) => .combined op left operand

/-- The members up to an operator or a closing bracket, the last one first, behind what stands
before them. -/
def closeItems (pending : Option (Members × SetOperator)) (items : List Members) : Members :=
  closeOperand pending (Members.ofList items.reverse)

/-- Bracket expressions after the opening one, up to the closing bracket. `items` are the members of
the operand at hand, the last one first, and `pending` is what stands before the operand. -/
def readMembers (spaced : Bool) : Nat → Option (Members × SetOperator) → List Members → List Char →
    Option (Members × List Char)
  | 0, _, _, _ => none
  | fuel + 1, pending, items, cs =>
    let operator := fun (op : SetOperator) (rest : List Char) =>
      readMembers spaced fuel (some (closeItems pending items, op)) [] rest
    match skip spaced cs with
    | [] => none
    | ']' :: rest => some (closeItems pending items, rest)
    | '[' :: rest =>
      match readAsciiClass rest with
      | some (m, rest) => readMembers spaced fuel pending (m :: items) rest
      | none => do
        let (negative, first, rest) := readOpening spaced rest
        let (m, rest) ← readMembers spaced fuel none first.reverse rest
        readMembers spaced fuel pending (.bracket negative m :: items) rest
    | '&' :: '&' :: rest => operator .intersection rest
    | '-' :: '-' :: rest => operator .difference rest
    | '~' :: '~' :: rest => operator .symmetricDifference rest
    | cs => do
      let (first, rest) ← readMember spaced cs
      let rest := skip spaced rest
      if !makesRange spaced rest then
        readMembers spaced fuel pending ((← first.members?) :: items) rest
      else
        match first, ← readMember spaced (skip spaced (rest.drop 1)) with
        | .letter a, (.letter b, rest) =>
          if a.char ≤ b.char then readMembers spaced fuel pending (.range a b :: items) rest
          else none
        | _, _ => none

/-- A bracket expression after its opening bracket. -/
def readBracket (spaced : Bool) (cs : List Char) : Option (Written × List Char) :=
  let (negative, first, cs) := readOpening spaced cs
  (readMembers spaced (cs.length + 1) none first.reverse cs).map
    (fun r => (.bracket negative r.1, r.2))

/-! Repetitions. -/

/-- A number in the braces of a repetition. -/
def readCount (spaced : Bool) (cs : List Char) : Option (Nat × List Char) :=
  let (digits, rest) := takeSpaced spaced Char.isDigit false (cs.dropWhile Text.isBlank)
  let n := Text.digitsValue digits
  if digits.isEmpty || 4294967296 ≤ n then none else some (n, rest.dropWhile Text.isBlank)

/-- The bounds of a repetition after its brace. -/
def readBounds (spaced : Bool) (cs : List Char) : Option ((Nat × Option Nat) × List Char) := do
  let (least, rest) ← readCount spaced cs
  match rest with
  | '\x7d' :: rest => some ((least, some least), rest)
  | ',' :: rest =>
    match skip spaced rest with
    | '\x7d' :: rest => some ((least, none), rest)
    | rest => do
      let (most, rest) ← readCount spaced rest
      match rest with
      | '\x7d' :: rest => if least ≤ most then some ((least, some most), rest) else none
      | _ => none
  | _ => none

/-- Drops the question mark behind a repetition, which makes no difference to where matches may be
found. -/
def dropLazy : List Char → List Char
  | '?' :: rest => rest
  | cs => cs

/-- A repetition at the front: its bounds, and the rest. -/
def readRepetition (spaced : Bool) : List Char → Option ((Nat × Option Nat) × List Char)
  | '*' :: rest => some ((0, none), dropLazy rest)
  | '+' :: rest => some ((1, none), dropLazy rest)
  | '?' :: rest => some ((0, some 1), dropLazy rest)
  | '\x7b' :: rest =>
    (readBounds spaced rest).map (fun r => (r.1, dropLazy (skip spaced r.2)))
  | _ => none

/-- Repeats the last of some items, which comes first in the list. -/
def repeatLast (bounds : Nat × Option Nat) : List Written → Option (List Written)
  | [] => none
  | .settings _ :: _ => none
  | item :: items => some (.times item bounds.1 bounds.2 :: items)

/-! Groups. -/

def switch? (c : Char) : Option Switch :=
  match c with
  | 'i' => some .anyCase
  | 'm' => some .lines
  | 's' => some .dotAll
  | 'U' => some .lazy
  | 'u' => some .unicode
  | 'R' => some .returns
  | 'x' => some .spaced
  | _ => none

/-- The settings of a group, and what stands behind the colon or parenthesis that ends them. Each
switch stands once; those after a hyphen are off, and one follows it. -/
def readSettings (negative : Bool) (dangling : Bool) (found : Settings) :
    List Char → Option (Settings × Char × List Char)
  | [] => none
  | c :: rest =>
    if c == ':' || c == ')' then if dangling then none else some (found, c, rest)
    else if c == '-' then if negative then none else readSettings true true found rest
    else
      match switch? c with
      | some s =>
        if (found.value? s).isSome then none
        else readSettings negative false ((s, !negative) :: found) rest
      | none => none

def isNameStart (c : Char) : Bool := c == '_' || Unicode.alphabetic.has c

def isNamePart (c : Char) : Bool :=
  c == '.' || c == '[' || c == ']' || isNameStart c || Unicode.numericChars.has c

/-- The name of a group up to its closing angle. -/
def readName (cs : List Char) : Option (String × List Char) :=
  let name := cs.takeWhile (· != '>')
  match cs.drop name.length, name with
  | _ :: rest, first :: more =>
    if isNameStart first && more.all isNamePart then some (String.ofList name, rest) else none
  | _, _ => none

/-- What stands after an opening parenthesis. -/
inductive GroupHead where
  /-- A group that may have a name. -/
  | capture (name : Option String)
  | inner (settings : Settings)
  /-- Settings for the rest of the group around it. -/
  | settings (settings : Settings)
  deriving DecidableEq, Repr, Inhabited

def readGroupHead (cs : List Char) : Option (GroupHead × List Char) :=
  let named := fun (cs : List Char) => (readName cs).map (fun r => (GroupHead.capture r.1, r.2))
  match cs with
  | '?' :: 'P' :: '<' :: rest => named rest
  | '?' :: '<' :: rest => named rest
  | '?' :: rest =>
    match readSettings false false [] rest with
    | some (found, ':', rest) => some (.inner found, rest)
    | some (found, _, rest) => if found.isEmpty then none else some (.settings found, rest)
    | none => none
  | cs => some (.capture none, cs)

/-! Whole expressions. -/

/-- Where reading stands: whether blanks are left out, the names of the groups so far, and the
characters left. -/
structure Reader where
  spaced : Bool
  names : List String
  chars : List Char
  deriving DecidableEq, Repr, Inhabited

/-- A single item at the front that is no group. -/
def readItem (spaced : Bool) : List Char → Option (Written × List Char)
  | [] => none
  | '[' :: rest => readBracket spaced rest
  | '\\' :: rest => (readEscape spaced rest).map (fun r => (r.1.written, r.2))
  | '.' :: rest => some (.dot, rest)
  | '^' :: rest => some (.assertion .lineStart, rest)
  | '$' :: rest => some (.assertion .lineEnd, rest)
  | c :: rest => some (.letter ⟨c, false⟩, rest)

/-- The alternatives so far and the items of the last one, each with the last one first. -/
def addBranch (branches items : List Written) : List Written :=
  Written.sequence items.reverse :: branches

/-- Alternatives up to a closing parenthesis or the end. `items` are those of the alternative at
hand, and `branches` the alternatives before it; the last one comes first in both. -/
def readBody : Nat → List Written → List Written → Reader → Option (Written × Reader)
  | 0, _, _, _ => none
  | fuel + 1, branches, items, reader =>
    let cs := skip reader.spaced reader.chars
    let finish := fun (cs : List Char) =>
      some (Written.alternatives (addBranch branches items).reverse, { reader with chars := cs })
    match cs with
    | [] => finish []
    | ')' :: rest => finish (')' :: rest)
    | '|' :: rest => readBody fuel (addBranch branches items) [] { reader with chars := rest }
    | '(' :: rest => do
      let (head, rest) ← readGroupHead (skip reader.spaced rest)
      match head with
      | .settings found =>
        let spaced := (found.value? .spaced).getD reader.spaced
        readBody fuel branches (.settings found :: items) ⟨spaced, reader.names, rest⟩
      | .inner found => do
        let spaced := (found.value? .spaced).getD reader.spaced
        match ← readBody fuel [] [] ⟨spaced, reader.names, rest⟩ with
        | (body, ⟨_, names, ')' :: rest⟩) =>
          readBody fuel branches (.inner found body :: items) ⟨reader.spaced, names, rest⟩
        | _ => none
      | .capture name => do
        if name.any reader.names.contains then none
        else
          match ← readBody fuel [] [] ⟨reader.spaced, name.toList ++ reader.names, rest⟩ with
          | (body, ⟨_, names, ')' :: rest⟩) =>
            readBody fuel branches (.capture body :: items) ⟨reader.spaced, names, rest⟩
          | _ => none
    | c :: _ =>
      if c == '*' || c == '+' || c == '?' || c == '\x7b' then do
        let (bounds, rest) ← readRepetition reader.spaced cs
        readBody fuel branches (← repeatLast bounds items) { reader with chars := rest }
      else do
        let (item, rest) ← readItem reader.spaced cs
        readBody fuel branches (item :: items) { reader with chars := rest }

/-- The expression that a text writes. -/
def Written.read? (s : String) : Option Written :=
  match readBody (s.toList.length + 1) [] [] ⟨false, [], s.toList⟩ with
  | some (w, reader) =>
    if reader.chars.isEmpty && w.depth false ≤ depthLimit then some w else none
  | none => none

/-- The regular expression that a text writes. -/
def ofText? (s : String) : Option Regex := do
  let (r, _) ← (← Written.read? s).meaning? .plain
  some r

/-- The regular expression that a text writes, unless its machine would be too large. -/
def read? (s : String) : Option Regex := (ofText? s).filter fits

end ThreatHunt.Regex
