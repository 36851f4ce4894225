import ThreatHunt.Json.Fault
import ThreatHunt.Text.Located

/-!
The words, strings and numbers of JSON. Each step fails with a fault or gives the value and the
rest.
-/

namespace ThreatHunt.Json

/-- Characters still to be read, and the place of the first. -/
structure Input where
  rest : List Char
  place : Position

/-- The place one byte after the first byte of a character. -/
def Position.afterByte (p : Position) (c : Char) : Position :=
  if c == '\n' then ⟨p.line + 1, 0⟩ else ⟨p.line, p.column + 1⟩

/-- The place after a whole character. -/
def Position.after (p : Position) (c : Char) : Position :=
  if c == '\n' then ⟨p.line + 1, 0⟩ else ⟨p.line, p.column + c.utf8Size⟩

/-- The place one byte on, or the end. -/
def Input.peekPlace (input : Input) : Position :=
  match input.rest with
  | [] => input.place
  | c :: _ => input.place.afterByte c

/-- The place a number of bytes on, possibly inside a character. -/
def Input.placeAfterBytes : Nat → List Char → Position → Position
  | 0, _, p => p
  | _, [], p => p
  | n + 1, c :: rest, p =>
    if c.utf8Size ≤ n + 1 then placeAfterBytes (n + 1 - c.utf8Size) rest (p.after c)
    else ⟨p.line, p.column + (n + 1)⟩
termination_by n => n
decreasing_by
  have := Char.utf8Size_pos c
  omega

def Input.faultHere (input : Input) (cause : Cause) : Fault := ⟨cause, some input.place⟩

def Input.faultAhead (input : Input) (cause : Cause) : Fault := ⟨cause, some input.peekPlace⟩

/-- Blanks between tokens. -/
def isSpace (c : Char) : Bool := c == ' ' || c == '\n' || c == '\t' || c == '\r'

def skipFrom : List Char → Position → Input
  | [], p => ⟨[], p⟩
  | c :: rest, p => if isSpace c then skipFrom rest (p.after c) else ⟨c :: rest, p⟩

def Input.skipSpace (input : Input) : Input := skipFrom input.rest input.place

/-- Reads the letters of a word after its first. -/
def readWord : List Char → Input → Except Fault Input
  | [], input => .ok input
  | c :: more, input =>
    match input.rest with
    | [] => .error (input.faultHere .endInValue)
    | d :: rest =>
      if d == c then readWord more ⟨rest, input.place.after d⟩
      else .error ⟨.wordExpected, some (input.place.afterByte d)⟩

def hexValue? (c : Char) : Option Nat :=
  if c.isDigit then some (c.toNat - '0'.toNat)
  else if 'a' ≤ c ∧ c ≤ 'f' then some (c.toNat - 'a'.toNat + 10)
  else if 'A' ≤ c ∧ c ≤ 'F' then some (c.toNat - 'A'.toNat + 10)
  else none

/-- Four hexadecimal digits. -/
def readHex4 (input : Input) : Except Fault (Nat × Input) :=
  let ended : Position := Input.placeAfterBytes 4 input.rest input.place
  if Text.byteLength input.rest < 4 then
    .error ⟨.endInString, some (input.rest.foldl Position.after input.place)⟩
  else
    match input.rest with
    | a :: b :: c :: d :: rest =>
      match hexValue? a, hexValue? b, hexValue? c, hexValue? d with
      | some a, some b, some c, some d => .ok (((a * 16 + b) * 16 + c) * 16 + d, ⟨rest, ended⟩)
      | _, _, _, _ => .error ⟨.invalidEscape, some ended⟩
    | _ => .error ⟨.invalidEscape, some ended⟩

/-- The second half of a pair of surrogates: one given character must follow. -/
def readPairMark (c : Char) (input : Input) : Except Fault Input :=
  match input.rest with
  | [] => .error (input.faultHere .endInString)
  | d :: rest =>
    if d == c then .ok ⟨rest, input.place.after d⟩
    else .error ⟨.endOfHexEscape, some (input.place.afterByte d)⟩

/-- A character given by its number, or by a pair of surrogates. -/
def readUnicode (input : Input) : Except Fault (Char × Input) := do
  let (n, next) ← readHex4 input
  if 0xDC00 ≤ n ∧ n ≤ 0xDFFF then .error (next.faultHere .loneSurrogate)
  else if n < 0xD800 ∨ 0xDBFF < n then .ok (Char.ofNat n, next)
  else
    let next ← readPairMark '\\' next
    let next ← readPairMark 'u' next
    let (low, next) ← readHex4 next
    if low < 0xDC00 ∨ 0xDFFF < low then .error (next.faultHere .loneSurrogate)
    else .ok (Char.ofNat ((n - 0xD800) * 1024 + (low - 0xDC00) + 0x10000), next)

/-- The character that a letter after a backslash stands for. -/
def escaped? (c : Char) : Option Char :=
  if c == '\x22' || c == '\\' || c == '/' then some c
  else if c == 'b' then some '\x08'
  else if c == 'f' then some '\x0c'
  else if c == 'n' then some '\n'
  else if c == 'r' then some '\r'
  else if c == 't' then some '\t'
  else none

/-- An escape after its backslash. -/
def readEscape (input : Input) : Except Fault (Char × Input) :=
  match input.rest with
  | [] => .error (input.faultHere .endInString)
  | c :: rest =>
    match escaped? c with
    | some d => .ok (d, ⟨rest, input.place.after c⟩)
    | none =>
      if c == 'u' then readUnicode ⟨rest, input.place.after c⟩
      else .error ⟨.invalidEscape, some (input.place.afterByte c)⟩

/-- A string after its opening quote; `fuel` bounds the characters, `done` holds them reversed. -/
def readString : Nat → List Char → Input → Except Fault (String × Input)
  | 0, _, input => .error (input.faultHere .endInString)
  | fuel + 1, done, input =>
    match input.rest with
    | [] => .error (input.faultHere .endInString)
    | c :: rest =>
      let next : Input := ⟨rest, input.place.after c⟩
      if c == '\x22' then .ok (String.ofList done.reverse, next)
      else if c == '\\' then
        match readEscape next with
        | .ok (d, next) => readString fuel (d :: done) next
        | .error fault => .error fault
      else if c.toNat < 32 then .error (next.faultHere .controlCharacter)
      else readString fuel (c :: done) next

/-- The characters of a number that were taken in, and the place after them. -/
def Input.dropChars (n : Nat) (input : Input) : Input :=
  ⟨input.rest.drop n, (input.rest.take n).foldl Position.after input.place⟩

/-- A number of which the sign and all characters have been found. -/
structure Numeral where
  negative : Bool
  whole : List Char
  /-- Digits after a point, if there is one. -/
  fraction : Option (List Char)
  /-- A power of ten, if there is one. -/
  power : Option Int

/-- Accumulates digits while the value stays below 2^64; gives also the digits left over. -/
def takeSignificand : Nat → List Char → Nat × List Char
  | n, [] => (n, [])
  | n, d :: ds =>
    let next := n * 10 + (d.toNat - '0'.toNat)
    if Text.natBound64 ≤ next then (n, d :: ds) else takeSignificand next ds

/-- A significand scaled by a power of ten, one rounding at a time: the conversion to binary, the
table of powers up to 10^308 and the product or quotient. None stands for overflow. -/
def scaleSignificand (significand : Nat) (power : Int) : Option Binary64 :=
  let shrink := fun (x : Binary64) (n : Nat) => x.divFinite (Decimal.toBinary64 false 1 n)
  let start := Binary64.ofNat significand
  if 308 < power then (if significand = 0 then some start else none)
  else if 0 ≤ power then
    let x := start.mulFinite (Decimal.toBinary64 false 1 power)
    if x.isInfinite then none else some x
  else
    let n := (-power).toNat
    if n ≤ 308 then some (shrink start n)
    else if n ≤ 616 then some (shrink (shrink start 308) (n - 308))
    else if n ≤ 924 then some (shrink (shrink (shrink start 308) 308) (n - 616))
    else some Binary64.zero

/-- The value of a numeral: an integer where it fits, else a floating point number. -/
def Numeral.value? (n : Numeral) : Option Json :=
  let (significand, extra) := takeSignificand 0 n.whole
  match n.fraction, n.power, extra with
  | none, none, [] =>
    if n.negative then
      if significand = 0 ∨ 9223372036854775808 < significand then
        some (.float (Binary64.ofNat significand).neg)
      else some (.int (-significand))
    else some (.int significand)
  | fraction, power, _ =>
    let digits := fraction.getD []
    let (significand, unused) :=
      if extra = [] then takeSignificand significand digits
      else
        match takeSignificand significand digits with
        | (s, rest) => (s, rest)
    let used : Int := digits.length - unused.length
    let total : Int := extra.length - used + power.getD 0
    (scaleSignificand significand total).map (fun x =>
      .float (if n.negative then x.neg else x))

/-- The part of a number from its exponent mark on. -/
def readExponent (input : Input) : Except Fault (Int × Input) :=
  let (negative, signLength) := match input.rest with
    | '-' :: _ => (true, 1)
    | '+' :: _ => (false, 1)
    | _ => (false, 0)
  let afterSign := input.dropChars signLength
  match afterSign.rest with
  | [] => .error (afterSign.faultHere .endInValue)
  | c :: _ =>
    let digits := afterSign.rest.takeWhile Char.isDigit
    if digits = [] then .error ⟨.invalidNumber, some (afterSign.place.afterByte c)⟩
    else
      let n : Int := Text.digitsValue digits
      .ok (if negative then -n else n, afterSign.dropChars digits.length)

/-- The part of a number from its point on, if there is one. -/
def readFraction (input : Input) : Except Fault (Option (List Char) × Input) :=
  match input.rest with
  | '.' :: _ =>
    let afterPoint := input.dropChars 1
    let digits := afterPoint.rest.takeWhile Char.isDigit
    match digits, afterPoint.rest with
    | [], [] => .error (afterPoint.faultAhead .endInValue)
    | [], _ => .error (afterPoint.faultAhead .invalidNumber)
    | _, _ => .ok (some digits, afterPoint.dropChars digits.length)
  | _ => .ok (none, input)

/-- A number after its sign. -/
def readNumeral (negative : Bool) (input : Input) : Except Fault (Numeral × Input) :=
  match input.rest with
  | [] => .error (input.faultHere .endInValue)
  | c :: more =>
    if !c.isDigit then .error ⟨.invalidNumber, some (input.place.afterByte c)⟩
    else if c == '0' && (more.head?.map Char.isDigit).getD false then
      .error ((input.dropChars 1).faultAhead .invalidNumber)
    else do
      let whole := input.rest.takeWhile Char.isDigit
      let (fraction, next) ← readFraction (input.dropChars whole.length)
      let marked := match next.rest with
        | m :: _ => m == 'e' || m == 'E'
        | [] => false
      if marked then
        let (power, next) ← readExponent (next.dropChars 1)
        .ok (⟨negative, whole, fraction, some power⟩, next)
      else .ok (⟨negative, whole, fraction, none⟩, next)

/-- A string and the rest, from its opening quote on. -/
def quotedString (fuel : Nat) (input : Input) : Except Fault (String × Input) :=
  readString fuel [] (input.dropChars 1)

end ThreatHunt.Json
