import ThreatHunt.Json.Token

/-!
Passing over a value of which nothing is needed. Containers may nest without limit, strings may hold
half a pair of surrogates, and numbers may be out of range; only their spelling is looked at.
-/

namespace ThreatHunt.Json

/-- An escape after its backslash. -/
def passEscape (input : Input) : Except Fault Input :=
  match input.rest with
  | [] => .error (input.faultHere .endInString)
  | c :: rest =>
    let next : Input := ⟨rest, input.place.after c⟩
    if (escaped? c).isSome then .ok next
    else if c == 'u' then Prod.snd <$> readHex4 next
    else .error ⟨.invalidEscape, some (input.place.afterByte c)⟩

/-- A string after its opening quote; `fuel` bounds the characters. -/
def passString : Nat → Input → Except Fault Input
  | 0, input => .error (input.faultHere .endInString)
  | fuel + 1, input =>
    match input.rest with
    | [] => .error (input.faultHere .endInString)
    | c :: rest =>
      let next : Input := ⟨rest, input.place.after c⟩
      if c == '\x22' then .ok next
      else if c == '\\' then
        match passEscape next with
        | .ok next => passString fuel next
        | .error fault => .error fault
      else if c.toNat < 32 then .error (input.faultHere .controlCharacter)
      else passString fuel next

/-- A string from its opening quote on. -/
def passQuoted (fuel : Nat) (input : Input) : Except Fault Input :=
  passString fuel (input.dropChars 1)

/-- A number after its sign. That the text ends in it is no fault of its own. -/
def passNumber (input : Input) : Except Fault Input :=
  match readNumeral false input with
  | .ok (_, next) => .ok next
  | .error ⟨.endInValue, place⟩ => .error ⟨.invalidNumber, place⟩
  | .error fault => .error fault

/-- A container around a value. -/
inductive Frame where
  | list
  | object
  deriving DecidableEq, Repr, Inhabited

namespace Frame

def ending : Frame → Char
  | .list => ']'
  | .object => '\x7d'

/-- The fault of a text that ends in a container. -/
def endCause : Frame → Cause
  | .list => .endInList
  | .object => .endInObject

def commaCause : Frame → Cause
  | .list => .listCommaExpected
  | .object => .objectCommaExpected

end Frame

/-- What may stand at a place. -/
inductive Stage where
  | value
  /-- A name with its colon, in an object. -/
  | name
  /-- An item or the end of a container. -/
  | first
  /-- A comma or the end of a container. -/
  | next
  deriving DecidableEq, Repr, Inhabited

/-- What an item of a container starts with. -/
def Frame.item : Frame → Stage
  | .list => .value
  | .object => .name

/-- A value that is no container. -/
def passScalar (fuel : Nat) (c : Char) (input : Input) : Except Fault Input :=
  if c == 'n' then readWord ['u', 'l', 'l'] (input.dropChars 1)
  else if c == 't' then readWord ['r', 'u', 'e'] (input.dropChars 1)
  else if c == 'f' then readWord ['a', 'l', 's', 'e'] (input.dropChars 1)
  else if c == '-' then passNumber (input.dropChars 1)
  else if c.isDigit then passNumber input
  else if c == '\x22' then passQuoted fuel input
  else .error (input.faultAhead .valueExpected)

/-- A name and its colon. -/
def passName (fuel : Nat) (input : Input) : Except Fault Input :=
  match input.rest with
  | [] => .error (input.faultAhead .endInObject)
  | c :: _ =>
    if c != '\x22' then .error (input.faultAhead .keyExpected)
    else do
      let next := (← passQuoted fuel input).skipSpace
      match next.rest with
      | [] => .error (next.faultAhead .endInObject)
      | d :: _ =>
        if d == ':' then .ok (next.dropChars 1) else .error (next.faultAhead .colonExpected)

/-- Passes over what is left of a value inside the containers at hand, the innermost one first.
`fuel` bounds the steps, and the characters of each string. -/
def passFrom : Nat → Stage → List Frame → Input → Except Fault Input
  | 0, _, _, input => .error (input.faultHere .endInValue)
  | fuel + 1, stage, frames, input =>
    let spaced := input.skipSpace
    match stage, frames with
    | .value, frames =>
      match spaced.rest with
      | [] => .error (spaced.faultAhead .endInValue)
      | c :: _ =>
        if c == '[' then passFrom fuel .first (.list :: frames) (spaced.dropChars 1)
        else if c == '\x7b' then passFrom fuel .first (.object :: frames) (spaced.dropChars 1)
        else do passFrom fuel .next frames (← passScalar fuel c spaced)
    | .name, frames => do passFrom fuel .value frames (← passName fuel spaced)
    | _, [] => .ok input
    | stage, frame :: outer =>
      match spaced.rest with
      | [] => .error (spaced.faultAhead frame.endCause)
      | c :: _ =>
        if c == frame.ending then passFrom fuel .next outer (spaced.dropChars 1)
        else if stage = .first then passFrom fuel frame.item frames spaced
        else if c == ',' then passFrom fuel frame.item frames (spaced.dropChars 1)
        else .error (spaced.faultAhead frame.commaCause)

/-- Passes over a value. -/
def passValue (input : Input) : Except Fault Input :=
  passFrom (3 * input.rest.length + 3) .value [] input

end ThreatHunt.Json
