import ThreatHunt.Json.Passing

/-!
Reading JSON. A text is read into a tree whose nodes know their places. A text that breaks off or
goes wrong yields the tree up to that place with a `broken` node in it, so that a reader of typed
documents meets its own faults and those of the text in the order of the text. A fault comes with
the one that a reader meets who needs nothing of the value.
-/

namespace ThreatHunt.Json

/-- How a container ends: with the place after it, or with the fault of those who read it and of
those who pass over it. -/
inductive Ending where
  | closed (stop : Option Position)
  | broken (fault passed : Fault)
  deriving DecidableEq, Repr

instance : Inhabited Ending := ⟨.closed none⟩

/-- What stands at the place of a field's name. -/
inductive Key where
  /-- A name, the place after it, and that of what follows or, of a closing brace, the place after
  the brace. -/
  | name (name : String) (stop next : Option Position)
  /-- A name that can only be passed over. -/
  | unreadable (fault : Fault)
  | missing (fault passed : Fault)
  deriving DecidableEq, Repr

instance : Inhabited Key := ⟨.name "" none none⟩

/-- A value with its places. -/
inductive Node where
  /-- A scalar, its first byte and the byte after it. -/
  | leaf (value : Json) (start stop : Option Position)
  /-- A value that can only be passed over. -/
  | unreadable (fault : Fault) (start : Option Position)
  /-- A value that is no JSON. -/
  | broken (fault passed : Fault) (start : Option Position)
  | array (items : List Node) (start : Option Position) (ending : Ending)
  /-- Fields with the place of what follows each; where a name is missing, the value is what stands
  in its place. -/
  | object (fields : List (Key × Node × Option Position)) (start : Option Position)
      (ending : Ending)
  deriving Repr, Inhabited

/-- A value with a fault for its readers, and what follows it if it can be passed over. -/
def faultyNode (fault : Fault) (start : Input) : Node × Option Input :=
  match passValue start with
  | .ok next => (.unreadable fault (some start.place), some next)
  | .error passed => (.broken fault passed (some start.place), none)

/-- A text that has no value where one must be. -/
def missingNode (fault : Fault) : Node × Option Input := (.broken fault fault none, none)

def leafNode (start : Input) (found : Except Fault (Json × Input)) : Node × Option Input :=
  match found with
  | .ok (value, next) => (.leaf value (some start.place) (some next.place), some next)
  | .error fault => faultyNode fault start

def readConstant (value : Json) (letters : List Char) (input : Input) :
    Except Fault (Json × Input) := do
  return (value, ← readWord letters (input.dropChars 1))

def readNumber (negative : Bool) (input : Input) : Except Fault (Json × Input) := do
  let (numeral, next) ← readNumeral negative input
  match numeral.value? with
  | some value => .ok (value, next)
  | none => .error (next.faultHere .numberOutOfRange)

def readText (fuel : Nat) (input : Input) : Except Fault (Json × Input) := do
  let (s, next) ← quotedString fuel input
  return (.str s, next)

/-- A value that is no container. `fuel` bounds the characters of a string. -/
def readScalar (fuel : Nat) (c : Char) (input : Input) : Except Fault (Json × Input) :=
  if c == 'n' then readConstant .null ['u', 'l', 'l'] input
  else if c == 't' then readConstant (.bool true) ['r', 'u', 'e'] input
  else if c == 'f' then readConstant (.bool false) ['a', 'l', 's', 'e'] input
  else if c == '-' then readNumber true (input.dropChars 1)
  else if c.isDigit then readNumber false input
  else if c == '\x22' then readText fuel input
  else .error (input.faultAhead .valueExpected)

/-- The place of the next token, or the place after a closing brace. -/
def Input.settledPlace (input : Input) : Position :=
  let input := input.skipSpace
  match input.rest with
  | '\x7d' :: _ => (input.dropChars 1).place
  | _ => input.place

/-- A name: its key, and what follows it if it can be passed over. -/
def readKey (fuel : Nat) (input : Input) : Key × Option Input :=
  match quotedString fuel input with
  | .ok (name, next) => (.name name (some next.place) (some next.settledPlace), some next)
  | .error fault =>
    match passQuoted fuel input with
    | .ok next => (.unreadable fault, some next)
    | .error passed => (.missing fault passed, none)

/-- Containers nest less deep than this. -/
def depthLimit : Nat := 128

mutual

/-- A value. `fuel` bounds the length of the text, `depth` the nesting that is still allowed. -/
def readNode : Nat → Nat → Input → Node × Option Input
  | 0, _, input => missingNode (input.faultHere .endInValue)
  | fuel + 1, depth, input =>
    let input := input.skipSpace
    match input.rest with
    | [] => missingNode (input.faultAhead .endInValue)
    | c :: _ =>
      if c == '[' || c == '\x7b' then
        if depth ≤ 1 then faultyNode (input.faultAhead .tooDeep) input
        else if c == '[' then
          let (items, ending, next) := readItems fuel (depth - 1) true (input.dropChars 1)
          (.array items (some input.place) ending, next)
        else
          let (fields, ending, next) := readFields fuel (depth - 1) true (input.dropChars 1)
          (.object fields (some input.place) ending, next)
      else leafNode input (readScalar fuel c input)

/-- The items of a list up to its closing bracket. -/
def readItems : Nat → Nat → Bool → Input → List Node × Ending × Option Input
  | 0, _, _, input =>
    let fault := input.faultHere .endInList
    ([], .broken fault fault, none)
  | fuel + 1, depth, first, input =>
    let input := input.skipSpace
    let stop := fun (fault passed : Fault) => ([], Ending.broken fault passed, none)
    let item := fun (input : Input) =>
      match readNode fuel depth input with
      | (node, none) =>
        let fault := input.faultHere .endInList
        ([node], .broken fault fault, none)
      | (node, some next) =>
        let (more, rest) := readItems fuel depth false next
        (node :: more, rest)
    match input.rest with
    | [] => stop (input.faultAhead .endInList) (input.faultAhead .endInList)
    | c :: _ =>
      if c == ']' then
        let next := input.dropChars 1
        ([], .closed (some next.place), some next)
      else if first then item input
      else if c == ',' then
        let input := (input.dropChars 1).skipSpace
        match input.rest with
        | [] => stop (input.faultAhead .endInValue) (input.faultAhead .endInValue)
        | d :: _ =>
          if d == ']' then stop (input.faultAhead .trailingComma) (input.faultAhead .valueExpected)
          else item input
      else stop (input.faultAhead .listCommaExpected) (input.faultAhead .listCommaExpected)

/-- The fields of an object up to its closing brace. -/
def readFields : Nat → Nat → Bool → Input →
    List (Key × Node × Option Position) × Ending × Option Input
  | 0, _, _, input =>
    let fault := input.faultHere .endInObject
    ([], .broken fault fault, none)
  | fuel + 1, depth, first, input =>
    let input := input.skipSpace
    let stop := fun (fault passed : Fault) => ([], Ending.broken fault passed, none)
    let last := fun (key : Key) (node : Node) (fault : Fault) =>
      ([(key, node, none)], Ending.broken fault fault, none)
    let absent := fun (fault passed : Fault) (input : Input) =>
      last (.missing fault passed) (readNode fuel depth input).1 fault
    let value := fun (key : Key) (input : Input) =>
      match readNode fuel depth input with
      | (node, none) => last key node (input.faultHere .endInObject)
      | (node, some next) =>
        let (more, rest) := readFields fuel depth false next
        ((key, node, some next.skipSpace.place) :: more, rest)
    let field := fun (input : Input) =>
      match readKey fuel input with
      | (key, none) => last key (readNode fuel depth input).1 (input.faultHere .endInObject)
      | (key, some next) =>
        let next := next.skipSpace
        let unmarked := fun (fault : Fault) => last key (.broken fault fault none) fault
        match next.rest with
        | [] => unmarked (next.faultAhead .endInObject)
        | c :: _ =>
          if c == ':' then value key (next.dropChars 1)
          else unmarked (next.faultAhead .colonExpected)
    match input.rest with
    | [] => absent (input.faultAhead .endInObject) (input.faultAhead .endInObject) input
    | c :: _ =>
      if c == '\x7d' then
        let next := input.dropChars 1
        ([], .closed (some next.place), some next)
      else if first then
        if c == '\x22' then field input
        else absent (input.faultAhead .keyExpected) (input.faultAhead .keyExpected) input
      else if c == ',' then
        let input := (input.dropChars 1).skipSpace
        match input.rest with
        | [] => absent (input.faultAhead .endInValue) (input.faultAhead .endInObject) input
        | d :: _ =>
          if d == '\x22' then field input
          else if d == '\x7d' then
            absent (input.faultAhead .trailingComma) (input.faultAhead .keyExpected) input
          else absent (input.faultAhead .keyExpected) (input.faultAhead .keyExpected) input
      else stop (input.faultAhead .objectCommaExpected) (input.faultAhead .objectCommaExpected)

end

/-- A text as a tree, and what follows the value if the value is whole. -/
def Node.ofText (s : String) : Node × Option Input :=
  let cs := s.toList
  readNode (2 * cs.length + 4) depthLimit ⟨cs, ⟨1, 0⟩⟩

/-- Nothing but blanks may follow a document. -/
def endOfText : Option Input → Except Fault Unit
  | none => .ok ()
  | some input =>
    let input := input.skipSpace
    if input.rest = [] then .ok () else .error (input.faultAhead .trailingCharacters)

/-- The place after a container, or its fault. -/
def Ending.stop : Ending → Except Fault (Option Position)
  | .closed stop => .ok stop
  | .broken fault _ => .error fault

/-- Passing over the end of a container. -/
def Ending.pass : Ending → Except Fault Unit
  | .closed _ => .ok ()
  | .broken _ passed => .error passed

/-- The name of a field, or its fault. -/
def Key.text : Key → Except Fault String
  | .name s _ _ => .ok s
  | .unreadable fault => .error fault
  | .missing fault _ => .error fault

/-- Passing over the name of a field. -/
def Key.pass : Key → Except Fault Unit
  | .missing _ passed => .error passed
  | _ => .ok ()

mutual

/-- The value of a tree, or its first fault. -/
def Node.value : Node → Except Fault Json
  | .leaf value _ _ => .ok value
  | .unreadable fault _ => .error fault
  | .broken fault _ _ => .error fault
  | .array items _ ending => do
    let values ← Node.values items
    let _ ← ending.stop
    .ok (.arr values)
  | .object fields _ ending => do
    let values ← Node.fieldValues fields
    let _ ← ending.stop
    .ok (.obj (sortFields values))

def Node.values : List Node → Except Fault (List Json)
  | [] => .ok []
  | node :: rest => do
    let value ← Node.value node
    let more ← Node.values rest
    .ok (value :: more)

def Node.fieldValues :
    List (Key × Node × Option Position) → Except Fault (List (String × Json))
  | [] => .ok []
  | (key, node, _) :: rest => do
    let name ← key.text
    let value ← Node.value node
    let more ← Node.fieldValues rest
    .ok ((name, value) :: more)

end

mutual

/-- A value as a tree without places. -/
def Node.ofJson : Json → Node
  | .arr items => .array (Node.ofItems items) none (.closed none)
  | .obj fields => .object (Node.ofFields fields) none (.closed none)
  | value => .leaf value none none

def Node.ofItems : List Json → List Node
  | [] => []
  | item :: rest => Node.ofJson item :: Node.ofItems rest

def Node.ofFields : List (String × Json) → List (Key × Node × Option Position)
  | [] => []
  | (name, value) :: rest => (.name name none none, Node.ofJson value, none) :: Node.ofFields rest

end

/-- Reads a document: one value with blanks around it. -/
def read (s : String) : Except Fault Json := do
  let (node, rest) := Node.ofText s
  let value ← node.value
  endOfText rest
  .ok value

end ThreatHunt.Json
