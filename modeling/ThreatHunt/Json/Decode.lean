import ThreatHunt.Json.Reader
import ThreatHunt.Time.Reading
import ThreatHunt.Dict

/-!
Typed documents. A decoder takes the tree of a JSON value to a value of a type, or to the first
fault in the order of the text.
-/

namespace ThreatHunt.Json

/-- A reader of trees. -/
def Decoder (α : Type) : Type := Node → Except Fault α

namespace Node

/-- The fault of a value that is not what was expected. -/
def mismatch (expected : String) : Node → Fault
  | .leaf value _ stop => ⟨.wrongType (describe value) expected, stop⟩
  | .unreadable fault _ => fault
  | .broken fault _ _ => fault
  | .array _ start _ => ⟨.wrongType "sequence" expected, start⟩
  | .object _ start _ => ⟨.wrongType "map" expected, start⟩

mutual

/-- Passes over a value: only a text that is no JSON is a fault. -/
def ignore : Node → Except Fault Unit
  | .leaf .. => .ok ()
  | .unreadable .. => .ok ()
  | .broken _ passed _ => .error passed
  | .array items _ ending => do
    ignoreItems items
    ending.pass
  | .object fields _ ending => do
    ignoreFields fields
    ending.pass

def ignoreItems : List Node → Except Fault Unit
  | [] => .ok ()
  | item :: rest => do
    ignore item
    ignoreItems rest

def ignoreFields : List (Key × Node × Option Position) → Except Fault Unit
  | [] => .ok ()
  | (key, node, _) :: rest => do
    key.pass
    ignore node
    ignoreFields rest

end

end Node

namespace Decoder

variable {α β : Type}

/-- A text; `expected` names it in faults. -/
def text (expected : String) : Decoder String := fun node =>
  match node with
  | .leaf (.str s) _ _ => .ok s
  | node => .error (node.mismatch expected)

def str : Decoder String := text "a string"

def bool : Decoder Bool := fun node =>
  match node with
  | .leaf (.bool b) _ _ => .ok b
  | node => .error (node.mismatch "a boolean")

/-- A natural number of 64 bits. -/
def nat (expected : String) : Decoder Nat := fun node =>
  match node with
  | .leaf (.int i) _ stop =>
    if i < 0 then .error ⟨.wrongValue (describe (.int i)) expected, stop⟩ else .ok i.toNat
  | node => .error (node.mismatch expected)

/-- Any JSON value. -/
def any : Decoder Json := Node.value

def list (item : Decoder α) : Decoder (List α) := fun node =>
  match node with
  | .array items _ ending => do
    let values ← items.mapM item
    let _ ← ending.stop
    return values
  | node => .error (node.mismatch "a sequence")

/-- Values under names; the last value of a name counts. -/
def dict (value : Decoder α) : Decoder (Dict α) := fun node =>
  match node with
  | .object fields _ ending => do
    let entries ← fields.mapM (fun f => do
      let name ← f.1.text
      let v ← value f.2.1
      return (name, v))
    let _ ← ending.stop
    return Dict.ofList entries
  | node => .error (node.mismatch "a map")

/-- A value, or null for none. -/
def option (value : Decoder α) : Decoder (Option α) := fun node =>
  match node with
  | .leaf .null _ _ => .ok none
  | node => some <$> value node

def instant : Decoder Instant := fun node =>
  match node with
  | .leaf (.str s) _ stop =>
    match Instant.readRelaxed s with
    | .ok t => .ok t
    | .error fault => .error ⟨.custom fault.message, stop⟩
  | node => .error (node.mismatch "an RFC 3339 formatted date and time string")

/-- The place one byte on, as faults about what stands at a place give it. -/
def ahead (p : Option Position) : Option Position := p.map (fun p => ⟨p.line, p.column + 1⟩)

/-- The alternative that a text names. -/
def variantOf (known : List (String × α)) (name : String) (stop : Option Position) :
    Except Fault α :=
  match known.find? (fun v => v.1 == name) with
  | some v => .ok v.2
  | none => .error ⟨.unknownVariant name (known.map Prod.fst), stop⟩

/-- The alternative of an object's field: null under a name. -/
def variantField (known : List (String × α)) (name : String) (place : Option Position)
    (value : Node) : Except Fault α := do
  let found ← variantOf known name place
  match value with
  | .leaf .null _ _ => return found
  | value => .error (value.mismatch "unit")

/-- What may follow the only field that an alternative has: `next` is the place of what does. -/
def afterVariant (rest : List (Key × Node × Option Position)) (ending : Ending)
    (next : Option Position) : Except Fault Unit :=
  match rest, ending with
  | [], .closed _ => .ok ()
  | (.missing ⟨.endInObject, p⟩ _, _) :: _, _ => .error ⟨.endInObject, p⟩
  | _, _ => .error ⟨.valueExpected, next⟩

/-- One of some named alternatives: its name, or an object with a null under its name. -/
def variant (known : List (String × α)) : Decoder α := fun node =>
  let refuse := fun (start : Option Position) =>
    match start with
    | none => Except.error (node.mismatch "string or map")
    | some p => .error ⟨.valueExpected, ahead (some p)⟩
  match node with
  | .leaf (.str s) _ stop => variantOf known s stop
  | .leaf _ start _ => refuse start
  | .unreadable fault start => if fault.cause.isOfString then .error fault else refuse start
  | .broken fault _ start => if fault.cause.isOfString then .error fault else refuse start
  | .array _ start _ => refuse start
  | .object [] none _ => .error ⟨.wrongValue "map" "map with a single key", none⟩
  | .object (_ :: _ :: _) none _ => .error ⟨.wrongValue "map" "map with a single key", none⟩
  | .object [] _ ending => do .error ⟨.valueExpected, ← ending.stop⟩
  | .object ((.name name stop _, value, next) :: rest) _ ending => do
    let found ← variantField known name stop value
    afterVariant rest ending next
    return found
  | .object ((.unreadable fault, _) :: _) _ _ => .error fault
  | .object ((.missing .., inPlace, _) :: _) _ _ => .error (inPlace.mismatch "variant identifier")

/-! Records. A record under construction is a value of a type `β` that knows which fields are
there. -/

/-- A field: its name, whether it may be missing, and how it is put into the record. -/
structure Field (β : Type) where
  name : String
  optional : Bool
  put : Node → β → Except Fault β

/-- The fields of an object in the order of the text. -/
def objectFields (fields : List (Field β)) (seen : List String) (start : β) :
    List (Key × Node × Option Position) → Except Fault (β × List String)
  | [] => .ok (start, seen)
  | (.name name _ next, node, _) :: rest =>
    match fields.find? (fun f => f.name == name) with
    | none => do
      node.ignore
      objectFields fields seen start rest
    | some field =>
      if seen.contains name then .error ⟨.duplicateField name, next⟩
      else do
        let found ← field.put node start
        objectFields fields (name :: seen) found rest
  | (.unreadable fault, _) :: _ => .error fault
  | (.missing fault _, _) :: _ => .error fault

/-- Items in the places of fields. -/
def arrayFields : List (Field β) → β → List Node → Except Fault (β × List (Field β) × List Node)
  | [], start, items => .ok (start, [], items)
  | fields, start, [] => .ok (start, fields, [])
  | field :: fields, start, item :: items => do
    let next ← field.put item start
    arrayFields fields next items

/-- The place that faults about an item too many give. -/
def startOf : Node → Option Position
  | .leaf _ start _ => ahead start
  | .array _ start _ => ahead start
  | .object _ start _ => ahead start
  | .unreadable _ start => ahead start
  | .broken fault _ start => (ahead start).or fault.position

/-- The end of an array that holds all that is needed. -/
def endOfItems : Ending → Except Fault Unit
  | .closed _ => .ok ()
  | .broken fault _ =>
    match fault.cause with
    | .endInList | .trailingComma => .error fault
    | _ => .error ⟨.trailingCharacters, fault.position⟩

def elements (n : Nat) : String := Nat.repr n ++ (if n = 1 then " element" else " elements")

/-- A record: an object with its fields, or an array of their values in order. Fields that the
record does not have are passed over. -/
def record (name : String) (fields : List (Field β)) (start : β) : Decoder β := fun node =>
  match node with
  | .object given _ ending => do
    let (found, seen) ← objectFields fields [] start given
    let stop ← ending.stop
    match fields.find? (fun f => !f.optional && !seen.contains f.name) with
    | some field => .error ⟨.missingField field.name, stop⟩
    | none => return found
  | .array items _ ending => do
    let (found, missing, extra) ← arrayFields fields start items
    match extra, missing with
    | item :: _, _ =>
      match startOf item with
      | some p => .error ⟨.trailingCharacters, some p⟩
      | none => .error ⟨.wrongLength items.length "fewer elements in array", none⟩
    | [], [] => do
      endOfItems ending
      return found
    | [], missing => do
      let stop ← ending.stop
      match missing.findIdx? (fun f => !f.optional) with
      | some i =>
        .error ⟨.wrongLength (fields.length - missing.length + i)
          ("struct " ++ name ++ " with " ++ elements fields.length), stop⟩
      | none => return found
  | node => .error (node.mismatch ("struct " ++ name))

/-- A field of a record. -/
def field {γ : Type} (name : String) (value : Decoder γ) (set : γ → β → β) : Field β :=
  ⟨name, false, fun node start => (value node).map (fun v => set v start)⟩

/-- A field that may be missing. -/
def fieldOr {γ : Type} (name : String) (value : Decoder γ) (set : γ → β → β) : Field β :=
  { field name value set with optional := true }

/-- Decodes a text that holds nothing else. -/
def decodeText (decoder : Decoder α) (s : String) : Except Fault α := do
  let (node, rest) := Node.ofText s
  let value ← decoder node
  endOfText rest
  return value

/-- Decodes a value. -/
def decodeJson (decoder : Decoder α) (j : Json) : Except Fault α := decoder (Node.ofJson j)

end Decoder
end ThreatHunt.Json
