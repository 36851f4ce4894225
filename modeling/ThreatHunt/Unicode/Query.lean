import ThreatHunt.Unicode.Age
import ThreatHunt.Unicode.Break

/-!
Asking for characters by the name of a property, or by a property and one of its values. Names are
compared loosely: the case of letters, blanks, hyphens, underscores and a leading `is` make no
difference.
-/

namespace ThreatHunt.Unicode

/-- The ASCII characters of a name that count. -/
def looseChars (cs : List Char) : List Char :=
  (cs.filter (fun c => c.toNat < 128 && c != ' ' && c != '_' && c != '-')).map Char.toLower

/-- A name without what makes no difference. Only `isc` keeps its first letters, since it is a name
of its own. -/
def loose (name : String) : List Char :=
  match name.toList with
  | i :: s :: rest =>
    if i.toLower == 'i' && s.toLower == 's' then
      match looseChars rest with
      | ['c'] => ['i', 's', 'c']
      | cs => cs
    else looseChars (i :: s :: rest)
  | cs => looseChars cs

/-- The entry that has a name among its names. -/
def named? {α : Type} (entries : List (List String × α)) (name : List Char) : Option α :=
  (entries.find? (fun e => e.1.any (fun n => loose n == name))).map Prod.snd

/-- A property that characters have or lack. -/
def property? (name : List Char) : Option CharSet :=
  match named? propertyTables name with
  | some table => some (CharSet.ofTable table)
  | none => named? madeProperties name

/-- A general category, a group of them, or a set that is named like one. -/
def category? (name : List Char) : Option CharSet :=
  match String.ofList name with
  | "any" => some CharSet.any
  | "assigned" => some (GeneralCategory.chars .unassigned).complement
  | "ascii" => some CharSet.ascii
  | _ => (named? GeneralCategory.named name).map GeneralCategory.charsOf

def script? (name : List Char) : Option Script :=
  named? (Script.all.map (fun s => (s.names, s))) name

/-- The characters that a name alone stands for: those of a property that a character has or lacks,
of a general category, or of a script. -/
def byName? (name : String) : Option CharSet :=
  let name := loose name
  (property? name).or ((category? name).or ((script? name).map Script.chars))

/-- The characters assigned up to a version. -/
def age? (version : List Char) : Option CharSet :=
  (ages.findIdx? (fun e => e.1.any (fun n => loose n == version))).map
    (fun i => assignedIn (i + 1))

/-- The properties that have more than two values. -/
def valuedProperties : List (List String × (List Char → Option CharSet)) :=
  [(["General_Category", "gc"], category?),
   (["Script", "sc"], fun name => (script? name).map Script.chars),
   (["Script_Extensions", "scx"], fun name => (script? name).map Script.extended),
   (["Age"], age?),
   (["Grapheme_Cluster_Break", "GCB"], named? graphemeClasses),
   (["Word_Break", "WB"], named? wordClasses),
   (["Sentence_Break", "SB"], named? sentenceClasses)]

/-- The characters for which a property has a value. -/
def byValue? (property value : String) : Option CharSet :=
  match named? valuedProperties (loose property) with
  | some find => find (loose value)
  | none => none

end ThreatHunt.Unicode
