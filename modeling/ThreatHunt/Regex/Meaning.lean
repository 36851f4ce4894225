import ThreatHunt.Regex.Written
import ThreatHunt.Unicode.Folding
import ThreatHunt.Unicode.Query

/-!
The meaning of a written expression: the regular expression that it stands for under the switches
that are on. Without the `unicode` switch all sets are of ASCII characters, and what reaches beyond
them has no meaning.
-/

namespace ThreatHunt.Regex

/-- The switches that bear on where an expression matches. -/
structure Flags where
  anyCase : Bool
  lines : Bool
  dotAll : Bool
  unicode : Bool
  returns : Bool
  deriving DecidableEq, Repr, Inhabited

namespace Flags

/-- The switches at the start of an expression. -/
def plain : Flags := ⟨false, false, false, true, false⟩

def set (flags : Flags) (s : Switch) (value : Bool) : Flags :=
  match s with
  | .anyCase => { flags with anyCase := value }
  | .lines => { flags with lines := value }
  | .dotAll => { flags with dotAll := value }
  | .unicode => { flags with unicode := value }
  | .returns => { flags with returns := value }
  | .lazy | .spaced => flags

def setAll (flags : Flags) (settings : Settings) : Flags :=
  settings.foldl (fun flags s => flags.set s.1 s.2) flags

/-- A set with all cases of its characters. -/
def close (flags : Flags) (s : CharSet) : CharSet :=
  if !flags.anyCase then s
  else if flags.unicode then s.closeCase
  else s.closeCase.inter CharSet.ascii

/-- All characters but those of a set. -/
def negate? (flags : Flags) (negative : Bool) (s : CharSet) : Option CharSet :=
  if !negative then some s else if flags.unicode then some s.complement else none

/-- A set with all cases, or all characters but these. -/
def finish? (flags : Flags) (negative : Bool) (s : CharSet) : Option CharSet :=
  flags.negate? negative (flags.close s)

/-- A class with an escape of one letter. Its cases are not looked at. -/
def short? (flags : Flags) (negative : Bool) (kind : ShortClass) : Option CharSet :=
  flags.negate? negative (match kind, flags.unicode with
    | .digit, true => Unicode.digitChars
    | .space, true => Unicode.whiteSpace
    | .word, true => Unicode.wordChars
    | .digit, false => CharSet.range '0' '9'
    | .space, false => CharSet.ofTable ["9-D 20"]
    | .word, false => asciiWordChars)

/-- The characters with a property. -/
def property? (flags : Flags) (negative : Bool) (query : Query) : Option CharSet :=
  if !flags.unicode then none
  else
    (match query with
      | .name name => Unicode.byName? name
      | .value property value => Unicode.byValue? property value).bind (flags.finish? negative)

/-- The number of a character in brackets. -/
def letterNumber? (flags : Flags) (l : Letter) : Option Nat :=
  if flags.unicode || l.char.toNat < 128 then some l.char.toNat else none

/-- The set of members in brackets. -/
def members? (flags : Flags) : Members → Option CharSet
  | .nothing => some .empty
  | .letter l => (flags.letterNumber? l).map (fun n => ⟨[(n, n)]⟩)
  | .range first last => do some ⟨[(← flags.letterNumber? first, ← flags.letterNumber? last)]⟩
  | .ascii negative chars => flags.finish? negative chars
  | .short negative kind => flags.short? negative kind
  | .property negative query => flags.property? negative query
  | .bracket negative members => do flags.finish? negative (← flags.members? members)
  | .both first others => do some ((← flags.members? first).union (← flags.members? others))
  | .combined op left right => do
    let a := flags.close (← flags.members? left)
    let b := flags.close (← flags.members? right)
    some (match op with
      | .intersection => a.inter b
      | .difference => a.diff b
      | .symmetricDifference => a.symmDiff b)

/-- The set of a character outside brackets. -/
def letter? (flags : Flags) (l : Letter) : Option CharSet :=
  if flags.unicode || l.char.toNat < 128 then some (flags.close (.single l.char))
  else if l.asByte then none
  else some (.single l.char)

/-- What a dot stands for. -/
def dot? (flags : Flags) : Option CharSet :=
  if !flags.unicode then none
  else if flags.dotAll then some CharSet.any
  else if flags.returns then some (CharSet.ofTable ["A D"]).complement
  else some (CharSet.single '\n').complement

/-- The condition that an assertion stands for. -/
def look (flags : Flags) : Assertion → Look
  | .lineStart =>
    if !flags.lines then .textStart else if flags.returns then .returnStart else .lineStart
  | .lineEnd => if !flags.lines then .textEnd else if flags.returns then .returnEnd else .lineEnd
  | .textStart => .textStart
  | .textEnd => .textEnd
  | .word edge => .word edge !flags.unicode

end Flags

/-- The meaning of an expression, and the switches behind it. What a group sets ends with it. -/
def Written.meaning? (flags : Flags) : Written → Option (Regex × Flags)
  | .empty => some (.empty, flags)
  | .settings added => some (.empty, flags.setAll added)
  | .letter l => (flags.letter? l).map (fun s => (.one s, flags))
  | .dot => flags.dot?.map (fun s => (.one s, flags))
  | .assertion a => some (.look (flags.look a), flags)
  | .short negative kind => (flags.short? negative kind).map (fun s => (.one s, flags))
  | .property negative query => (flags.property? negative query).map (fun s => (.one s, flags))
  | .bracket negative members =>
    (flags.members? (.bracket negative members)).map (fun s => (.one s, flags))
  | .times body least most => do
    let (r, flags) ← body.meaning? flags
    some (r.repeated least most, flags)
  | .capture body => do
    let (r, _) ← body.meaning? flags
    some (.group r, flags)
  | .inner added body => do
    let (r, _) ← body.meaning? (flags.setAll added)
    some (r, flags)
  | .seq first others => do
    let (a, flags) ← first.meaning? flags
    let (b, flags) ← others.meaning? flags
    some (a.followedBy b, flags)
  | .alt first others => do
    let (a, flags) ← first.meaning? flags
    let (b, flags) ← others.meaning? flags
    some (a.orElse b, flags)

end ThreatHunt.Regex
