import ThreatHunt.Text.Words

/-!
Texts with byte offsets. Every position that a message shows is counted here: offsets are byte
offsets of the UTF-8 form, a line ends at a line feed, and a column counts characters from 1.
-/

namespace ThreatHunt.Text

/-- The number of bytes of a list of characters. -/
def byteLength (cs : List Char) : Nat :=
  cs.foldr (fun c n => c.utf8Size + n) 0

/-- A character and the offset of its first byte. -/
structure Located where
  offset : Nat
  char : Char
  deriving DecidableEq, Repr, Inhabited

/-- The characters of a text that starts at byte `start`, each with its offset. -/
def locateFrom : Nat → List Char → List Located
  | _, [] => []
  | start, c :: cs => ⟨start, c⟩ :: locateFrom (start + c.utf8Size) cs

/-- The characters of a text with their offsets. -/
def locate (s : String) : List Located :=
  locateFrom 0 s.toList

theorem map_char_locateFrom (start : Nat) (cs : List Char) :
    (locateFrom start cs).map Located.char = cs := by
  induction cs generalizing start with
  | nil => rfl
  | cons c cs ih => simp [locateFrom, ih]

/-- The text of a run of located characters. -/
def textOf (cs : List Located) : String :=
  String.ofList (cs.map Located.char)

/-- A line and a column, both counted from 1. -/
structure Position where
  line : Nat
  column : Nat
  deriving DecidableEq, Repr, Inhabited

/-- Moves a position over one character. -/
def Position.advance (p : Position) (c : Char) : Position :=
  if c == '\n' then ⟨p.line + 1, 1⟩ else ⟨p.line, p.column + 1⟩

/-- The characters that begin before byte `offset`. -/
def before (cs : List Located) (offset : Nat) : List Char :=
  (cs.takeWhile (fun c => c.offset < offset)).map Located.char

/-- The position of byte `offset`; an offset past the end counts as the end. A character that
begins before the offset is counted whole. -/
def positionAt (s : String) (offset : Nat) : Position :=
  (before (locate s) offset).foldl Position.advance ⟨1, 1⟩

/-- The part of a list after its last line feed. -/
def lastLine (cs : List Char) : List Char :=
  (cs.reverse.takeWhile (· != '\n')).reverse

/-- The line that holds byte `offset`, and a caret under its column. -/
def caretSnippet (s : String) (offset : Nat) : String :=
  let cs := locate s
  let front := lastLine (before cs offset)
  let back := ((cs.dropWhile (fun c => c.offset < offset)).takeWhile (·.char != '\n')).map
    Located.char
  String.ofList (front ++ back ++ '\n' :: List.replicate front.length ' ' ++ ['^'])

/-- The part of a text from byte `start` to byte `stop`. -/
def slice (s : String) (start stop : Nat) : String :=
  textOf ((locate s).filter (fun c => start ≤ c.offset && c.offset < stop))

end ThreatHunt.Text
