import ThreatHunt.Text.Words
import ThreatHunt.Text.Located

/-!
Comments and statements in a source. A comment runs from a number sign or two hyphens to the end of
the line, or between slash-star and star-slash, and such blocks nest. Blanking a comment keeps the
length of the text in bytes and all line breaks, so places in the blanked text are places in the
source. A statement ends at a semicolon or at the end of a line outside quotes and brackets; a
backslash at the end of a line joins it with the next.
-/

namespace ThreatHunt.Source

/-- What a place in a source belongs to. -/
inductive Region where
  | code
  /-- Inside quotes. -/
  | text (quote : Char)
  | line
  /-- Inside this many nested blocks. -/
  | block (depth : Nat)
  deriving DecidableEq, Repr

/-- Line breaks stay, and each other character gives way to one blank a byte. -/
def blank (c : Char) : List Char :=
  if c == '\n' || c == '\r' then [c] else List.replicate c.utf8Size ' '

def isQuote (c : Char) : Bool := c == '\'' || c == '\x22'

/-- The text with its comments blanked, from a region on. -/
def blankFrom : Region → List Char → List Char
  | _, [] => []
  | .line, c :: rest => blank c ++ blankFrom (if c == '\n' then .code else .line) rest
  | .block depth, '/' :: '*' :: rest => ' ' :: ' ' :: blankFrom (.block (depth + 1)) rest
  | .block depth, '*' :: '/' :: rest =>
    ' ' :: ' ' :: blankFrom (if depth ≤ 1 then .code else .block (depth - 1)) rest
  | .block depth, c :: rest => blank c ++ blankFrom (.block depth) rest
  | .text quote, '\\' :: c :: rest => '\\' :: c :: blankFrom (.text quote) rest
  | .text quote, c :: rest => c :: blankFrom (if c == quote then .code else .text quote) rest
  | .code, '#' :: rest => ' ' :: blankFrom .line rest
  | .code, '-' :: '-' :: rest => ' ' :: ' ' :: blankFrom .line rest
  | .code, '/' :: '*' :: rest => ' ' :: ' ' :: blankFrom (.block 1) rest
  | .code, c :: rest => c :: blankFrom (if isQuote c then .text c else .code) rest

/-- The text with its comments blanked; what stands between quotes is no comment. -/
def stripComments (s : String) : String :=
  String.ofList (blankFrom .code s.toList)

open Text (Located)

/-- The bytes of one statement: from `start` up to and without `stop`. -/
structure Span where
  start : Nat
  stop : Nat
  deriving DecidableEq, Repr, Inhabited

/-- Where the splitting stands. -/
structure Splitter where
  quote : Option Char
  /-- Open brackets; a closing bracket too many is ignored. -/
  depth : Nat
  /-- Whether the line ends in a backslash. -/
  continued : Bool
  deriving DecidableEq, Repr

def Splitter.initial : Splitter := ⟨none, 0, false⟩

/-- Whether only blanks follow up to the end of the line. -/
def restOfLineBlank (cs : List Located) : Bool :=
  (cs.takeWhile (·.char != '\n')).all (fun c => Text.isBlank c.char)

def isOpening (c : Char) : Bool := c == '(' || c == '[' || c == '\x7b'
def isClosing (c : Char) : Bool := c == ')' || c == ']' || c == '\x7d'

/-- Moves over one character outside quotes; `rest` follows it. -/
def Splitter.step (s : Splitter) (c : Char) (rest : List Located) : Splitter :=
  if isQuote c then { s with quote := some c }
  else if isOpening c then { s with depth := s.depth + 1 }
  else if isClosing c then { s with depth := s.depth - 1 }
  else if c == '\\' then { s with continued := s.continued || restOfLineBlank rest }
  else if c == '\n' then { s with continued := false }
  else s

/-- Whether a character outside quotes ends the statement. -/
def Splitter.ends (s : Splitter) (c : Char) : Bool :=
  s.depth == 0 && (c == ';' || (c == '\n' && !s.continued))

/-- The pieces between separators; `piece` holds the current one reversed. -/
def splitFrom : Splitter → List Located → List Located → List (List Located)
  | _, piece, [] => [piece.reverse]
  | s, piece, c :: rest =>
    match s.quote with
    | some quote =>
      if c.char == '\\' then
        match rest with
        | [] => splitFrom s (c :: piece) []
        | d :: rest => splitFrom s (d :: c :: piece) rest
      else
        splitFrom { s with quote := if c.char == quote then none else some quote } (c :: piece) rest
    | none =>
      if s.ends c.char then piece.reverse :: splitFrom (s.step c.char rest) [] rest
      else splitFrom (s.step c.char rest) (c :: piece) rest

/-- Drops the blanks at both ends. -/
def trimPiece (piece : List Located) : List Located :=
  let front := piece.dropWhile (fun c => Text.isBlank c.char)
  (front.reverse.dropWhile (fun c => Text.isBlank c.char)).reverse

/-- The bytes of a trimmed piece that is not empty. -/
def spanOf? (piece : List Located) : Option Span :=
  let trimmed := trimPiece piece
  match trimmed.head?, trimmed.getLast? with
  | some first, some last => some ⟨first.offset, last.offset + last.char.utf8Size⟩
  | _, _ => none

/-- The statements of a source without comments, in order. -/
def splitStatements (s : String) : List Span :=
  (splitFrom .initial [] (Text.locate s)).filterMap spanOf?

end ThreatHunt.Source
