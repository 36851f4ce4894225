import ThreatHunt.Source.Token
import ThreatHunt.Source.Span
import ThreatHunt.Text.Located
import ThreatHunt.Text.Words

/-!
Splitting a statement into tokens. The characters from the start of the statement on are given
together with the byte at which it stops; only a quoted text may look beyond that byte.
-/

namespace ThreatHunt.Source

open Text (Located)

def isWordStart (c : Char) : Bool := c.isAlpha || c == '_'
def isWordPart (c : Char) : Bool := c.isAlphanum || c == '_'
def isNumberPart (c : Char) : Bool := c.isDigit || c == '.' || c == 'e' || c == 'E'
def isSchemePart (c : Char) : Bool := c.isAlphanum || c == '+' || c == '-' || c == '.'
def isUriPart (c : Char) : Bool := !Text.isAsciiBlank c && c != ',' && c != ';'

/-- What an escaped character stands for; others keep their backslash. -/
def unescape? (quote c : Char) : Option Char :=
  if c == 'n' then some '\n'
  else if c == 't' then some '\t'
  else if c == '\\' || c == quote then some c
  else none

/-- A quoted text after its opening quote, and the number of characters up to and with its closing
quote. -/
def readQuoted (quote : Char) : List Located → Option (List Char × Nat)
  | [] => none
  | c :: rest =>
    match rest with
    | d :: after =>
      if c.char == '\\' then
        match unescape? quote d.char with
        | some e => (readQuoted quote after).map (fun r => (e :: r.1, r.2 + 2))
        | none => (readQuoted quote (d :: after)).map (fun r => ('\\' :: r.1, r.2 + 1))
      else if c.char == quote then some ([], 1)
      else (readQuoted quote (d :: after)).map (fun r => (c.char :: r.1, r.2 + 1))
    | [] => if c.char == quote then some ([], 1) else none

/-- The number of characters of a run of a class before byte `stop`. -/
def runLength (stop : Nat) (inClass : Char → Bool) (cs : List Located) : Nat :=
  (cs.takeWhile (fun c => c.offset < stop && inClass c.char)).length

/-- The number of characters of a word: parts, and hyphens with a part behind them. -/
def wordLength (stop : Nat) : List Located → Nat
  | [] => 0
  | c :: rest =>
    if c.offset < stop && isWordPart c.char then wordLength stop rest + 1
    else if c.char == '-' then
      match rest with
      | d :: _ =>
        if d.offset < stop && isWordPart d.char then wordLength stop rest + 1 else 0
      | [] => 0
    else 0

/-- Whether a character stands at the head of a list before byte `stop`. -/
def startsWith (stop : Nat) (char : Char) : List Located → Bool
  | c :: _ => c.offset < stop && c.char == char
  | [] => false

/-- The number of characters of a URI: a scheme, a colon, two slashes and what follows them. -/
def uriLength? (stop : Nat) (cs : List Located) : Option Nat :=
  let scheme := runLength stop isSchemePart cs
  let rest := cs.drop scheme
  if startsWith stop ':' rest && startsWith stop '/' (rest.drop 1) &&
      startsWith stop '/' (rest.drop 2) then
    some (scheme + 3 + runLength stop isUriPart (rest.drop 3))
  else none

/-- The sign at a character and the number of further characters that it takes. -/
def readMark? (stop : Nat) (c : Char) (rest : List Located) : Option (Mark × Nat) :=
  let equals := startsWith stop '=' rest
  if c == '(' then some (.leftParen, 0)
  else if c == ')' then some (.rightParen, 0)
  else if c == '[' then some (.leftBracket, 0)
  else if c == ']' then some (.rightBracket, 0)
  else if c == '\x7b' then some (.leftBrace, 0)
  else if c == '\x7d' then some (.rightBrace, 0)
  else if c == ',' then some (.comma, 0)
  else if c == ':' then some (.colon, 0)
  else if c == '.' then some (.dot, 0)
  else if c == '+' then some (.plus, 0)
  else if c == '*' then some (.star, 0)
  else if c == '=' then some (.equal, if equals then 1 else 0)
  else if c == '<' then
    if equals then some (.lessEqual, 1)
    else if startsWith stop '>' rest then some (.notEqual, 1)
    else some (.less, 0)
  else if c == '>' then some (if equals then (.greaterEqual, 1) else (.greater, 0))
  else if c == '!' && equals then some (.notEqual, 1)
  else none

/-- The lexeme that starts at a character, and the number of further characters that it takes.
A backslash at the end of a line is skipped and gives no lexeme. -/
def readLexeme (stop : Nat) (previous : Option Lexeme) (c : Located) (rest : List Located) :
    Except Fault (Option Lexeme × Nat) :=
  let taken := fun (n : Nat) => Text.textOf (c :: rest.take n)
  let afterOperand := (previous.map Lexeme.endsOperand).getD false
  let digitFollows := match rest with
    | d :: _ => d.offset < stop && d.char.isDigit
    | [] => false
  if c.char == '\\' then
    let line := rest.takeWhile (fun d => d.offset < stop && d.char != '\n')
    if line.all (fun d => Text.isBlank d.char) then .ok (none, line.length)
    else .error .strayBackslash
  else if c.char == '\'' || c.char == '\x22' then
    match readQuoted c.char rest with
    | some (text, n) => .ok (some (.text (String.ofList text)), n)
    | none => .error .openText
  else if (c.char == 't' || c.char == 'T') && startsWith stop '\'' rest then
    match readQuoted '\'' (rest.drop 1) with
    | some (text, n) => .ok (some (.instant (String.ofList text)), n + 1)
    | none => .error .openText
  else if c.char.isDigit || (c.char == '-' && !afterOperand && digitFollows) then
    let n := runLength stop isNumberPart rest
    .ok (some (.number (taken n)), n)
  else if isWordStart c.char then
    match uriLength? stop (c :: rest) with
    | some n => .ok (some (.uri (taken (n - 1))), n - 1)
    | none =>
      let n := wordLength stop rest
      .ok (some (.word (taken n)), n)
  else
    match readMark? stop c.char rest with
    | some (mark, n) => .ok (some (.mark mark), n)
    | none => .error (.strayCharacter c.char)

/-- The byte at which a fault of a lexeme is shown: a marked text opens at its quote. -/
def faultOffset (c : Located) (fault : Fault) : Nat :=
  match fault with
  | .openText => if c.char == '\'' || c.char == '\x22' then c.offset else c.offset + 1
  | _ => c.offset

/-- The tokens before byte `stop`; `previous` is the lexeme before them. -/
def lexFrom (stop : Nat) (previous : Option Lexeme) : List Located → Except Misread (List Token)
  | [] => .ok []
  | c :: rest =>
    if stop ≤ c.offset then .ok []
    else if Text.isAsciiBlank c.char then lexFrom stop previous rest
    else
      match readLexeme stop previous c rest with
      | .error fault => .error ⟨faultOffset c fault, fault⟩
      | .ok (none, n) => lexFrom stop previous (rest.drop n)
      | .ok (some lexeme, n) =>
        (lexFrom stop (some lexeme) (rest.drop n)).map (⟨lexeme, c.offset⟩ :: ·)
termination_by cs => cs.length
decreasing_by all_goals simp only [List.length_cons, List.length_drop]; omega

/-- The characters of a text from byte `start` on. -/
def charactersFrom (s : String) (start : Nat) : List Located :=
  (Text.locate s).dropWhile (fun c => c.offset < start)

/-- The tokens of a statement. -/
def lex (s : String) (span : Span) : Except Misread (List Token) :=
  lexFrom span.stop none (charactersFrom s span.start)

end ThreatHunt.Source
