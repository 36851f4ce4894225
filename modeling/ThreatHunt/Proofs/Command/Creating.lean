import ThreatHunt.Proofs.Command.Checked
import ThreatHunt.Proofs.Json.Spelling
import ThreatHunt.Proofs.Source.Inline

/-!
Records written inline. The JSON behind `NEW` passes through the stripping of comments, the
splitting into statements and the lexer before it is read as JSON, and of all lists only those with
a negative exponent do not get through.
-/

namespace ThreatHunt

open Source (Lexeme Token Span Mark Lexed Joins Quiet Inside Stands isIdentifier splitStatements
  stripComments shrinks)
open Text (byteLength)

/-! The steps of reading. -/

namespace Command

open Source.Parse

variable {stop : Nat} {rest : List Token} {v : String}

theorem isIdentifier_of_isVariableName (name : isVariableName v = true) :
    isIdentifier v = true := by
  unfold isVariableName at name
  split at name
  · rename_i c cs chars
    simp only [Bool.and_eq_true] at name
    obtain ⟨⟨begins, parts⟩, -⟩ := name
    rw [isIdentifier, chars]
    dsimp only
    rw [begins, Source.isWordTail_of_parts (List.all_eq_true.1 parts)]
    rfl
  · cases name

theorem assignee_word (name : isVariableName v = true) (start next : Nat) :
    assignee stop (⟨.word v, start⟩ :: ⟨.mark .equal, next⟩ :: rest) = .ok (some v, rest) := by
  have shaped : assignee stop (⟨.word v, start⟩ :: ⟨.mark .equal, next⟩ :: rest) = (do
      let name ← variableName
      skip
      return some name : Source.Parse (Option String)) stop
        (⟨.word v, start⟩ :: ⟨.mark .equal, next⟩ :: rest) := rfl
  have named : variableName stop (⟨.word v, start⟩ :: ⟨.mark .equal, next⟩ :: rest) =
      .ok (v, ⟨.mark .equal, next⟩ :: rest) := by
    change (if isVariableName v then pure v else failAt start (.invalidVariable v) :
      Source.Parse String) stop (⟨.mark .equal, next⟩ :: rest) = _
    rw [if_pos name]
    rfl
  rw [shaped, bind_of_ok named]
  rfl

variable {source : String} {entityType : Option String} {records : List Json}

/-- Records are read from the bracket on to the end of the statement. -/
theorem inlineRecords_bracket {start : Nat}
    (json : Json.read (Text.slice source start stop) = .ok (.arr records)) :
    inlineRecords source entityType stop (⟨.mark .leftBracket, start⟩ :: rest) =
      .ok (.create entityType records, []) := by
  have bracket : atMark .leftBracket stop (⟨.mark .leftBracket, start⟩ :: rest) =
      .ok (true, ⟨.mark .leftBracket, start⟩ :: rest) := rfl
  have here : place stop (⟨.mark .leftBracket, start⟩ :: rest) =
      .ok (start, ⟨.mark .leftBracket, start⟩ :: rest) := rfl
  have behind : endPlace stop (⟨.mark .leftBracket, start⟩ :: rest) =
      .ok (stop, ⟨.mark .leftBracket, start⟩ :: rest) := rfl
  rw [inlineRecords, bind_of_ok bracket, if_pos rfl, bind_of_ok here, bind_of_ok behind, json]
  rfl

/-- The token of a type. -/
def typeTokens (offset : Nat) : Option String → List Token
  | none => []
  | some name => [⟨.word name, offset⟩]

theorem createCommand_bracket {start offset : Nat}
    (free : ∀ name ∈ entityType, isReserved name = false)
    (json : Json.read (Text.slice source start stop) = .ok (.arr records)) :
    createCommand source stop
        (typeTokens offset entityType ++ ⟨.mark .leftBracket, start⟩ :: rest) =
      .ok (.create entityType records, []) := by
  rw [createCommand_eq]
  cases entityType with
  | none => exact inlineRecords_bracket json
  | some name =>
    have named : entityTypeName stop (⟨.word name, offset⟩ :: ⟨.mark .leftBracket, start⟩ :: rest) =
        .ok (name, ⟨.mark .leftBracket, start⟩ :: rest) := by
      change (if isReserved name then failAt offset (.keywordAsType name) else return name :
        Source.Parse String) stop (⟨.mark .leftBracket, start⟩ :: rest) = _
      rw [free name rfl, if_neg Bool.false_ne_true]
      rfl
    have typed : (some <$> entityTypeName) stop
        (⟨.word name, offset⟩ :: ⟨.mark .leftBracket, start⟩ :: rest) =
        .ok (some name, ⟨.mark .leftBracket, start⟩ :: rest) := bind_of_ok named
    exact (bind_of_ok typed).trans (inlineRecords_bracket json)

/-- The statement that names new records. -/
theorem statement_create {start offset first second third : Nat} (name : isVariableName v = true)
    (free : ∀ name ∈ entityType, isReserved name = false)
    (json : Json.read (Text.slice source start stop) = .ok (.arr records)) :
    statement source stop (⟨.word v, first⟩ :: ⟨.mark .equal, second⟩ :: ⟨.word "NEW", third⟩ ::
      (typeTokens offset entityType ++ ⟨.mark .leftBracket, start⟩ :: rest)) =
      .ok (⟨some v, .create entityType records⟩, []) := by
  have new : (Lexeme.word "NEW").isWord "NEW" = true := by decide
  have created : command source true stop (⟨.word "NEW", third⟩ ::
      (typeTokens offset entityType ++ ⟨.mark .leftBracket, start⟩ :: rest)) =
      .ok (.create entityType records, []) := by
    rw [command_new new]
    exact createCommand_bracket free json
  rw [statement, bind_of_ok (assignee_word name first second), Option.isSome_some,
    bind_of_ok created]
  rfl

end Command

/-! The source. -/

namespace Script

open Command (isVariableName isReserved isIdentifier_of_isVariableName)

variable {v json : String} {entityType : Option String} {back : List Char} {stop start : Nat}
  {found : Except Source.Misread (List Token)}

/-- The characters of a type with a blank behind it. -/
def typeChars : Option String → List Char
  | none => []
  | some name => name.toList ++ [' ']

/-- What stands before records that are written inline. -/
def heading (v : String) (entityType : Option String) : List Char :=
  v.toList ++ (' ' :: '=' :: ' ' :: ("NEW".toList ++ ' ' :: typeChars entityType))

/-- A source that names new records. -/
def creation (v : String) (entityType : Option String) (json : String) : String :=
  v ++ " = NEW " ++ entityType.elim "" (· ++ " ") ++ json

theorem toList_creation (v : String) (entityType : Option String) (json : String) :
    (creation v entityType json).toList = heading v entityType ++ json.toList := by
  cases entityType <;> simp [creation, heading, typeChars]

theorem lexed_typeChars (typed : ∀ name ∈ entityType, isIdentifier name = true)
    (inside : Inside stop start (typeChars entityType ++ back))
    (later : ∀ previous, Lexed stop (start + byteLength (typeChars entityType)) previous back found)
    (previous : Option Lexeme) :
    Lexed stop start previous (typeChars entityType ++ back)
      (found.map (Command.typeTokens start entityType ++ ·)) := by
  cases entityType with
  | none =>
    have same : found.map (Command.typeTokens start none ++ ·) = found := by cases found <;> rfl
    rw [same]
    exact later previous
  | some name =>
    have behind := later (some (.word name))
    have text : typeChars (some name) ++ back = name.toList ++ ' ' :: back := by simp [typeChars]
    have size : byteLength (typeChars (some name)) = byteLength name.toList + 1 := by
      rw [typeChars, Text.byteLength_append]
      rfl
    rw [size, ← Nat.add_assoc] at behind
    rw [text] at inside ⊢
    exact behind.word_blank (typed name rfl) inside

/-- The tokens of a heading, and those behind it. -/
def headingTokens (v : String) (entityType : Option String) (first second third offset : Nat)
    (tokens : List Token) : List Token :=
  ⟨.word v, first⟩ :: ⟨.mark .equal, second⟩ :: ⟨.word "NEW", third⟩ ::
    (Command.typeTokens offset entityType ++ tokens)

theorem lexed_heading (name : isIdentifier v = true)
    (typed : ∀ name ∈ entityType, isIdentifier name = true)
    (inside : Inside stop start (heading v entityType ++ back))
    (later : ∀ previous,
      Lexed stop (start + byteLength (heading v entityType)) previous back found) :
    ∃ first second third offset, Lexed stop start none (heading v entityType ++ back)
      (found.map (headingTokens v entityType first second third offset)) := by
  have text : heading v entityType ++ back =
      v.toList ++ ' ' :: '=' :: ' ' :: ("NEW".toList ++ ' ' :: (typeChars entityType ++ back)) := by
    simp [heading]
  have size : start + byteLength (heading v entityType) =
      start + byteLength v.toList + 1 + 2 + byteLength "NEW".toList + 1 +
        byteLength (typeChars entityType) := by
    have blank : ' '.utf8Size = 1 := rfl
    have sign : '='.utf8Size = 1 := rfl
    simp only [heading, Text.byteLength_append, Text.byteLength_cons, blank, sign]
    omega
  rw [text] at inside ⊢
  have equal : Inside stop (start + byteLength v.toList + 1)
      ('=' :: ' ' :: ("NEW".toList ++ ' ' :: (typeChars entityType ++ back))) := inside.append.2.cons.2
  have new : Inside stop (start + byteLength v.toList + 1 + 2)
      ("NEW".toList ++ ' ' :: (typeChars entityType ++ back)) := equal.cons.2.cons.2
  rw [size] at later
  have types := lexed_typeChars typed new.append.2.cons.2 later (some (.word "NEW"))
  have created : ∀ previous, Lexed stop (start + byteLength v.toList + 1 + 2) previous _ _ :=
    fun _ => types.word_blank (by decide) new
  have all : Lexed stop start none _ _ := ((created _).equal_blank equal).word_blank name inside
  rw [Source.map_map, Source.map_map, Source.map_map] at all
  exact ⟨_, _, _, _, all⟩

/-! A heading in a source. -/

theorem inert_word {s : String} (word : isIdentifier s = true) {c : Char} (member : c ∈ s.toList) :
    Source.isInert c = true ∧ c ≠ '\n' ∧ c ≠ ';' := by
  obtain ⟨first, rest, chars, begins, tail⟩ := Source.exists_of_isIdentifier word
  have inside : Source.isWordPart c = true ∨ c = '-' := by
    rw [chars] at member
    rcases List.mem_cons.1 member with rfl | later
    · exact .inl (Source.isWordPart_of_isWordStart begins)
    · exact Source.of_mem_wordTail tail later
  rcases inside with part | rfl
  · have plain := Source.ne_of_class part
    exact ⟨Source.isInert_of_class part (by decide), plain _ (by decide), plain _ (by decide)⟩
  · decide

/-- What holds of words and of the signs between them holds of headings. -/
theorem of_heading {P : List Char → Prop} (name : isIdentifier v = true)
    (typed : ∀ name ∈ entityType, isIdentifier name = true)
    (append : ∀ {front back}, P front → P back → P (front ++ back))
    (word : ∀ {s : String}, isIdentifier s = true → P s.toList) (blank : P [' ']) (equal : P ['='])
    (none : P []) : P (heading v entityType) := by
  have types : P (typeChars entityType) := by
    cases entityType with
    | none => exact none
    | some name => exact append (word (typed name rfl)) blank
  have created : P ("NEW".toList ++ ' ' :: typeChars entityType) :=
    append (word (by decide)) (append blank types)
  exact append (word name) (append blank (append equal (append blank created)))

theorem quiet_heading (name : isIdentifier v = true)
    (typed : ∀ name ∈ entityType, isIdentifier name = true) : Quiet (heading v entityType) := by
  have blank : Quiet [' '] :=
    Source.quiet_one (by decide) (by decide) (by decide) (by decide)
  have equal : Quiet ['='] :=
    Source.quiet_one (by decide) (by decide) (by decide) (by decide)
  exact of_heading name typed Quiet.append (fun {s} word => Source.quiet_written (l := .word s) word)
    blank equal (fun _ => rfl)

theorem joins_heading (name : isIdentifier v = true)
    (typed : ∀ name ∈ entityType, isIdentifier name = true) (depth : Nat) :
    Joins depth depth (heading v entityType) := by
  refine of_heading name typed Joins.append (fun word => ?_) ?_ ?_ (Source.joins_nil depth)
  · refine Source.joins_all (fun c member => ?_)
    obtain ⟨inert, line, separator⟩ := inert_word word member
    exact Source.joins_inert_line inert line separator depth
  all_goals exact Source.joins_inert_line (by decide) (by decide) (by decide) depth

/-- A heading begins with a visible character. -/
theorem exists_heading (name : isIdentifier v = true) (entityType : Option String) :
    ∃ c rest, heading v entityType = c :: rest ∧ Text.isBlank c = false := by
  obtain ⟨c, rest, chars, begins, -⟩ := Source.exists_of_isIdentifier name
  rw [heading, chars]
  exact ⟨c, _, rfl, Source.not_isBlank_of_isWordStart begins⟩

/-! Records behind a heading. -/

open Json (Spells IsSpaces)

/-- A source that names new records, in its parts. -/
structure Creates (s v : String) (entityType : Option String) (records : List Json)
    (lead core trail : List Char) : Prop where
  text : s.toList = heading v entityType ++ (lead ++ (core ++ trail))
  name : isVariableName v = true
  typed : ∀ name ∈ entityType, isIdentifier name = true
  free : ∀ name ∈ entityType, isReserved name = false
  before : IsSpaces lead
  behind : IsSpaces trail
  spelled : Spells Json.depthLimit (.value (.arr records)) core

namespace Creates

variable {s : String} {records : List Json} {lead core trail : List Char}

theorem identifier (creates : Creates s v entityType records lead core trail) :
    isIdentifier v = true := isIdentifier_of_isVariableName creates.name

theorem blank {bs : List Char} (spaces : IsSpaces bs) : ∀ c ∈ bs, Text.isBlank c = true :=
  fun c member => Source.isBlank_of_isSpace (spaces c member)

/-- No comment is stripped from the source. -/
theorem strip (creates : Creates s v entityType records lead core trail) : stripComments s = s := by
  have quiet : Quiet s.toList := by
    rw [creates.text]
    exact (quiet_heading creates.identifier creates.typed).append
      ((Source.quiet_spaces creates.before).append
        ((Source.quiet_spells creates.spelled).append (Source.quiet_spaces creates.behind)))
  have same := quiet []
  rw [List.append_nil, Source.blankFrom, List.append_nil] at same
  rw [stripComments, same, String.ofList_toList]

/-- In a source of one statement, no line feed stands between the heading and the records. -/
theorem joins (creates : Creates s v entityType records lead core trail)
    (one : (splitStatements s).length = 1) :
    Joins 0 0 (heading v entityType ++ (lead ++ core)) := by
  obtain ⟨c, rest, begins, visible⟩ := exists_heading creates.identifier entityType
  obtain ⟨body, bracket, inner, items⟩ := creates.spelled.exists_items
  have head := joins_heading creates.identifier creates.typed 0
  have list : Joins 0 0 core := bracket ▸ Source.joins_list items 0
  have first : c ∈ heading v entityType ∧ Text.isBlank c = false :=
    ⟨begins ▸ List.mem_cons_self, visible⟩
  have second : '[' ∈ core ∧ Text.isBlank '[' = false :=
    ⟨bracket ▸ List.mem_cons_self, by decide⟩
  rw [splitStatements, Text.locate, creates.text] at one
  have line := Source.line_of_one head list first second (blank creates.before)
    (blank creates.behind) one
  refine head.append (Joins.append (Source.joins_all (fun d member => ?_)) list)
  obtain ⟨inert, separator⟩ := Source.inert_of_isBlank (blank creates.before d member)
  exact Source.joins_inert_line inert (fun same => line (same ▸ member)) separator 0

/-- Heading and records begin and end with visible characters. -/
theorem exists_ends (creates : Creates s v entityType records lead core trail) :
    ∃ c middle, heading v entityType ++ (lead ++ core) = c :: (middle ++ [']']) ∧
      Text.isBlank c = false := by
  obtain ⟨c, rest, begins, visible⟩ := exists_heading creates.identifier entityType
  obtain ⟨body, bracket, inner, items⟩ := creates.spelled.exists_items
  obtain ⟨front, closes⟩ := items.exists_bracket
  refine ⟨c, rest ++ (lead ++ '[' :: front), ?_, visible⟩
  rw [begins, bracket, closes]
  simp

/-- The bytes of heading and records. -/
def span (v : String) (entityType : Option String) (lead core : List Char) : Span :=
  ⟨0, byteLength (heading v entityType ++ (lead ++ core))⟩

theorem splitStatements_eq (creates : Creates s v entityType records lead core trail)
    (one : (splitStatements s).length = 1) :
    splitStatements s = [span v entityType lead core] := by
  have whole := creates.joins one
  obtain ⟨c, middle, ends, visible⟩ := creates.exists_ends
  have text : s.toList = heading v entityType ++ (lead ++ core) ++ trail := by
    rw [creates.text, List.append_assoc, List.append_assoc]
  rw [splitStatements, Text.locate, text, span]
  rw [ends] at whole ⊢
  have spans := Source.spans_joined visible (by decide) whole (blank creates.behind) 0
  rwa [Nat.zero_add] at spans

theorem trim_eq (creates : Creates s v entityType records lead core trail) :
    Text.trim s = String.ofList (heading v entityType ++ (lead ++ core)) := by
  obtain ⟨c, middle, ends, visible⟩ := creates.exists_ends
  have text : s.toList = heading v entityType ++ (lead ++ core) ++ trail := by
    rw [creates.text, List.append_assoc, List.append_assoc]
  rw [Text.trim, text, ends,
    Source.trimChars_append visible (by decide) middle (blank creates.behind)]

theorem stands (creates : Creates s v entityType records lead core trail) :
    Stands s (span v entityType lead core) [] (heading v entityType ++ (lead ++ core)) trail where
  text := by rw [creates.text, List.nil_append, List.append_assoc, List.append_assoc]
  start := rfl
  stop := (Nat.zero_add _).symm
  closed := .inr (blank creates.behind)

/-- The records are cut out of the source from their bracket on. -/
theorem slice_eq (creates : Creates s v entityType records lead core trail) :
    Text.slice s (0 + byteLength (heading v entityType) + byteLength lead)
      (span v entityType lead core).stop = String.ofList core := by
  have whole : s.toList = (heading v entityType ++ lead) ++ (core ++ trail) := by
    rw [creates.text, List.append_assoc]
  have cut := Text.slice_middle whole
  rw [span, Nat.zero_add]
  rwa [← Text.byteLength_append, Text.byteLength_append, List.append_assoc] at cut

theorem read_core (creates : Creates s v entityType records lead core trail) :
    Json.read (String.ofList core) = .ok (.arr records) := by
  have spaces : IsSpaces [] := nofun
  refine Json.read_eq_ok.2 ⟨[], core, [], ?_, spaces, spaces, creates.spelled⟩
  rw [String.toList_ofList, List.nil_append, List.append_nil]

/-- The tokens of the source, up to the bracket of the records and behind it. There is a fault among
them if an exponent is negative. -/
theorem exists_lexed (creates : Creates s v entityType records lead core trail) :
    ∃ (first second third offset : Nat) (found : Except Source.Misread (List Token)),
      Lexed (span v entityType lead core).stop 0 none (heading v entityType ++ (lead ++ core))
        (found.map (fun tokens => headingTokens v entityType first second third offset
          (⟨.mark .leftBracket, 0 + byteLength (heading v entityType) + byteLength lead⟩ ::
            tokens))) ∧
      found.isOk = !shrinks .outside core := by
  obtain ⟨body, rfl, inner, items⟩ := creates.spelled.exists_items
  have inside : Inside (span v entityType lead ('[' :: body)).stop 0
      (heading v entityType ++ (lead ++ '[' :: body)) := by
    rw [Inside, span, Nat.zero_add]
  have list := inside.append.2
  have opened : Source.Fresh (some (.mark .leftBracket)) := rfl
  obtain ⟨found, lexed, ends⟩ := Source.lexes_items items opened list.append.2.cons.2
  have blanks : ∀ c ∈ lead, Text.isAsciiBlank c = true :=
    fun c member => Source.isAsciiBlank_of_isSpace (creates.before c member)
  have later : ∀ previous, Lexed _ _ previous _ _ :=
    fun _ => Lexed.blanks (lexed.mark (fun _ => rfl) list.append.2) blanks list
  obtain ⟨first, second, third, offset, all⟩ :=
    lexed_heading creates.identifier creates.typed inside later
  rw [Source.map_map] at all
  exact ⟨first, second, third, offset, found, all, ends⟩

/-- The statement that the source is read as. -/
theorem readSpan_eq (creates : Creates s v entityType records lead core trail)
    (grows : shrinks .outside core = false) :
    readSpan s (span v entityType lead core) =
      .ok ⟨Text.trim s, 1, 1, ⟨some v, .create entityType records⟩⟩ := by
  have stands := creates.stands
  obtain ⟨first, second, third, offset, found, lexed, ends⟩ := creates.exists_lexed
  have read := (stands.lex_eq (.inr lexed.closed)).1.trans lexed.read
  have json := creates.read_core
  rw [← creates.slice_eq] at json
  have place : Text.positionAt s (span v entityType lead core).start = ⟨1, 1⟩ :=
    Text.positionAt_zero s
  rw [grows] at ends
  cases found with
  | error misread => cases ends
  | ok tokens =>
    rw [readSpan, Command.readStatement, read, stands.slice_whole, creates.trim_eq, place]
    dsimp only [Bind.bind, Except.bind, Except.map, headingTokens]
    rw [Command.statement_create creates.name creates.free json]
    rfl

/-- With a negative exponent, the source is a fault. -/
theorem readSpan_error (creates : Creates s v entityType records lead core trail)
    (small : shrinks .outside core = true) :
    (readSpan s (span v entityType lead core)).isOk = false := by
  have stands := creates.stands
  obtain ⟨first, second, third, offset, found, lexed, ends⟩ := creates.exists_lexed
  have read := (stands.lex_eq (.inr lexed.closed)).1.trans lexed.read
  rw [small] at ends
  cases found with
  | ok tokens => cases ends
  | error misread =>
    rw [readSpan, Command.readStatement, read]
    rfl

end Creates

theorem isDigits_one {d : Char} (digit : d.isDigit = true) : Json.IsDigits [d] :=
  ⟨List.cons_ne_nil _ _, List.forall_mem_singleton.2 digit⟩

/-- A list of one record, whose only field is a power of ten. -/
theorem read_powers {s : String} {value : Json} {exponent : Option Int} {power : List Char}
    (isPower : Json.IsPower exponent power)
    (stands : (Json.Numeral.mk false ['1'] none exponent).value? = some value)
    (text : s.toList =
      '[' :: '\x7b' :: '\x22' :: 'a' :: '\x22' :: ':' :: '1' :: (power ++ ['\x7d', ']'])) :
    Json.read s = .ok (.arr [.obj [("a", value)]]) := by
  have spaces : IsSpaces [] := nofun
  have digits := isDigits_one (by decide : '1'.isDigit = true)
  have number : Json.IsScalar value ('1' :: ([] ++ power)) :=
    .positive (.parts ⟨digits, by decide⟩ .none isPower) rfl stands
  have letter : Json.IsText ['a'] ['a'] := .plain (by decide) (by decide) (by decide) .nil
  have field : Spells 126 (.fields true [("a", value)])
      ('\x22' :: 'a' :: '\x22' :: ':' :: '1' :: (power ++ ['\x7d'])) :=
    .field (.first spaces) letter spaces spaces (.scalar number) (.noField spaces)
  have record : Spells 127 (.value (.obj [("a", value)])) ('\x7b' :: _) := .object (by decide) field
  have list := Spells.list (by decide) (.item (.first spaces) record (.noItem spaces))
  refine Json.read_eq_ok.2 ⟨[], _, [], ?_, spaces, spaces, list⟩
  rw [text]
  simp

variable {records : List Json}

theorem exists_creates (name : isVariableName v = true)
    (typed : ∀ name ∈ entityType, isIdentifier name = true ∧ isReserved name = false)
    (spelled : Json.read json = .ok (.arr records)) :
    ∃ lead core trail, Creates (creation v entityType json) v entityType records lead core trail ∧
      shrinks .outside json.toList = shrinks .outside core := by
  obtain ⟨lead, core, trail, text, before, behind, value⟩ := Json.read_eq_ok.1 spelled
  refine ⟨lead, core, trail, ?_, text ▸ Source.shrinks_between before value behind⟩
  constructor
  case text => rw [toList_creation, text]
  case name => exact name
  case typed => exact fun name member => (typed name member).1
  case free => exact fun name member => (typed name member).2
  case before => exact before
  case behind => exact behind
  case spelled => exact value

/-- Records that are written inline are read as the JSON they are, if no exponent in them has a
minus sign: any layout of a list that JSON allows is the statement that names its items. -/
theorem read_creation (name : isVariableName v = true)
    (typed : ∀ name ∈ entityType, isIdentifier name = true ∧ isReserved name = false)
    (spelled : Json.read json = .ok (.arr records))
    (grows : shrinks .outside json.toList = false)
    (one : (splitStatements (stripComments (creation v entityType json))).length = 1) :
    read (creation v entityType json) =
      [.ok ⟨Text.trim (creation v entityType json), 1, 1,
        ⟨some v, .create entityType records⟩⟩] := by
  obtain ⟨lead, core, trail, creates, same⟩ := exists_creates name typed spelled
  rw [creates.strip] at one
  rw [same] at grows
  rw [read, creates.strip, creates.splitStatements_eq one, List.map_singleton,
    creates.readSpan_eq grows]

/-- An exponent with a plus sign. -/
theorem read_creation_plus :
    read (creation "v" (some "process") "[\x7b\"a\":1e+5\x7d]") =
      [.ok ⟨"v = NEW process [\x7b\"a\":1e+5\x7d]", 1, 1,
        ⟨some "v", .create (some "process") [.obj [("a", .float ⟨0x40f86a0000000000⟩)]]⟩⟩] := by
  have digits := isDigits_one (by decide : '5'.isDigit = true)
  have spelled : Json.read "[\x7b\"a\":1e+5\x7d]" =
      .ok (.arr [.obj [("a", .float ⟨0x40f86a0000000000⟩)]]) :=
    read_powers (.plus (.inl rfl) digits) rfl rfl
  have text : Text.trim (creation "v" (some "process") "[\x7b\"a\":1e+5\x7d]") =
      "v = NEW process [\x7b\"a\":1e+5\x7d]" := by decide +kernel
  have created : read (creation "v" (some "process") "[\x7b\"a\":1e+5\x7d]") = _ :=
    read_creation (by decide) (by decide) spelled (by decide +kernel) (by decide +kernel)
  rwa [text] at created

/-- Wherever an exponent has a minus sign, the statement is refused. -/
theorem read_creation_of_shrinks (name : isVariableName v = true)
    (typed : ∀ name ∈ entityType, isIdentifier name = true ∧ isReserved name = false)
    (spelled : Json.read json = .ok (.arr records))
    (small : shrinks .outside json.toList = true)
    (one : (splitStatements (stripComments (creation v entityType json))).length = 1) :
    (read (creation v entityType json)).map Except.isOk = [false] := by
  obtain ⟨lead, core, trail, creates, same⟩ := exists_creates name typed spelled
  rw [creates.strip] at one
  rw [same] at small
  rw [read, creates.strip, creates.splitStatements_eq one, List.map_singleton, List.map_singleton,
    creates.readSpan_error small]

/-- A minus sign before an exponent is refused, though the list it stands in can be read. -/
theorem read_creation_minus :
    ¬∀ (v json : String) (entityType : Option String) (records : List Json),
      isVariableName v = true →
      (∀ name ∈ entityType, isIdentifier name = true ∧ isReserved name = false) →
      Json.read json = .ok (.arr records) → (∀ r ∈ records, ∃ fields, r = .obj fields) →
      (splitStatements (stripComments (creation v entityType json))).length = 1 →
      read (creation v entityType json) =
        [.ok ⟨Text.trim (creation v entityType json), 1, 1,
          ⟨some v, .create entityType records⟩⟩] := by
  intro accepted
  have digits := isDigits_one (by decide : '5'.isDigit = true)
  have spelled : Json.read "[\x7b\"a\":1e-5\x7d]" =
      .ok (.arr [.obj [("a", .float ⟨0x3ee4f8b588e368f1⟩)]]) :=
    read_powers (.minus (.inl rfl) digits) rfl rfl
  have objects : ∀ r ∈ [Json.obj [("a", .float ⟨0x3ee4f8b588e368f1⟩)]],
      ∃ fields, r = .obj fields := by
    rintro r (_ | ⟨-, ⟨⟩⟩)
    exact ⟨_, rfl⟩
  have created := accepted "v" "[\x7b\"a\":1e-5\x7d]" none _ (by decide) nofun spelled objects
    (by decide +kernel)
  have made := congrArg (List.map Except.isOk) created
  revert made
  decide +kernel

end Script

end ThreatHunt
