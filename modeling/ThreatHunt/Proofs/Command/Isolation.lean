import Mathlib.Data.List.TakeWhile
import ThreatHunt.Command.Script
import ThreatHunt.Proofs.Command.Placed

/-!
Statements are read for themselves: what one is read as, or the fault that it is refused with,
depends on its own characters and on its place in the source.
-/

namespace ThreatHunt

namespace Command

open Source Text

variable {s t : String} {span : Source.Span} {front front' inner behind behind' : List Char}

/-- A statement is read alike from sources in which the same characters stand at its place. -/
theorem readStatement_eq (stands : Stands s span front inner behind)
    (stands' : Stands t span front' inner behind')
    (closed : ∀ m ∈ lexemesMet s span, m.Closed) :
    readStatement t span = readStatement s span ∧
      ∀ misread, readStatement s span = .error misread → span.Holds misread.offset := by
  obtain ⟨lexed, met⟩ := stands.lex_eq (.inl closed)
  obtain ⟨lexed', -⟩ := stands'.lex_eq (.inr (met ▸ closed))
  have same : ∀ offset, span.Holds offset →
      Text.slice t offset span.stop = Text.slice s offset span.stop := by
    intro offset held
    rw [stands.slice_eq held, stands'.slice_eq held]
  unfold readStatement
  rw [lexed, lexed']
  simp only [bind, Except.bind]
  cases read : lexFrom span.stop none (locateFrom span.start inner) with
  | error misread =>
    refine ⟨rfl, ?_⟩
    rintro _ ⟨⟩
    exact stands.holds_of_lexFrom read
  | ok tokens =>
    have placed := stands.placed_of_lexFrom read
    have alike : statement t span.stop tokens = statement s span.stop tokens :=
      alike_statement same tokens placed
    obtain ⟨fails, -⟩ := stays_statement (cutsInside stands) tokens placed
    dsimp only
    rw [alike]
    refine ⟨rfl, ?_⟩
    intro misread failed
    cases parsed : statement s span.stop tokens with
    | ok made =>
      rw [parsed] at failed
      cases failed
    | error inner =>
      rw [parsed] at failed
      obtain rfl := Except.error.inj failed
      exact fails inner parsed

end Command

namespace Script

open Source Text

/-- What a statement is read as depends on itself and on its place, and no lexeme of it, quoted
texts included, goes beyond it. -/
structure Isolated (s : String) (span : Source.Span) : Prop where
  /-- Another source with the same characters at the same place gives the same result. -/
  own : ∀ t, span ∈ splitStatements t →
    Text.slice t span.start span.stop = Text.slice s span.start span.stop →
    Text.positionAt t span.start = Text.positionAt s span.start → readSpan t span = readSpan s span
  /-- So does another source with the same characters up to the end of the statement. -/
  behind : ∀ t, span ∈ splitStatements t →
    Text.before (Text.locate t) span.stop = Text.before (Text.locate s) span.stop →
    readSpan t span = readSpan s span
  inside : ∀ m ∈ lexemesMet s span, ∀ c ∈ m.characters,
    span.start ≤ c.offset ∧ c.offset + c.char.utf8Size ≤ span.stop
  tokens : ∀ tokens, lex s span = .ok tokens → tokens = (lexemesMet s span).map Met.token

variable {s t : String} {span : Source.Span} {front front' inner behind behind' : List Char}

theorem readSpan_eq (stands : Stands s span front inner behind)
    (stands' : Stands t span front' inner behind') (closed : ∀ m ∈ lexemesMet s span, m.Closed)
    (place : Text.positionAt t span.start = Text.positionAt s span.start) :
    readSpan t span = readSpan s span := by
  obtain ⟨alike, fails⟩ := Command.readStatement_eq stands stands' closed
  unfold readSpan
  rw [stands.slice_whole, stands'.slice_whole, place, alike]
  cases read : Command.readStatement s span with
  | ok statement => rfl
  | error misread =>
    have held := fails misread read
    have position : Text.positionAt t misread.offset = Text.positionAt s misread.offset := by
      rw [stands.positionAt_eq held, stands'.positionAt_eq held, place]
    dsimp only
    rw [HuntError.ofMisread, HuntError.ofMisread, position]

/-- Sources that agree up to the end of a statement have the same one at the same place. -/
theorem eq_of_before_eq {inner' : List Char} (stands : Stands s span front inner behind)
    (stands' : Stands t span front' inner' behind')
    (same : Text.before (Text.locate t) span.stop = Text.before (Text.locate s) span.stop) :
    inner' = inner ∧ Text.positionAt t span.start = Text.positionAt s span.start := by
  have all : ∀ cs : List Char, span.stop = span.start + byteLength cs →
      Text.before (locateFrom span.start cs) span.stop = cs := by
    intro cs stop
    have within : ∀ c ∈ locateFrom span.start cs, decide (c.offset < span.stop) = true := by
      intro c member
      have early := Text.offset_lt_of_mem_locateFrom member
      rw [← stop] at early
      exact decide_eq_true early
    rw [Text.before, List.takeWhile_eq_self_iff.2 within, Text.map_char_locateFrom]
  have stop : span.Holds span.stop := ⟨stands.order, Nat.le_refl _⟩
  have start : span.Holds span.start := ⟨Nat.le_refl _, stands.order⟩
  rw [stands.before_eq stop, stands'.before_eq stop,
    all inner (stands.start ▸ stands.stop), all inner' (stands'.start ▸ stands'.stop)] at same
  have fronts : front' = front :=
    eq_of_byteLength same (stands'.start.symm.trans stands.start)
  rw [fronts] at same
  have inners := List.append_cancel_left same
  refine ⟨inners, ?_⟩
  rw [Text.positionAt, Text.positionAt, stands.before_eq start, stands'.before_eq start, fronts,
    inners]

/-- A statement whose URIs close all the quotes in them is isolated. -/
theorem isolated_of_closed (member : span ∈ splitStatements s)
    (closed : ∀ m ∈ lexemesMet s span, m.Closed) : Isolated s span := by
  obtain ⟨front, inner, behind, stands⟩ := exists_stands member
  obtain ⟨lexed, met⟩ := stands.lex_eq (.inl closed)
  constructor
  case own =>
    intro t there text place
    obtain ⟨front', inner', behind', stands'⟩ := exists_stands there
    rw [stands.slice_whole, stands'.slice_whole] at text
    obtain rfl := String.ofList_injective text
    exact readSpan_eq stands stands' closed place
  case behind =>
    intro t there same
    obtain ⟨front', inner', behind', stands'⟩ := exists_stands there
    obtain ⟨rfl, place⟩ := eq_of_before_eq stands stands' same
    exact readSpan_eq stands stands' closed place
  case inside =>
    intro m here c taken
    rw [met] at here
    exact stands.inner_within c (mem_of_mem_metFrom here c taken)
  case tokens =>
    intro tokens read
    rw [lexed] at read
    rw [met]
    exact eq_of_lexFrom read

/-- A statement with a URI that holds a quoted text, and another statement behind it. -/
theorem isolated_of_closed_quoted :
    ⟨0, 32⟩ ∈ splitStatements "GET p FROM c://'x' WHERE n = 'p'\nb = a" ∧
      Isolated "GET p FROM c://'x' WHERE n = 'p'\nb = a" ⟨0, 32⟩ := by
  have member : ⟨0, 32⟩ ∈ splitStatements
      "GET p FROM c://'x' WHERE n = 'p'\nb = a" := by decide +kernel
  exact ⟨member, isolated_of_closed member (by decide +kernel)⟩

/-- Behind a URI that leaves a quote open, a quoted text is read beyond its statement. -/
theorem readSpan_reads_behind :
    ¬∀ (text other : String) (span : Source.Span),
      span ∈ splitStatements (stripComments text) → span ∈ splitStatements (stripComments other) →
      Text.before (Text.locate (stripComments other)) span.stop =
        Text.before (Text.locate (stripComments text)) span.stop →
      readSpan (stripComments other) span = readSpan (stripComments text) span := by
  intro isolated
  have same := isolated "GET p FROM c://h'x WHERE n = 'p\nq'"
    "GET p FROM c://h'x WHERE n = 'p" ⟨0, 31⟩ (by decide +kernel)
    (by decide +kernel) (by decide +kernel)
  have read := congrArg Except.isOk same
  revert read
  decide +kernel

end Script
end ThreatHunt
