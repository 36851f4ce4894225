import ThreatHunt.Hunt.Planning
import ThreatHunt.Proofs.Pattern.Resolved
import ThreatHunt.Proofs.Variables.Lineage

/-!
What a finished plan tells: which checks its statement has passed, which tables were read, and what
the plan is made of. One statement for each command; proofs about plans start from these.
-/

namespace ThreatHunt.Scene

open Outcome

variable {s : Scene} {plan : Plan}

theorem tableOf_eq_ok {v : Variable} {t : Table} :
    s.tableOf v = .ok t ↔
      ∃ st, s.store.find? v.handle = some st ∧ t = ⟨v.entityType, v.schema, st.rows⟩ := by
  simp only [tableOf, Store.table, Store.get]
  cases s.store.find? v.handle with
  | none => simp [Functor.map, Except.map]
  | some st => simp [Functor.map, Except.map, Table.ofSchema, eq_comm]

/-- What a comparison becomes: itself, or one with the values that a reference stands for. -/
inductive ResolvesTo (s : Scene) (c : Comparison) : Comparison → Prop
  | plain : (∀ name attr, c.operand ≠ .reference name attr) → ResolvesTo s c c
  | reference {name attr : String} {v : Variable} {operator : Operator} {t : Table} :
    c.operand = .reference name attr → s.vars.find? name = some v →
    (v.schema.columns.isEmpty = true ∨ v.schema.has attr = true) →
    membership? c.operator = some operator → s.tableOf v = .ok t →
    ResolvesTo s c { c with operator := operator, operand := .list (t.distinctValues attr) }

theorem resolveComparison_eq_ok {c d : Comparison} :
    s.resolveComparison c = .ok d ↔ s.ResolvesTo c d := by
  constructor
  · intro made
    unfold resolveComparison at made
    split at made
    · rename_i name attr refers
      obtain ⟨v, found, rest⟩ := bind_eq_ok.1 made
      obtain ⟨known, rest⟩ := guard_eq_ok.1 rest
      split at rest
      · cases rest
      · rename_i operator member
        obtain ⟨t, read, rest⟩ := bind_eq_ok.1 rest
        rw [← pure_eq_ok.1 rest]
        refine .reference refers (Variables.resolve_eq_ok.1 found) ?_ member read
        cases empty : v.schema.columns.isEmpty <;> simp_all
    · rename_i plain
      rw [← Except.ok.inj made]
      exact .plain plain
  · rintro (plain | ⟨refers, found, has, member, read⟩)
    · unfold resolveComparison
      split
      · rename_i name attr refers
        exact absurd refers (plain name attr)
      · rfl
    · unfold resolveComparison
      rw [refers, member]
      refine bind_eq_ok.2 ⟨_, Variables.resolve_eq_ok.2 found, guard_eq_ok.2 ⟨?_, ?_⟩⟩
      · rcases has with none | has
        · simp [none]
        · simp [has]
      · exact bind_eq_ok.2 ⟨_, read, rfl⟩

theorem preparePattern_eq_ok {entityType : String} {p : Pattern} {prepared : Option Pattern} :
    s.preparePattern entityType (some p) = .ok prepared ↔
      ∃ checked, p.checkTypes entityType = .ok checked ∧
        ∃ q, s.resolvePattern p = .ok q ∧ some q = prepared := by
  simp only [preparePattern, bind_eq_ok, map_eq_ok]

theorem prepareRefinement_eq_ok {entityType : String} {r prepared : Refinement} :
    s.prepareRefinement entityType r = .ok prepared ↔
      ∃ pattern, s.preparePattern entityType r.pattern = .ok pattern ∧
        { r with pattern := pattern } = prepared := by
  simp only [prepareRefinement, bind_eq_ok, pure_eq_ok]

theorem variablePart_eq_ok {p : Option Pattern} {w : Option Window} {v : Variable} {part : Table} :
    s.variablePart p w v = .ok part ↔
      ∃ t, s.tableOf v = .ok t ∧ ∃ checked, Pattern.checkKinds? t.schema p = .ok checked ∧
        Table.ofSchema t.schema (Table.matching s.config.timeAttributes p w t.rows) = part := by
  simp only [variablePart, bind_eq_ok, pure_eq_ok]

theorem moduleOperands_eq_ok {inputs : List String}
    {operands : List (Variable × String × Table)} :
    s.moduleOperands inputs = .ok operands ↔
      List.Forall₂ (fun name o => ∃ v, s.operand (some name) = .ok v ∧
        ∃ t, s.tableOf v = .ok t ∧ (v, name, t) = o) inputs operands := by
  simp only [moduleOperands, mapM_eq_ok, bind_eq_ok, pure_eq_ok]

theorem planAssign_eq_ok {input : String} :
    s.planAssign input = .ok plan ↔
      ∃ v, s.operand (some input) = .ok v ∧ ∃ t, s.tableOf v = .ok t ∧
        .ready (s.single t [v.id] []) = plan := by
  simp only [planAssign, bind_eq_ok, pure_eq_ok]

theorem planRefine_eq_ok {input : String} {r : Refinement} :
    s.planRefine input r = .ok plan ↔
      ∃ v, s.operand (some input) = .ok v ∧ ∃ t, s.tableOf v = .ok t ∧
        ∃ prepared, s.prepareRefinement v.entityType r = .ok prepared ∧
        ∃ refined, Table.refine s.config.defaultOrder t prepared = .ok refined ∧
        .ready (s.single refined (addNodes [v.id] (s.referencedNodes? r.pattern)) []) = plan := by
  simp only [planRefine, bind_eq_ok, pure_eq_ok]

theorem planSort_eq_ok {input : Option String} {key : SortKey} :
    s.planSort input key = .ok plan ↔
      ∃ v, s.operand input = .ok v ∧ ∃ t, s.tableOf v = .ok t ∧
        ∃ checked, t.schema.checkAttributes [key.attr] "SORT" = .ok checked ∧
        .ready (s.single (Table.ofSchema t.schema (Table.sortRows key.attr
          (key.order.getD s.config.defaultOrder) t.rows)) [v.id] []) = plan := by
  simp only [planSort, bind_eq_ok, pure_eq_ok]

theorem planGroup_eq_ok {input : Option String} {keys : List String}
    {aggregations : List Aggregation} :
    s.planGroup input keys aggregations = .ok plan ↔
      ∃ v, s.operand input = .ok v ∧ ∃ t, s.tableOf v = .ok t ∧
        ∃ checked, t.schema.checkAttributes keys "GROUP BY" = .ok checked ∧
        ∃ sound, Aggregation.checkAll t.schema (Table.aggregationsOrCount aggregations) = .ok sound ∧
        .ready (s.single (Table.ofRows v.entityType (Table.groupRows keys aggregations t.rows))
          [v.id] []) = plan := by
  simp only [planGroup, bind_eq_ok, pure_eq_ok]

/-- The schema of a join. -/
def joinSchema (a b : Variable) (left right : Table) : Schema :=
  { (Schema.unify [left.schema, right.schema]).schema with
    entityType := if a.entityType = genericType then b.entityType else a.entityType }

theorem planJoin_eq_ok {left right : String} {keys : Option (String × String)} :
    s.planJoin left right keys = .ok plan ↔
      ∃ a, s.operand (some left) = .ok a ∧ ∃ b, s.operand (some right) = .ok b ∧
        ¬(!compatibleTypes a.entityType b.entityType) = true ∧
        ∃ l, s.tableOf a = .ok l ∧ ∃ r, s.tableOf b = .ok r ∧
        ∃ found, l.schema.checkAttributes [(joinKeys keys).1] "JOIN" = .ok found ∧
        ∃ there, r.schema.checkAttributes [(joinKeys keys).2] "JOIN" = .ok there ∧
        .ready { s.single (Table.ofSchema (joinSchema a b l r)
            (Table.conformRows (joinSchema a b l r)
              (Table.joinRows l r (joinKeys keys).1 (joinKeys keys).2))) [a.id, b.id] [] with
          warnings := (Schema.unify [l.schema, r.schema]).conflicts.map Warning.conflict } =
        plan := by
  simp only [planJoin, bind_eq_ok, guard_eq_ok, pure_eq_ok, joinSchema]

theorem mergeOperands_cons_eq_ok {first name : String} {head : Option Table} {rest : List String}
    {operands : List (Variable × Table)} :
    s.mergeOperands first head (name :: rest) = .ok operands ↔
      ∃ v, s.operand (some name) = .ok v ∧
        (∀ t, head = some t → compatibleTypes t.entityType v.entityType = true) ∧
        ∃ t, s.tableOf v = .ok t ∧
        ∃ others, s.mergeOperands first (head.orElse (fun _ => some t)) rest = .ok others ∧
        (v, t) :: others = operands := by
  cases head with
  | none => simp [mergeOperands, bind_eq_ok, map_eq_ok]
  | some t => simp [mergeOperands, bind_eq_ok, guard_eq_ok, map_eq_ok]

/-- The schema of merged tables. -/
def mergeSchema (tables : List Table) : Schema :=
  let unified := (Schema.unify (tables.map Table.schema)).schema
  { unified with entityType := mergeType unified.entityType tables }

/-- The union of tables under their merged schema. -/
def mergedTable (tables : List Table) : Table :=
  Table.ofSchema (mergeSchema tables)
    (Table.conformRows (mergeSchema tables) (Table.unionRows tables))

theorem planMerge_eq_ok {inputs : List String} :
    s.planMerge inputs = .ok plan ↔
      ∃ operands, s.mergeOperands (inputs.head?.getD "") none inputs = .ok operands ∧
        .ready { (s.single (mergedTable (operands.map Prod.snd))
            (addNodes [] (operands.map (fun o => o.1.id))) []) with
          warnings := (Schema.unify ((operands.map Prod.snd).map Table.schema)).conflicts.map
            Warning.conflict } = plan := by
  simp only [planMerge, bind_eq_ok, pure_eq_ok, mergedTable, mergeSchema]

theorem planDisplay_eq_ok {input : Option String} {r : Refinement} :
    s.planDisplay input r = .ok plan ↔
      ∃ v, s.operand input = .ok v ∧ ∃ t, s.tableOf v = .ok t ∧
        ∃ prepared, s.prepareRefinement v.entityType r = .ok prepared ∧
        ∃ refined, Table.refine s.config.defaultOrder t prepared = .ok refined ∧
        .ready { display := some (Display.ofTable refined
          (Display.columnsOf refined.schema r.attrs)) } = plan := by
  simp only [planDisplay, bind_eq_ok, pure_eq_ok]

theorem planInfo_eq_ok {input : Option String} :
    s.planInfo input = .ok plan ↔
      ∃ v, s.operand input = .ok v ∧ ∃ ancestors, s.vars.lineage v.name = .ok ancestors ∧
        ∃ dependents, s.vars.dependents v.name = .ok dependents ∧
        .ready { display := some (.info (infoOf v ancestors dependents)) } = plan := by
  simp only [planInfo, bind_eq_ok, pure_eq_ok]

theorem planSave_eq_ok {input : Option String} {target : String} :
    s.planSave input target = .ok plan ↔
      ∃ v, s.operand input = .ok v ∧
        .save v.handle (Path.ofTarget s.config.storeRoot target) (fun rows =>
          { notes := [.saved rows v.name (Path.ofTarget s.config.storeRoot target)] }) = plan := by
  simp only [planSave, bind_eq_ok, pure_eq_ok]

theorem planLoad_eq_ok {target : String} {entityType : Option String} :
    s.planLoad target entityType = .ok plan ↔
      ∃ t : Table,
        TableFile.read s.disk (Path.ofTarget s.config.storeRoot target) entityType = .ok t ∧
        .ready (s.single t [] [Path.ofTarget s.config.storeRoot target]) = plan := by
  unfold planLoad
  generalize Path.ofTarget s.config.storeRoot target = path
  dsimp only
  cases TableFile.read s.disk path entityType with
  | ok t => simp
  | error trouble => simp

theorem planCreate_eq_ok {entityType : Option String} {records : List Json} :
    s.planCreate entityType records = .ok plan ↔
      ∃ typed, Records.typed entityType (records.map recordOf) = .ok typed ∧
        .ready (s.single (Table.ofRows typed.1 typed.2) [] []) = plan := by
  cases typed : Records.typed entityType (records.map recordOf) <;> simp [planCreate, typed]

theorem planApply_eq_ok {module : String} {inputs : List String}
    {params : List (String × Value)} :
    s.planApply module inputs params = .ok plan ↔
      ∃ m, s.modules.find? module = some m ∧
        ∃ operands, s.moduleOperands inputs = .ok operands ∧
        ∃ checked, m.input.checkAll m.name (operands.map Prod.snd) = .ok checked ∧
        .invoke m ⟨operands.map Prod.snd, Dict.ofList params⟩ (s.moduleProduct module inputs
          (addNodes [] (operands.map (fun o => o.1.id)))) = plan := by
  cases found : s.modules.find? module with
  | none => simp [planApply, found, throw, throwThe, MonadExceptOf.throw]
  | some m => simp only [planApply, found, bind_eq_ok, pure_eq_ok, Option.some.injEq,
      exists_eq_left']

/-- What a source adds to those that were found before it. -/
inductive Adds (s : Scene) (entityType : String) (found : Sources) : Source → Sources → Prop
  | connector {name : String} {c : Connector} : s.connectors.find? name = some c →
    Adds s entityType found (.named name) { found with connectors := found.connectors ++ [c] }
  | held {name : String} {v : Variable} : s.connectors.find? name = none →
    s.vars.find? name = some v → v.entityType = entityType →
    Adds s entityType found (.named name) { found with vars := found.vars ++ [v] }
  | registered {uri : String} {c : Connector} : s.registered? uri = some c →
    Adds s entityType found (.uri uri) { found with connectors := found.connectors ++ [c] }
  | bundle {uri : String} {c : Connector} : s.registered? uri = none →
    uri.startsWith Path.fileScheme = true → s.openBundle found.opened uri = .ok c →
    Adds s entityType found (.uri uri)
      { found with
        connectors := found.connectors ++ [c]
        opened := if found.opened.any (fun o => o.name == uri) then found.opened
          else found.opened ++ [c] }

theorem adds_of_addSource {entityType : String} {found after : Sources} {source : Source}
    (added : s.addSource entityType found source = .ok after) :
    s.Adds entityType found source after := by
  cases source with
  | named name =>
    simp only [addSource] at added
    split at added
    · rename_i c registered
      rw [← Except.ok.inj added]
      exact .connector registered
    · rename_i free
      split at added
      · rename_i v bound
        split at added
        · rename_i typed
          rw [← Except.ok.inj added]
          exact .held free bound typed
        · cases added
      · cases added
  | uri uri =>
    simp only [addSource] at added
    split at added
    · rename_i c registered
      rw [← Except.ok.inj added]
      exact .registered registered
    · rename_i missing
      split at added
      · rename_i file
        obtain ⟨c, opens, rest⟩ := bind_eq_ok.1 added
        rw [← pure_eq_ok.1 rest]
        exact .bundle missing file opens
      · cases added

theorem sourcesOf_eq_ok {entityType : String} {named : List Source} {sources : Sources}
    (found : s.sourcesOf entityType named = .ok sources) :
    (named = [] ∧ sources = ⟨s.connectors.forType entityType, [], []⟩) ∨
      (named ≠ [] ∧ named.foldlM (s.addSource entityType) ⟨[], [], []⟩ = .ok sources ∧
        checkSupport entityType sources.connectors = .ok ()) := by
  unfold sourcesOf at found
  split at found
  · rename_i empty
    exact .inl ⟨List.isEmpty_iff.1 empty, (Except.ok.inj found).symm⟩
  · rename_i some
    obtain ⟨all, folded, rest⟩ := bind_eq_ok.1 found
    obtain ⟨_, supported, rest⟩ := bind_eq_ok.1 rest
    obtain rfl := pure_eq_ok.1 rest
    exact .inr ⟨fun none => some (List.isEmpty_iff.2 none), folded, supported⟩

theorem planGet_eq_ok {entityType : String} {named : List Source} {pattern : Option Pattern}
    {span : Option TimeSpan} {limit : Option Nat}
    (planned : s.planGet entityType named pattern span limit = .ok plan) :
    ∃ sources prepared window parts,
      checkLimit limit = .ok () ∧ s.sourcesOf entityType named = .ok sources ∧
      s.preparePattern entityType pattern = .ok prepared ∧ Pattern.check? prepared = .ok () ∧
      s.window span = .ok window ∧
      List.Forall₂ (fun v t => s.variablePart prepared window v = .ok t) sources.vars parts ∧
      let lineage := addNodes (s.referencedNodes? pattern) (sources.vars.map Variable.id)
      ((sources.connectors = [] ∧ sources.vars ≠ [] ∧
          plan = .ready (s.fetchProduct entityType limit sources lineage parts none)) ∨
        (sources.connectors ≠ [] ∧
          plan = .fetch ⟨entityType, prepared, window, limit⟩ sources.connectors
            (fun fetched =>
              s.fetchProduct entityType limit sources lineage parts (some fetched)))) := by
  simp only [planGet, bind_eq_ok, mapM_eq_ok] at planned
  obtain ⟨_, limited, sources, found, prepared, ready, _, checked, window, span, parts, read,
    rest⟩ := planned
  refine ⟨sources, prepared, window, parts, limited, found, ready, checked, span, read, ?_⟩
  by_cases none : sources.connectors = []
  · by_cases alone : sources.vars = []
    · simp [none, alone, throw, throwThe, MonadExceptOf.throw] at rest
    · simp only [none, alone, List.isEmpty_iff, List.isEmpty_nil, Bool.true_and, Bool.not_eq_true',
        ← Bool.not_eq_true, not_false_eq_true, if_true, pure_eq_ok] at rest
      exact .inl ⟨none, alone, rest.symm⟩
  · simp only [none, List.isEmpty_iff, Bool.and_eq_true, false_and, if_false, pure_eq_ok] at rest
    exact .inr ⟨none, rest.symm⟩

theorem planBetween_eq_ok {relation first second : String} {span : Option TimeSpan}
    (planned : s.planBetween relation first second span = .ok plan) :
    ∃ a b window source target,
      s.operand (some first) = .ok a ∧ s.operand (some second) = .ok b ∧
      s.checkRelation relation = .ok () ∧
      s.checkConnects relation a.entityType b.entityType = .ok () ∧
      s.window span = .ok window ∧ s.tableOf a = .ok source ∧ s.tableOf b = .ok target ∧
      let finish := fun (edges : List Edge) => s.single (Table.ofSchema target.schema
        (Relation.reached relation edges source.ids target.rows)) [a.id, b.id] []
      plan = if source.isEmpty || target.isEmpty then .ready (finish [])
        else s.planEdges relation source target window finish := by
  simp only [planBetween, bind_eq_ok] at planned
  obtain ⟨a, first, b, second, _, known, _, connects, window, span, source, left, target, right,
    rest⟩ := planned
  refine ⟨a, b, window, source, target, first, second, known, connects, span, left, right, ?_⟩
  split at rest <;> simp_all [pure_eq_ok]

/-- What is found around a variable by the edges that count. -/
def foundAround (s : Scene) (relation : String) (prepared : Option Pattern)
    (window : Option Window) (limit : Option Nat) (pool around : Table) (lineage : List Nat)
    (edges : List Edge) : Product :=
  s.single ((Table.ofSchema pool.schema (Table.matching s.config.timeAttributes prepared window
    (Relation.reached relation edges around.ids pool.rows))).limit limit) lineage []

/-- The relation must connect the types in the direction of the search. -/
def checkDirection (s : Scene) (relation : String) (reversed : Bool) (sought center : String) :
    Except HuntError Unit :=
  if reversed then s.checkConnects relation center sought
  else s.checkConnects relation sought center

/-- The plan of a search around a variable, once all tables are read. -/
def planAround (s : Scene) (relation : String) (reversed : Bool) (pool around : Table)
    (window : Option Window) (finish : List Edge → Product) : Plan :=
  if pool.isEmpty || around.isEmpty then .ready (finish [])
  else if reversed then s.planEdges relation around pool window finish
  else s.planEdges relation pool around window (fun edges => finish (edges.map Relation.reverse))

/-- The two directions of a search differ in what is checked and in which edges are collected. -/
theorem planRelated_eq (s : Scene) (entityType relation : String) (reversed : Bool) (input : String)
    (pattern : Option Pattern) (span : Option TimeSpan) (limit : Option Nat) :
    s.planRelated entityType relation reversed input pattern span limit = (do
      checkLimit limit
      let center ← s.operand (some input)
      s.checkRelation relation
      s.checkDirection relation reversed entityType center.entityType
      let prepared ← s.preparePattern entityType pattern
      Pattern.check? prepared
      let window ← s.window span
      let tables ← (s.variablesOfType entityType).mapM s.tableOf
      Pattern.checkKinds? (pool entityType tables).schema prepared
      let around ← s.tableOf center
      return s.planAround relation reversed (pool entityType tables) around window
        (s.foundAround relation prepared window limit (pool entityType tables) around
          (relatedLineage (s.referencedNodes? pattern)
            ((s.variablesOfType entityType).map Variable.id) center.id))) := by
  unfold planRelated
  simp only [checkDirection, planAround, apply_ite (pure : Plan → Except HuntError Plan)]
  cases reversed <;> rfl

theorem planRelated_eq_ok {entityType relation : String} {reversed : Bool} {input : String}
    {pattern : Option Pattern} {span : Option TimeSpan} {limit : Option Nat}
    (planned : s.planRelated entityType relation reversed input pattern span limit = .ok plan) :
    ∃ center prepared window tables around,
      checkLimit limit = .ok () ∧ s.operand (some input) = .ok center ∧
      s.checkRelation relation = .ok () ∧
      (if reversed then s.checkConnects relation center.entityType entityType
        else s.checkConnects relation entityType center.entityType) = .ok () ∧
      s.preparePattern entityType pattern = .ok prepared ∧ Pattern.check? prepared = .ok () ∧
      s.window span = .ok window ∧
      List.Forall₂ (fun v t => s.tableOf v = .ok t) (s.variablesOfType entityType) tables ∧
      Pattern.checkKinds? (pool entityType tables).schema prepared = .ok () ∧
      s.tableOf center = .ok around ∧
      let finish := s.foundAround relation prepared window limit (pool entityType tables) around
        (relatedLineage (s.referencedNodes? pattern)
          ((s.variablesOfType entityType).map Variable.id) center.id)
      plan = if (pool entityType tables).isEmpty || around.isEmpty then .ready (finish [])
        else if reversed then s.planEdges relation around (pool entityType tables) window finish
        else s.planEdges relation (pool entityType tables) around window
          (fun edges => finish (edges.map Relation.reverse)) := by
  rw [planRelated_eq] at planned
  simp only [bind_eq_ok, mapM_eq_ok, pure_eq_ok] at planned
  obtain ⟨_, limited, center, input, _, known, _, connects, prepared, ready, _, checked, window,
    span, tables, read, _, kinds, around, there, rest⟩ := planned
  exact ⟨center, prepared, window, tables, around, limited, input, known, connects, ready, checked,
    span, read, kinds, there, rest.symm⟩

/-- No plan for edges fetches entities. -/
theorem planEdges_ne_fetch {q : EntityQuery} {relation : String} {source target : Table}
    {window : Option Window} {make : List Edge → Product} {connectors : List Connector}
    {finish : Fetched → Product} :
    s.planEdges relation source target window make ≠ .fetch q connectors finish := by
  unfold planEdges
  dsimp only
  split <;> nofun

/-- Only a statement for entities of a type fetches from connectors. -/
theorem get_of_fetch {q : EntityQuery} {connectors : List Connector} {finish : Fetched → Product}
    (planned : s.plan = .ok (.fetch q connectors finish)) :
    ∃ entityType named pattern span limit,
      s.statement.statement.command = .get entityType named pattern span limit ∧
      s.planGet entityType named pattern span limit = .ok (.fetch q connectors finish) := by
  unfold plan at planned
  generalize s.statement.statement.command = command at planned ⊢
  cases command with
  | get entityType named pattern span limit =>
    exact ⟨entityType, named, pattern, span, limit, rfl, planned⟩
  | findBetween =>
    obtain ⟨_, _, _, _, _, _, _, _, _, _, _, _, same⟩ := planBetween_eq_ok planned
    dsimp only at same
    split at same
    · cases same
    · exact absurd same.symm planEdges_ne_fetch
  | findRelated =>
    obtain ⟨_, _, _, _, _, _, _, _, _, _, _, _, _, _, _, same⟩ := planRelated_eq_ok planned
    dsimp only at same
    split at same
    · cases same
    · split at same <;> exact absurd same.symm planEdges_ne_fetch
  | join =>
    obtain ⟨_, _, _, _, _, _, _, _, _, _, _, _, _, same⟩ := planJoin_eq_ok.1 planned
    cases same
  | sort =>
    obtain ⟨_, _, _, _, _, _, same⟩ := planSort_eq_ok.1 planned
    cases same
  | group =>
    obtain ⟨_, _, _, _, _, _, _, _, same⟩ := planGroup_eq_ok.1 planned
    cases same
  | refine =>
    obtain ⟨_, _, _, _, _, _, _, _, same⟩ := planRefine_eq_ok.1 planned
    cases same
  | merge =>
    obtain ⟨_, _, same⟩ := planMerge_eq_ok.1 planned
    cases same
  | assign =>
    obtain ⟨_, _, _, _, same⟩ := planAssign_eq_ok.1 planned
    cases same
  | apply =>
    obtain ⟨_, _, _, _, _, _, same⟩ := planApply_eq_ok.1 planned
    cases same
  | display =>
    obtain ⟨_, _, _, _, _, _, _, _, same⟩ := planDisplay_eq_ok.1 planned
    cases same
  | info =>
    obtain ⟨_, _, _, _, _, _, same⟩ := planInfo_eq_ok.1 planned
    cases same
  | save =>
    obtain ⟨_, _, same⟩ := planSave_eq_ok.1 planned
    cases same
  | load =>
    obtain ⟨_, _, same⟩ := planLoad_eq_ok.1 planned
    cases same
  | create =>
    obtain ⟨_, _, same⟩ := planCreate_eq_ok.1 planned
    cases same

end ThreatHunt.Scene

/-!
Errors of clauses. Most statements name variables, and many have a pattern, a window, a limit or
attributes. What can be wrong with these is told once here, for all statements.
-/

namespace ThreatHunt

open Outcome

/-- The errors of operands, patterns, windows, limits and attributes. -/
inductive HuntError.OfClause : HuntError → Prop where
  | undefinedVariable (name : String) : OfClause (.undefinedVariable name)
  | unknownTable (handle : TableHandle) : OfClause (.store (.unknownTable handle))
  | unknownAttribute (clause entityType attr : String) :
    OfClause (.senseless (.unknownAttribute clause entityType attr))
  | foreignPrefix (written attr entityType : String) :
    OfClause (.senseless (.foreignPrefix written attr entityType))
  | ordering (attr : String) (kind : Kind) (value : Value) :
    OfClause (.typeMismatch (.ordering attr kind value))
  | unknownReference (variableName attr : String) :
    OfClause (.senseless (.unknownReference variableName attr))
  | referenceOperand (operator : Operator) (variableName attr : String) :
    OfClause (.senseless (.referenceOperand operator variableName attr))
  | windowRange (amount : Int) (unit : TimeUnit) : OfClause (.senseless (.windowRange amount unit))
  | zeroLimit : OfClause (.senseless .zeroLimit)

theorem Schema.checkAttributes_fails (schema : Schema) (attrs : List String) (clause : String) :
    ∀ e, schema.checkAttributes attrs clause = .error e → e.OfClause := by
  intro e failed
  unfold checkAttributes at failed
  split at failed
  · nomatch failed
  · split at failed
    · exact Except.error.inj failed ▸ .unknownAttribute ..
    · nomatch failed

namespace Scene

variable {s : Scene}

theorem resolve_fails (vs : Variables) (name : String) :
    ∀ e, vs.resolve name = .error e → e.OfClause := by
  intro e failed
  unfold Variables.resolve at failed
  split at failed
  · nomatch failed
  · exact Except.error.inj failed ▸ .undefinedVariable name

theorem operand_fails (name : Option String) : ∀ e, s.operand name = .error e → e.OfClause :=
  resolve_fails s.vars _

theorem tableOf_fails (v : Variable) : ∀ e, s.tableOf v = .error e → e.OfClause := by
  intro e failed
  simp only [tableOf, Store.table, Store.get] at failed
  cases found : s.store.find? v.handle with
  | some t =>
    rw [found] at failed
    nomatch failed
  | none =>
    rw [found] at failed
    exact Except.error.inj failed ▸ .unknownTable v.handle

theorem checkLimit_fails (limit : Option Nat) : ∀ e, checkLimit limit = .error e → e.OfClause := by
  intro e failed
  unfold checkLimit at failed
  split at failed
  · exact Except.error.inj failed ▸ .zeroLimit
  · nomatch failed

theorem window_fails (span : Option TimeSpan) : ∀ e, s.window span = .error e → e.OfClause := by
  intro e failed
  unfold window at failed
  split at failed
  · nomatch failed
  · split at failed
    · nomatch failed
    · exact Except.error.inj failed ▸ .windowRange ..
    · nomatch failed

theorem resolveComparison_fails (c : Comparison) :
    ∀ e, s.resolveComparison c = .error e → e.OfClause := by
  unfold resolveComparison
  split
  · apply fails_bind (resolve_fails s.vars _)
    intro v
    dsimp only
    refine fails_guard (HuntError.OfClause.unknownReference ..) ?_
    split
    · exact fun _ failed => Except.error.inj failed ▸ .referenceOperand ..
    · exact fails_bind (tableOf_fails v) (fun _ _ failed => nomatch failed)
  · exact fun _ failed => nomatch failed

theorem preparePattern_fails (entityType : String) (pattern : Option Pattern) :
    ∀ e, s.preparePattern entityType pattern = .error e → e.OfClause := by
  cases pattern with
  | none => exact fun _ failed => nomatch failed
  | some p =>
    refine fails_bind ?_ (fun _ => fails_map (Pattern.mapM_fails resolveComparison_fails p))
    intro e failed
    obtain ⟨written, attr, rfl⟩ := Pattern.checkTypes_fails failed
    exact .foreignPrefix ..

theorem checkKinds?_fails (schema : Schema) (p : Option Pattern) :
    ∀ e, Pattern.checkKinds? schema p = .error e → e.OfClause := by
  intro e failed
  cases p with
  | none => nomatch failed
  | some p =>
    rcases Pattern.checkKinds_fails failed with ⟨_, _, rfl⟩ | ⟨_, _, _, _, _, _, _, _, rfl⟩
    · exact .foreignPrefix ..
    · exact .ordering ..

end Scene
end ThreatHunt
