import ThreatHunt.Proofs.Hunt.Fetched
import ThreatHunt.Proofs.Hunt.Sources

/-!
Connectors that are replaced. A name may go from one connector to another, but answers are kept
under names. So what a fetch merges was answered by the connector that bore the name when it was
asked, which need not be the one that bears it now.
-/

namespace ThreatHunt

/-- What happens to the names of connectors: one is given to a connector, for good or for the
statement that opens it, or the connector that bears it is asked. -/
inductive Incident where
  | named (c : Connector)
  | asked (a : Asking)

namespace Incident

variable {trace before after : List Incident} {name : String} {c : Connector}

/-- The connector to which an incident gives a name. -/
def namedAs? (name : String) : Incident → Option Connector
  | .named c => if c.name = name then some c else none
  | .asked _ => none

/-- The connector to which a name was given last. -/
def bearer? (trace : List Incident) (name : String) : Option Connector :=
  (trace.filterMap (namedAs? name)).getLast?

theorem bearer?_append (before after : List Incident) (name : String) :
    bearer? (before ++ after) name = (bearer? after name).or (bearer? before name) := by
  rw [bearer?, List.filterMap_append, List.getLast?_append]
  rfl

theorem mem_namedAs? {d : Connector} (member : d ∈ trace.filterMap (namedAs? name)) :
    .named d ∈ trace ∧ d.name = name := by
  obtain ⟨incident, there, gives⟩ := List.mem_filterMap.1 member
  cases incident with
  | asked a => cases gives
  | named c =>
    unfold namedAs? at gives
    dsimp only at gives
    split at gives
    · rename_i same
      exact Option.some.inj gives ▸ ⟨there, same⟩
    · cases gives

theorem bearer?_of_unnamed (unnamed : ∀ d, .named d ∈ trace → d.name ≠ name) :
    bearer? trace name = none := by
  apply List.getLast?_eq_none_iff.2
  apply List.eq_nil_iff_forall_not_mem.2
  intro d member
  obtain ⟨there, same⟩ := mem_namedAs? member
  exact unnamed d there same

theorem bearer?_of_named (given : .named c ∈ trace) (only : ∀ d, .named d ∈ trace →
    d.name = c.name → d = c) : bearer? trace c.name = some c := by
  have member : c ∈ trace.filterMap (namedAs? c.name) :=
    List.mem_filterMap.2 ⟨_, given, if_pos rfl⟩
  cases last : bearer? trace c.name with
  | none =>
    rw [List.getLast?_eq_none_iff.1 last] at member
    exact absurd member List.not_mem_nil
  | some d =>
    obtain ⟨there, same⟩ := mem_namedAs? (List.mem_of_getLast? last)
    rw [only d there same]

/-- A name stays with its bearer if it is given to no other. -/
theorem bearer?_append_of_same (borne : bearer? before name = some c)
    (same : ∀ d, .named d ∈ after → d.name = name → d = c) :
    bearer? (before ++ after) name = some c := by
  rw [bearer?_append]
  cases last : bearer? after name with
  | none => exact borne
  | some d =>
    obtain ⟨there, named⟩ := mem_namedAs? (List.mem_of_getLast? last)
    exact congrArg some (same d there named)

/-- A request in a trace that was answered, and what has happened since. Its connector bore the name
under which the answer is kept. -/
structure Answered (trace : List Incident) (key : FetchKey) (response : Response) (a : Asking)
    (since : List Incident) : Prop where
  happened : ∃ before, trace = before ++ .asked a :: since ∧
    bearer? before key.connector = some a.connector
  key : a.key = key
  answer : a.answer = .given response

variable {key : FetchKey} {response : Response} {a : Asking} {since : List Incident}

theorem Answered.later (answered : Answered trace key response a since) (more : List Incident) :
    Answered (trace ++ more) key response a (since ++ more) where
  happened := by
    obtain ⟨before, rfl, borne⟩ := answered.happened
    exact ⟨before, List.append_assoc .., borne⟩
  key := answered.key
  answer := answered.answer

/-- The name is borne by the last to which it was given since, or else by the one that answered. -/
theorem Answered.bearer (answered : Answered trace key response a since) :
    bearer? trace key.connector = (bearer? since key.connector).or (some a.connector) := by
  obtain ⟨before, rfl, borne⟩ := answered.happened
  rw [bearer?_append, borne]
  rfl

/-- Whether registered connectors are the last to which their names were given. -/
def Borne (r : Registry) (trace : List Incident) : Prop :=
  ∀ name c, r.find? name = some c → bearer? trace name = some c

theorem Borne.register {r : Registry} (borne : Borne r trace) (c : Connector) :
    Borne (r.register c) (trace ++ [.named c]) := by
  intro name d found
  rw [Registry.find?_register] at found
  rw [bearer?_append]
  split at found
  · rename_i same
    have given : bearer? [.named c] c.name = some c := by
      apply bearer?_of_named (List.mem_singleton_self _)
      intro e only _
      exact Incident.named.inj (List.mem_singleton.1 only)
    rw [← found, ← same, given]
    rfl
  · rename_i other
    have silent : bearer? [.named c] name = none := by
      apply bearer?_of_unnamed
      intro e only
      exact Incident.named.inj (List.mem_singleton.1 only) ▸ other
    rw [silent]
    exact borne name d found

theorem Borne.registerAll {r : Registry} (borne : Borne r trace) (cs : List Connector) :
    Borne (cs.foldl Registry.register r) (trace ++ cs.map .named) := by
  induction cs generalizing r trace with
  | nil => exact (List.append_nil trace).symm ▸ borne
  | cons c rest ih =>
    rw [List.map_cons, List.append_cons]
    exact ih (borne.register c)

theorem borne_empty : Borne Registry.empty trace := by
  intro name c found
  cases found

/-- Names that are not registered may be given to anyone. -/
theorem Borne.append {r : Registry} (borne : Borne r before)
    (free : ∀ d, .named d ∈ after → r.find? d.name = none) : Borne r (before ++ after) := by
  intro name c found
  apply bearer?_append_of_same (borne name c found)
  intro d member same
  rw [← same, free d member] at found
  cases found

end Incident

namespace Hunt

open Incident (Answered Borne bearer?)

variable {h : Hunt} {now : Moment} {statement : PlacedStatement} {trace : List Incident}
  {q : EntityQuery} {connectors : List Connector} {finish : Fetched → Product}

/-- The connectors of a fetch that are opened for it, since nothing is registered under their
names. -/
def opened (h : Hunt) (connectors : List Connector) : List Connector :=
  connectors.filter (fun c => (h.connectors.find? c.name).isNone)

/-- What happens to the names of connectors while a plan is performed. -/
def performed (h : Hunt) (now : Moment) : Plan → List Incident
  | .fetch q connectors _ =>
    (h.opened connectors).map .named ++ (h.exchange.made now.millis q connectors).map .asked
  | _ => []

/-- The connectors that a plan registers: those of its product, if this takes effect. -/
def registers (h : Hunt) (now : Moment) (statement : PlacedStatement) (plan : Plan) :
    List Connector :=
  match (h.perform now plan).2, (h.run now statement).2 with
  | .ok product, .ok _ => product.connectors
  | _, _ => []

/-- What happens to the names of connectors while a statement runs. -/
def incidents (h : Hunt) (now : Moment) (statement : PlacedStatement) : List Incident :=
  match (h.scene now.time statement).plan with
  | .error _ => []
  | .ok plan => h.performed now plan ++ (h.registers now statement plan).map .named

/-- The hunts that a host can bring about, each with all that happened to the names of connectors.
Files may change and kept answers may be dropped at any time. -/
inductive Traced : List Incident → Hunt → Prop where
  | start (config : Config) (disk : Disk) : Traced [] (start config disk)
  | registerConnector {trace : List Incident} {h : Hunt} (before : Traced trace h) (c : Connector) :
      Traced (trace ++ [.named c]) (h.registerConnector c)
  | registerModule {trace : List Incident} {h : Hunt} (before : Traced trace h) (m : Module) :
      Traced trace (h.registerModule m)
  | run {trace : List Incident} {h : Hunt} (before : Traced trace h) (now : Moment)
      (statement : PlacedStatement) :
      Traced (trace ++ h.incidents now statement) (h.run now statement).1
  | close {trace : List Incident} {h : Hunt} (before : Traced trace h) : Traced trace h.close.1
  | meanwhile {trace : List Incident} {h : Hunt} (before : Traced trace h) (disk : Disk) :
      Traced trace { h with disk := disk }
  | clear {trace : List Incident} {h : Hunt} (before : Traced trace h) :
      Traced trace { h with exchange := { h.exchange with cache := h.exchange.cache.clear } }

theorem Traced.reachable (traced : Traced trace h) : h.Reachable := by
  induction traced with
  | start config disk => exact .start config disk
  | registerConnector _ c ih => exact ih.registerConnector c
  | registerModule _ m ih => exact ih.registerModule m
  | run _ now statement ih => exact ih.run now statement
  | close _ ih => exact ih.close
  | @meanwhile _ h _ disk ih => exact ih.meanwhile h.exchange disk
  | @clear _ h _ ih => exact ih.meanwhile _ h.disk

/-- No request is running, registered connectors bear their names, and what is kept was answered by
a connector that bore its name then. -/
structure Accounted (trace : List Incident) (h : Hunt) : Prop where
  idle : h.exchange.cache.flights = []
  borne : Borne h.connectors trace
  kept : ∀ e ∈ h.exchange.cache.entries, ∃ a since, Answered trace e.key e.response a since

theorem Accounted.later (accounted : Accounted trace h) {more : List Incident} {after : Hunt}
    (cache : after.exchange.cache = h.exchange.cache)
    (borne : Borne after.connectors (trace ++ more)) : Accounted (trace ++ more) after where
  idle := cache ▸ accounted.idle
  borne := borne
  kept := fun e member => by
    obtain ⟨a, since, answered⟩ := accounted.kept e (cache ▸ member)
    exact ⟨a, _, answered.later more⟩

/-- The connectors of a fetch are what their names stand for. -/
structure Stand (h : Hunt) (connectors : List Connector) : Prop where
  registered : ∀ c ∈ connectors, ∀ d, h.connectors.find? c.name = some d → d = c
  apart : Connector.Apart connectors

theorem stand_of_plan (named : h.connectors.Named)
    (planned : (h.scene now.time statement).plan = .ok (.fetch q connectors finish)) :
    h.Stand connectors := by
  obtain ⟨_, _, _, _, _, _, planned⟩ := Scene.get_of_fetch planned
  obtain ⟨sources, _, _, _, _, found, _, _, _, _, form⟩ := Scene.planGet_eq_ok planned
  rcases form with ⟨_, _, same⟩ | ⟨_, same⟩
  · cases same
  · obtain ⟨_, rfl, _⟩ := Plan.fetch.inj same
    have stand := Scene.standsFor_of_sourcesOf named found
    exact ⟨fun c member _ => (stand c member).registered, Scene.apart_of_sourcesOf named found⟩

theorem mem_opened {d : Connector} :
    d ∈ h.opened connectors ↔ d ∈ connectors ∧ h.connectors.find? d.name = none := by
  rw [opened, List.mem_filter, Option.isNone_iff_eq_none]

/-- Names are given only to connectors that are opened. -/
theorem opened_of_named {d : Connector}
    (member : .named d ∈ h.performed now (.fetch q connectors finish)) :
    d ∈ h.opened connectors := by
  rcases List.mem_append.1 member with named | asked
  · obtain ⟨c, there, same⟩ := List.mem_map.1 named
    exact Incident.named.inj same ▸ there
  · obtain ⟨a, _, same⟩ := List.mem_map.1 asked
    cases same

/-- While a fetch asks, each of its connectors bears its name. -/
theorem Stand.bearer (stand : h.Stand connectors) (borne : Borne h.connectors trace)
    {c : Connector} (member : c ∈ connectors) (asked : List Asking) :
    bearer? (trace ++ (h.opened connectors).map .named ++ asked.map .asked) c.name = some c := by
  have mine : ∀ d, .named d ∈ (h.opened connectors).map Incident.named →
      d ∈ connectors ∧ h.connectors.find? d.name = none := by
    intro d named
    obtain ⟨e, there, same⟩ := List.mem_map.1 named
    exact mem_opened.1 (Incident.named.inj same ▸ there)
  have silent : bearer? (asked.map .asked) c.name = none := by
    apply Incident.bearer?_of_unnamed
    intro d named
    obtain ⟨a, _, same⟩ := List.mem_map.1 named
    cases same
  rw [Incident.bearer?_append, silent, Option.none_or]
  cases found : h.connectors.find? c.name with
  | some d =>
    obtain rfl := stand.registered c member d found
    exact borne.append (fun e named => (mine e named).2) d.name d found
  | none =>
    have given : .named c ∈ (h.opened connectors).map Incident.named :=
      List.mem_map_of_mem (mem_opened.2 ⟨member, found⟩)
    rw [Incident.bearer?_append, Incident.bearer?_of_named given (fun d named same =>
      stand.apart d (mine d named).1 c member same)]
    rfl

/-- A request of a fetch is made to the connector that bears the name. -/
theorem Stand.answered (stand : h.Stand connectors) (borne : Borne h.connectors trace)
    {a : Asking} (made : a ∈ h.exchange.made now.millis q connectors) {response : Response}
    (answer : a.answer = .given response) :
    ∃ since, Answered (trace ++ h.performed now (.fetch q connectors finish)) a.key response a
      since := by
  obtain ⟨earlier, later, all⟩ := List.append_of_mem made
  refine ⟨later.map .asked, ⟨_, ?_, stand.bearer borne (Exchange.mem_made made).2 earlier⟩, rfl,
    answer⟩
  simp only [performed, all, List.map_append, List.map_cons, List.append_assoc]

theorem Accounted.perform (accounted : Accounted trace h) (named : h.connectors.Named) {plan : Plan}
    (planned : (h.scene now.time statement).plan = .ok plan) :
    Accounted (trace ++ h.performed now plan) (h.perform now plan).1 := by
  have borne : Borne h.connectors (trace ++ []) := (List.append_nil trace).symm ▸ accounted.borne
  cases plan with
  | ready product => exact accounted.later rfl borne
  | relate query connectors finish =>
    exact accounted.later (Exchange.cache_relate h.exchange connectors) borne
  | invoke module input finish =>
    unfold Hunt.perform
    dsimp only
    split <;> exact accounted.later rfl borne
  | save handle path finish => exact accounted.later rfl borne
  | fetch q connectors finish =>
    have stand := stand_of_plan named planned
    constructor
    case idle =>
      apply List.eq_nil_iff_forall_not_mem.2
      intro f runs
      have before := Exchange.mem_flights_ask runs
      rw [accounted.idle] at before
      exact List.not_mem_nil before
    case borne =>
      exact accounted.borne.append (fun d member => (mem_opened.1 (opened_of_named member)).2)
    case kept =>
      intro e member
      rcases Exchange.mem_entries_ask member with old | ⟨a, made, key, answer⟩
      · obtain ⟨a, since, answered⟩ := accounted.kept e old
        exact ⟨a, _, answered.later _⟩
      · obtain ⟨since, answered⟩ := stand.answered accounted.borne made answer
        exact ⟨a, since, key ▸ answered⟩

theorem commit_registers (now : Instant) (statement : PlacedStatement) (product : Product) :
    (h.commit now statement product).1.exchange = h.exchange ∧
    (h.commit now statement product).1.connectors =
      match (h.commit now statement product).2 with
      | .ok _ => product.connectors.foldl Registry.register h.connectors
      | .error _ => h.connectors := by
  unfold commit
  dsimp only
  split
  · exact ⟨rfl, rfl⟩
  · split <;> exact ⟨rfl, rfl⟩

theorem Accounted.run (accounted : Accounted trace h) (named : h.connectors.Named) (now : Moment)
    (statement : PlacedStatement) :
    Accounted (trace ++ h.incidents now statement) (h.run now statement).1 := by
  have stages := h.stages_run now statement
  have unchanged : Borne h.connectors (trace ++ []) :=
    (List.append_nil trace).symm ▸ accounted.borne
  unfold incidents registers
  generalize h.run now statement = result at stages ⊢
  cases stages with
  | senseless planned =>
    rw [planned]
    exact accounted.later rfl unchanged
  | unanswered planned performed =>
    have after := accounted.perform named planned
    rw [performed] at after
    simp only [planned, performed, List.map_nil, List.append_nil]
    exact after
  | @committed plan exchange disk product planned performed =>
    have after := accounted.perform named planned
    rw [performed] at after
    obtain ⟨cache, connectors⟩ := commit_registers
      (h := { h with exchange := exchange, disk := disk }) now.time statement product
    simp only [planned, performed]
    rw [← List.append_assoc]
    apply after.later (congrArg Exchange.cache cache)
    rw [connectors]
    generalize (commit { h with exchange := exchange, disk := disk } now.time statement product).2 =
      outcome
    cases outcome with
    | error error => exact after.borne.append (fun d none => absurd none List.not_mem_nil)
    | ok completion => exact after.borne.registerAll product.connectors

theorem Traced.accounted (traced : Traced trace h) : Accounted trace h := by
  induction traced with
  | start config disk =>
    exact ⟨rfl, Incident.borne_empty, fun _ there => absurd there List.not_mem_nil⟩
  | registerConnector _ c ih => exact ih.later rfl (ih.borne.register c)
  | registerModule _ m ih => exact ⟨ih.idle, ih.borne, ih.kept⟩
  | run before now statement ih => exact ih.run before.reachable.named now statement
  | close _ ih =>
    exact ⟨ih.idle, Incident.borne_empty, fun _ there => absurd there List.not_mem_nil⟩
  | meanwhile _ disk ih => exact ⟨ih.idle, ih.borne, ih.kept⟩
  | clear _ ih => exact ⟨ih.idle, ih.borne, fun _ there => absurd there List.not_mem_nil⟩

/-- What a fetch merges under the name of a connector was answered by the connector that bore this
name when it was asked. This is the one that bears it now just if the name was given to no other
since, or back to it. -/
theorem answered_of_traced (traced : Traced trace h)
    (planned : (h.scene now.time statement).plan = .ok (.fetch q connectors finish)) :
    (h.perform now (.fetch q connectors finish)).2 =
      .ok (finish (Merge.replies h.config.timeAttributes q (h.replies now q connectors))) ∧
    List.Forall₂ (fun c r => r.connector = c.name ∧
        (∀ d, h.connectors.find? c.name = some d → d = c) ∧
        ∀ response, r.result = .ok response → ∃ a since,
          Answered (trace ++ h.performed now (.fetch q connectors finish)) (.ofQuery c.name q)
            response a since ∧
          (a.connector = c ↔ ∀ d, bearer? since c.name = some d → d = a.connector))
      connectors (h.replies now q connectors) := by
  have accounted := traced.accounted
  have stand := stand_of_plan traced.reachable.named planned
  have arrive := Exchange.arrives_ask now.millis h.config.connectorMillis q connectors h.exchange
  apply And.intro rfl
  apply ((List.forall₂_and_left _ _).2 ⟨fun _ => id, arrive⟩).imp
  rintro c r ⟨member, named, arrives⟩
  refine ⟨named, stand.registered c member, fun response came => ?_⟩
  have answers : ∃ a since, Answered (trace ++ h.performed now (.fetch q connectors finish))
      (.ofQuery c.name q) response a since := by
    generalize r.result = result at arrives came
    cases arrives with
    | @kept e there same live =>
      obtain ⟨a, since, answered⟩ := accounted.kept e there
      rw [same, Except.ok.inj came] at answered
      exact ⟨a, _, answered.later _⟩
    | @asked a made same =>
      obtain ⟨since, answered⟩ := stand.answered accounted.borne made (Asking.answer_of_result came)
      exact ⟨a, since, same ▸ answered⟩
    | joined runs same result =>
      rw [accounted.idle] at runs
      exact absurd runs List.not_mem_nil
  obtain ⟨a, since, answered⟩ := answers
  have now_borne := stand.bearer accounted.borne member (h.exchange.made now.millis q connectors)
  have borne : (bearer? since c.name).or (some a.connector) = some c := by
    rw [List.append_assoc] at now_borne
    calc (bearer? since c.name).or (some a.connector)
        = bearer? (trace ++ h.performed now (.fetch q connectors finish)) c.name :=
          answered.bearer.symm
      _ = some c := now_borne
  refine ⟨a, since, answered, ?_⟩
  cases given : bearer? since c.name with
  | none =>
    rw [given] at borne
    simp only [Option.some.inj borne, reduceCtorEq, false_implies, implies_true]
  | some d =>
    rw [given] at borne
    obtain rfl := Option.some.inj borne
    simp only [Option.some.injEq, forall_eq', eq_comm]

/-- A connector that knows one file. -/
def sensor (id : String) : Connector := .answering "sensor" ["file"] [⟨id, Dict.empty⟩]

def allFiles : EntityQuery := ⟨"file", none, none, none⟩

def beforehand : Hunt := (start .standard Disk.empty).registerConnector (sensor "f1")

/-- A hunt in which a connector was asked for files. -/
def sensed : Hunt := (beforehand.run epoch getFiles).1

theorem sensed_completes : (∃ completion, (beforehand.run epoch getFiles).2 = .ok completion) ∧
    sensed = { beforehand.bound epoch.time getFiles {}
        ⟨"a", .ofRows "file" [⟨"f1", Dict.empty⟩], [], ["sensor"]⟩ with
      exchange := ⟨⟨300000, 1024, [⟨.ofQuery "sensor" allFiles, ⟨[⟨"f1", Dict.empty⟩], []⟩, 0⟩], [],
        ⟨0, 1, 0, 0⟩⟩, [.entities "sensor"]⟩ } := by
  have reached : beforehand.Reachable := .registerConnector (.start _ _) _
  obtain ⟨after, completed⟩ := run_of_current reached epoch getFiles rfl rfl rfl rfl
    (fun v member => by
      obtain rfl := List.mem_singleton.1 member
      rfl)
  exact ⟨completed, after⟩

theorem traced_sensed :
    Traced [.named (sensor "f1"), .asked ⟨sensor "f1", 0, allFiles⟩] sensed := by
  obtain ⟨completion, completed⟩ := sensed_completes.1
  have asks : beforehand.incidents epoch getFiles = [.asked ⟨sensor "f1", 0, allFiles⟩] := by
    unfold incidents registers
    rw [completed]
    rfl
  have before : Traced [.named (sensor "f1")] beforehand := (Traced.start _ _).registerConnector _
  have after := before.run epoch getFiles
  rw [asks] at after
  exact after

/-- A second fetch is given what the first one was answered, and the connector is still there. -/
theorem answered_of_traced_kept : ∃ finish a since,
    (sensed.scene epoch.time getFiles).plan = .ok (.fetch allFiles [sensor "f1"] finish) ∧
    sensed.replies epoch allFiles [sensor "f1"] =
      [⟨"sensor", .ok ⟨[⟨"f1", Dict.empty⟩], []⟩, .cached⟩] ∧
    Answered [.named (sensor "f1"), .asked ⟨sensor "f1", 0, allFiles⟩] (.ofQuery "sensor" allFiles)
      ⟨[⟨"f1", Dict.empty⟩], []⟩ a since ∧
    a.connector = sensor "f1" := by
  obtain ⟨finish, planned⟩ : ∃ finish, (sensed.scene epoch.time getFiles).plan =
      .ok (.fetch allFiles [sensor "f1"] finish) := by
    rw [sensed_completes.2]
    exact ⟨_, rfl⟩
  have given : sensed.replies epoch allFiles [sensor "f1"] =
      [⟨"sensor", .ok ⟨[⟨"f1", Dict.empty⟩], []⟩, .cached⟩] := by
    rw [sensed_completes.2]
    rfl
  have quiet : sensed.performed epoch (.fetch allFiles [sensor "f1"] finish) = [] := by
    rw [sensed_completes.2]
    rfl
  obtain ⟨_, each⟩ := answered_of_traced traced_sensed planned
  rw [given, quiet] at each
  obtain ⟨⟨_, _, first⟩, _⟩ := List.forall₂_cons.1 each
  obtain ⟨a, since, answered, current⟩ := first _ rfl
  refine ⟨finish, a, since, planned, given, answered, current.2 ?_⟩
  -- The only request is the last thing that has happened.
  obtain ⟨before, all, _⟩ := answered.happened
  obtain _ | ⟨_, _ | ⟨_, rest⟩⟩ := before
  · cases (List.cons.inj all).1
  · obtain ⟨_, rfl⟩ := List.cons.inj (List.cons.inj all).2
    intro d given
    cases given
  · have none : [] = rest ++ .asked a :: since := (List.cons.inj (List.cons.inj all).2).2
    exact absurd none.symm (List.append_ne_nil_of_right_ne_nil _ (List.cons_ne_nil _ _))

def replaced : Hunt := sensed.registerConnector (sensor "f2")

/-- A connector that takes over the name never gives the answer that is merged under it. -/
theorem answered_of_traced_replaced_fails : ∃ trace finish,
    Traced trace replaced ∧
    (replaced.scene epoch.time getFiles).plan = .ok (.fetch allFiles [sensor "f2"] finish) ∧
    replaced.connectors.find? "sensor" = some (sensor "f2") ∧
    replaced.replies epoch allFiles [sensor "f2"] =
      [⟨"sensor", .ok ⟨[⟨"f1", Dict.empty⟩], []⟩, .cached⟩] ∧
    ∀ number q, (sensor "f2").client.answer number q ≠ .given ⟨[⟨"f1", Dict.empty⟩], []⟩ := by
  have traced : Traced _ replaced := traced_sensed.registerConnector (sensor "f2")
  unfold replaced at traced ⊢
  rw [sensed_completes.2] at traced ⊢
  refine ⟨_, _, traced, rfl, rfl, rfl, fun number q same => ?_⟩
  have entities : [(⟨"f2", Dict.empty⟩ : Entity)] = [⟨"f1", Dict.empty⟩] :=
    congrArg Response.entities (Answer.given.inj same)
  exact absurd (congrArg Entity.id (List.cons.inj entities).1) (by decide)

end Hunt
end ThreatHunt
