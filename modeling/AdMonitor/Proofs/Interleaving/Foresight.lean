import AdMonitor.Proofs.Interleaving.Isolation
import AdMonitor.Proofs.Interleaving.LoneTick
import AdMonitor.Proofs.Interleaving.Narration
import AdMonitor.Proofs.Program.Play
import AdMonitor.Proofs.Visit.Forecast

/-!
# Explanations foretell ticks

To explain an agent changes nothing that is shared.  What it says is what the
next tick finds, if this is told of its agents, the provider of metrics answers
as before, the states are there and none is stale
(`System.explain_foretells`).  A tick that is not told of its agents finds
nothing (`System.explain_misses_exampleUnlisted`).
-/

namespace AdMonitor

/-! ## Explanations -/

/-- Collaborators that now and then answer something else, without taking note of the call. -/
def Outside.lapsing (outside : Outside) : Outside where
  World := outside.World
  Mood := outside.Mood × ((call : Call) → Option call.Answer)
  answer mood world call :=
    match mood.2 call with
    | some answer => (answer, world)
    | none => outside.answer mood.1 world call

variable {outside others : Outside} {settings : Settings} {slot : Slot} {agent : Agent}
  {id : AgentId} {history : History} {asked exchanges : List Exchange} {targets : List Target}
  {explanations : List Explanation} {report : TickReport}

namespace Shared

def reliable (shared : Shared outside.lapsing) : Shared outside :=
  ⟨shared.agents, shared.states, shared.locks, shared.world⟩

/--
Stores and collaborators as respondents, whose reactions to the calls are
given.  A call that would have to wait is not heard.
-/
def respondents (outside : Outside) : Respondents where
  State := Shared outside × (Nat → Reaction outside)
  answer state call :=
    let later := fun count => state.2 (count + 1)
    match state.1.answer (state.2 0) call with
    | some (answer, after) => (answer, after, later)
    | none => (call.unheard, state.1, later)

def explain [UrlParser] (settings : Settings) (shared : Shared outside)
    (reactions : Nat → Reaction outside) (id : AgentId) :
    Played (Shared outside × (Nat → Reaction outside)) (Except Failure (List Explanation)) :=
  Program.play (respondents outside) (shared, reactions) (settings.explain id)

def seen {α : Type} (view : outside.World → α) (shared : Shared outside) :
    AgentStore × StateStore × α :=
  (shared.agents, shared.states, view shared.world)

section Lookups

variable {α : Type} {view : outside.World → α} {shared after : Shared outside}
  {reactions : Nat → Reaction outside}
  (readsOnly : ∀ mood world call, call.IsReading →
    view (outside.answer mood world call).2 = view world)

include readsOnly

/-- Lookups change nothing in the stores, nor in what readings leave alone. -/
theorem seen_of_lookup {reaction : Reaction outside} {call : Call} {answer : call.Answer}
    (isLookup : call.IsLookup)
    (answered : shared.answer reaction call = some (answer, after)) :
    after.seen view = shared.seen view := by
  cases call with
  | agents query =>
      cases query with
      | get id =>
          rcases answer_agents answered with ⟨-, rfl⟩ | ⟨agents, found, rfl⟩
          · rfl
          · cases found
            rfl
      | _ => cases isLookup
  | states query =>
      cases query with
      | get key => rcases answer_states answered with ⟨-, rfl⟩ | ⟨-, rfl⟩ <;> rfl
      | _ => cases isLookup
  | metrics | snapshots =>
      cases answered
      exact congrArg (fun seen => (shared.agents, shared.states, seen)) (readsOnly _ _ _ trivial)
  | _ => cases isLookup

/-- To explain an agent changes no store, and nothing that readings leave alone. -/
theorem seen_explain [UrlParser] (shared : Shared outside) (id : AgentId) :
    (shared.explain settings reactions id).state.1.seen view = shared.seen view := by
  let sees : (respondents outside).State → AgentStore × StateStore × α :=
    fun (now, _) => now.seen view
  refine (settings.explain_uses id).play_keeps sees ?_ (shared, reactions)
  intro state call isLookup
  obtain ⟨now, later⟩ := state
  dsimp only [sees, respondents]
  cases answered : now.answer (later 0) call with
  | none => rfl
  | some result => exact seen_of_lookup readsOnly isLookup answered

end Lookups

/-- An explanation of a stored agent that succeeds is that of its targets. -/
theorem explains_of_ok [UrlParser] {shared : Shared outside} {reactions : Nat → Reaction outside}
    (isStored : Table.get? shared.agents id = some agent)
    (isOk : (shared.explain settings reactions id).value = .ok explanations) :
    ∃ targets, settings.Explains agent (shared.explain settings reactions id).exchanges targets
      explanations := by
  have ends := Program.ends_play (respondents outside) (shared, reactions) (settings.explain id)
  rw [← explain, isOk] at ends
  obtain ⟨found, targets, later, parts, explains⟩ := Settings.ends_explain ends
  suffices found = agent by
    subst this
    exact ⟨targets, explains.mono fun exchange => List.mem_reverse.1⟩
  have isFirst : (shared.explain settings reactions id).exchanges.head? = some ⟨.agents (.get id),
      ((respondents outside).answer (shared, reactions) (.agents (.get id))).1⟩ := rfl
  rw [List.reverse_eq_append_iff.1 parts] at isFirst
  have answered : .ok (some found) =
      ((respondents outside).answer (shared, reactions) (.agents (.get id))).1 := by
    simpa using isFirst
  dsimp only [respondents, answer] at answered
  cases failed : (reactions 0).failure with
  | some failure =>
      rw [failed] at answered
      cases answered
  | none =>
      rw [failed] at answered
      exact Option.some.inj ((Except.ok.inj answered).trans isStored)

end Shared

/-! ## What a tick finds again -/

/-- An agent that is sound is given the targets that are found for it. -/
theorem Slot.ends_openAgent [UrlParser] {lookup : List Exchange}
    (isValid : agent.validate settings.maxConditionDepth = .ok ())
    (resolves : (agent.resolve settings.fetchLimit).Ends lookup (.ok targets)) :
    (slot.openAgent settings agent).Ends lookup (.ok targets) := by
  unfold Slot.openAgent
  simp only [isValid]
  exact Program.ends_bind_iff.2 ⟨.ok targets, [], lookup, rfl, resolves, .start⟩

/--
Whether the first tick finds for an agent what some exchanges and explanations
of its targets have found: the provider of metrics answers as before, the
stored states can be had, and none of them is stale.
-/
structure History.Recurs (slot : Slot) (states : StateStore) (id : AgentId)
    (asked : List Exchange) (explanations : List Explanation) (history : History) : Prop where
  answers : ∀ entry ∈ history, entry.owner? = some (0, id) → entry.exchange.call.IsReading →
    ∀ answer, ⟨entry.exchange.call, answer⟩ ∈ asked → entry.exchange.answer = answer
  stored : ∀ entry ∈ history, entry.owner? = some (0, id) →
    ∀ query, entry.exchange.call = .states query → entry.exchange.failure? = none
  fresh : ∀ explanation ∈ explanations, ∀ state,
    Table.get? states ⟨id, explanation.target⟩ = some state → state.isStale slot.tick = false

namespace History.Recurs

variable {states : StateStore} {target : Target} {explanation : Explanation}
  (recurs : history.Recurs slot states agent.id asked explanations)

include recurs

/-- A program that reads is answered alike for an explanation and for the tick. -/
theorem agree {job : JobId} (isOwner : job.owner? = some (0, agent.id))
    (isLogged : exchanges ⊆ history.ofJob job) {past : List Exchange} (isAsked : past ⊆ asked)
    (areReadings : ∀ exchange ∈ exchanges, exchange.call.isIncidental = false →
      exchange.call.IsReading) : Exchange.Agree exchanges past := by
  intro call answer other matters found isPast
  obtain ⟨actor, logged, isJob⟩ := History.mem_ofJob.1 (isLogged found)
  have owns : Entry.owner? ⟨actor, ⟨call, answer⟩⟩ = some (0, agent.id) := by
    rw [Entry.owner?, isJob]
    exact isOwner
  exact recurs.answers _ logged owns (areReadings _ found matters) other (isAsked isPast)

/-- The tick finds the targets of the agent again. -/
theorem opened [UrlParser] (isValid : agent.validate settings.maxConditionDepth = .ok ())
    (locates : agent.Locates settings.fetchLimit asked targets)
    {found : Except Failure (List Target)}
    (opens : history.Opens settings slot 0 agent found) : found = .ok targets := by
  obtain ⟨lookup, isAsked, resolves⟩ := locates
  obtain ⟨later, early, parts, opened⟩ := opens
  have areOpening := ((slot.openAgent_uses settings agent).leads opened).1
  have agree : Exchange.Agree early lookup := by
    refine recurs.agree rfl (parts ▸ List.subset_append_right ..) isAsked ?_
    intro exchange isEarly matters
    have isOpening := areOpening exchange isEarly
    obtain ⟨call, answer⟩ := exchange
    cases call with
    | metrics => trivial
    | publish => cases matters
    | _ => cases isOpening
  exact ((slot.openAgent_alike settings agent).ends opened (Slot.ends_openAgent isValid resolves)
    agree).1

/-- The tick reads of a target what was read of it before. -/
theorem obtained {told : Agent} (same : told.unmarked = agent.unmarked) {visit : VisitId}
    (isOwner : (JobId.visit visit).owner? = some (0, agent.id)) {reading other : Reading}
    (obtains : agent.Obtains settings.fetchLimit asked target reading)
    (alsoObtains : told.Obtains settings.fetchLimit (history.ofJob (.visit visit)) target other) :
    other = reading := by
  obtain ⟨past, isAsked, read⟩ := obtains
  obtain ⟨readings, isLogged, alsoRead⟩ := alsoObtains
  have areReadings := ((told.read_uses settings.fetchLimit target).leads alsoRead).1
  have agree : Exchange.Agree readings past :=
    recurs.agree isOwner isLogged isAsked fun exchange found _ => areReadings exchange found
  rw [Agent.eq_evaluatedAt same] at read
  exact ((told.read_alike settings.fetchLimit agent.lastEvaluatedAt target).ends alsoRead read
    agree).1

end History.Recurs

namespace Event

def verdict? : Event → Option Verdict
  | .targetEvaluated _ _ verdict .. => some verdict
  | _ => none

end Event

/-- Whether a report of a target, and what a tick has told of it, are as an explanation says. -/
inductive TargetReport.Confirms (tick : TickNumber) (own : TargetReport) (told : List Event) :
    Except String Report → Prop where
  | evaluated (forecast : Report) (satisfied : Bool) (decision : Decision) (count : UInt64)
      (later : List Event) (status : own.status = .ofOutcome forecast.verdict decision count)
      (isTold : told =
        .targetEvaluated tick own.key forecast.verdict satisfied decision :: later)
      (once : later.filterMap Event.verdict? = []) : Confirms tick own told (.ok forecast)
  | skipped (reason : String) (status : own.status = .skipped reason)
      (isTold : told = [.targetSkipped tick own.key reason]) :
      Confirms tick own told (.error reason)

/-- What a visit makes of a reading is what an explanation says of it. -/
theorem Visit.Judges.confirms {visit : Visit} {reading : Reading} {own : TargetReport}
    (judges : visit.Judges exchanges reading own) {told : List Event}
    (narrates : own.Narrates visit.slot.tick told)
    (areTold : ∀ event, ⟨.publish event, ()⟩ ∈ exchanges → event.key? = some visit.key →
      event ∈ told) :
    own.Confirms visit.slot.tick told (reading.explain visit.agent.condition) := by
  cases judges with
  | skipped reason =>
      refine .skipped reason rfl ?_
      cases narrates with
      | skipped key status reason isReason =>
          cases isReason
          rfl
      | held key status verdict satisfied decision isSaved => cases isSaved
  | evaluated snapshot members verdict isVerdict satisfied decision count actions tells =>
      have isForecast := visit.agent.condition.explain_verdict.trans isVerdict
      have found := areTold _ tells rfl
      generalize isOwn : TargetReport.mk visit.key
        (TargetStatus.ofOutcome verdict decision count) actions = own at narrates
      subst isForecast
      cases narrates with
      | skipped key status reason isReason => cases List.mem_singleton.1 found
      | held key status verdict satisfied decision isSaved isUnfired holds =>
          cases List.mem_singleton.1 found
          cases isOwn
          exact .evaluated _ satisfied decision count [] rfl rfl rfl
      | fired key verdict satisfied count records =>
          rcases List.mem_append.1 found with isFirst | isRecord
          · rcases List.mem_cons.1 isFirst with same | isSecond
            · cases same
              refine .evaluated _ satisfied .fire count _ rfl rfl ?_
              simp [Event.verdict?]
            · cases List.mem_singleton.1 isSecond
          · obtain ⟨record, -, wrong⟩ := List.mem_map.1 isRecord
            cases wrong

/-- Whether a tick has done for an agent what explanations of its targets say. -/
structure TickReport.BearsOut [UrlParser] (settings : Settings) (slot : Slot) (agent : Agent)
    (asked : List Exchange) (explanations : List Explanation) (history : History)
    (report : TickReport) : Prop where
  resolved : ∃ targets, agent.Locates settings.fetchLimit asked targets ∧
    targets.map Target.key = explanations.map Explanation.target ∧
    history.Opens settings slot 0 agent (.ok targets)
  reported : ((report.targetsOf agent.id).map fun own => own.key.target).Perm
    (explanations.map Explanation.target)
  confirmed : ∀ explanation ∈ explanations, ∃ own ∈ report.targets,
    own.key = ⟨agent.id, explanation.target⟩ ∧
      own.Confirms slot.tick (history.events.filter fun event => event.key? == some own.key)
        explanation.outcome

section Next

variable [UrlParser] {admits : Reaction outside → Prop} {first after : Shared outside}
  (evolves : Shared.Evolves admits first history after) (keyed : first.agents.IsKeyed)
  (yields : slot.Yields settings 0 history report)
  (jobs : ∀ entry ∈ history, ∃ job, entry.actor.job? = some job ∧ job.index = 0)
  (recurs : history.Recurs slot first.states agent.id asked explanations)

include evolves keyed yields jobs recurs

/-- A visit of a target that was explained can load and save its state. -/
theorem History.Recurs.isStored {visit : Visit} {job : Program (Option TargetReport)}
    (traced : visit.Traced 0 history job) (isSlot : visit.slot = slot)
    {explanation : Explanation} (isOne : explanation ∈ explanations)
    (isKey : visit.key = ⟨agent.id, explanation.target⟩) :
    visit.IsStored (history.ofJob (.visit ⟨0, visit.key⟩)) := by
  have logged : ∀ exchange ∈ history.ofJob (.visit ⟨0, visit.key⟩),
      ⟨.visit 0 visit, exchange⟩ ∈ history ∧
        ∀ query, exchange.call = .states query → exchange.failure? = none := by
    intro exchange found
    rw [History.ofJob_visit] at found
    obtain ⟨other, logged, isOwn⟩ := History.mem_ofVisit.1 found
    obtain rfl := traced.alone other exchange logged isOwn
    refine ⟨logged, recurs.stored _ logged ?_⟩
    exact congrArg (fun key : StateKey => some (0, key.agent)) isKey
  constructor
  · intro answer found
    obtain ⟨isLogged, succeeds⟩ := logged _ found
    cases answer with
    | error failure => cases succeeds _ rfl
    | ok loaded =>
        refine ⟨loaded, rfl, ?_⟩
        have isFound := evolves.found keyed (yields.allBelong jobs) yields isLogged
        rw [isKey] at isFound
        cases loaded with
        | none => rfl
        | some state => exact isSlot ▸ recurs.fresh explanation isOne state isFound.symm
  · intro state answer found
    cases answer with
    | error failure => cases (logged _ found).2 _ rfl
    | ok done => rfl

/-- A visit finds of a target what was explained of it. -/
theorem History.Recurs.confirms {told : Agent} (same : told.unmarked = agent.unmarked)
    {target : Target} {own : TargetReport}
    (traced : Visit.Traced 0 history { settings, slot, agent := told, target } (.done (some own)))
    {explanation : Explanation} (isOne : explanation ∈ explanations)
    (explains : agent.Explains settings.fetchLimit asked target explanation)
    (narrates : own.Narrates slot.tick
      (history.events.filter fun event => event.key? == some own.key)) :
    own.key = ⟨agent.id, explanation.target⟩ ∧
      own.Confirms slot.tick (history.events.filter fun event => event.key? == some own.key)
        explanation.outcome := by
  have sameId : told.id = agent.id := (Agent.eq_of_unmarked same).1
  have isKey : Visit.key { settings, slot, agent := told, target } =
      ⟨agent.id, explanation.target⟩ := congrArg₂ StateKey.mk sameId explains.key.symm
  have isOwn := (Visit.report_of_ends traced.leads).1
  obtain ⟨reading, obtains, judges⟩ := Visit.judges traced.leads
    (recurs.isStored evolves keyed yields jobs traced rfl isOne isKey)
  obtain ⟨explained, wasObtained, outcome⟩ := explains.outcome
  have isOwner : (JobId.visit ⟨0, Visit.key { settings, slot, agent := told, target }⟩).owner? =
      some (0, agent.id) := congrArg (fun id => some (0, id)) sameId
  obtain rfl := recurs.obtained same isOwner wasObtained obtains
  refine ⟨isOwn.trans isKey, ?_⟩
  have sameCondition : told.condition = agent.condition := (congrArg Agent.condition same :)
  rw [outcome, ← sameCondition]
  refine judges.confirms narrates fun event found isAbout => ?_
  obtain ⟨actor, logged, -⟩ := History.mem_ofJob.1 found
  refine List.mem_filter.2 ⟨?_, beq_iff_eq.2 (isAbout.trans (congrArg some isOwn.symm))⟩
  exact Exchange.mem_events.2 ⟨_, List.mem_map_of_mem logged, rfl⟩

/-- A tick that nothing overlaps bears out the explanations of an agent that it is told of. -/
theorem Slot.Yields.bearsOut {active : List Agent}
    (isStored : Table.get? first.agents agent.id = some agent) (isActive : agent.isActive = true)
    (told : ⟨.tick 0, ⟨.agents .listActive, .ok active⟩⟩ ∈ history)
    (explains : settings.Explains agent asked targets explanations) :
    report.BearsOut settings slot agent asked explanations history := by
  obtain ⟨own, isTold, same⟩ :=
    evolves.active_told (yields.allBelong jobs) told isStored isActive
  obtain ⟨pool, later, early, completes⟩ := yields.completes (History.mem_ofJob.2 ⟨_, told, rfl⟩)
  obtain ⟨finishedAt, collected, isReport⟩ := completes.report_eq
  obtain ⟨outcome, works, isPerm, -⟩ := completes.worked.reports completes.isDone isTold
  rw [← isReport] at isPerm
  have sameId : own.id = agent.id := (Agent.eq_of_unmarked same).1
  have opened : ∀ found, history.Opens settings slot 0 own found → found = .ok targets :=
    fun found opens => recurs.opened explains.isValid explains.locates (opens.congr same)
  have keys : targets.map Target.key = explanations.map Explanation.target :=
    map_eq_of_forall₂ (explains.each.imp fun _ _ explains => explains.key.symm)
  cases works with
  | failed failure opens unvisited => cases opened _ ⟨[], _, rfl, opens⟩
  | finished found reports count last opening parts opens visited closed =>
      cases opened _ ⟨last, opening, parts, opens⟩
      refine ⟨⟨targets, explains.locates, keys, .congr ⟨last, opening, parts, opens⟩ same⟩, ?_, ?_⟩
      · rw [← keys, ← sameId]
        have areKeys := congrArg (List.map StateKey.target) visited.keys
        rw [List.map_map, List.map_map] at areKeys
        exact areKeys ▸ isPerm.map _
      · intro explanation isOne
        obtain ⟨target, isTarget, isExplained⟩ := forall₂_left explains.each.flip isOne
        obtain ⟨own, isOwn, traced⟩ :=
          forall₂_left (List.forall₂_map_right_iff.1 visited.each) isTarget
        have isReport : own ∈ report.targets := (List.mem_filter.1 (isPerm.symm.subset isOwn)).1
        refine ⟨own, isReport, ?_⟩
        exact recurs.confirms evolves keyed yields jobs same traced isOne isExplained
          (completes.events_target yields jobs isReport)

end Next

namespace System

/--
To explain a stored agent leaves the stores and the account as they are.  What
it says is borne out by the next tick, if this is told of its agents and finds
what the explanation has found: it resolves the same targets, comes to the
verdict of each report, and skips what is unavailable for the reason given.
-/
theorem explain_foretells [UrlParser] (settings : Settings) {shared : Shared others.hosting.lapsing}
    (keyed : shared.agents.IsKeyed) {agent : Agent}
    (isStored : Table.get? shared.agents agent.id = some agent) (isActive : agent.isActive = true)
    (reactions : Nat → Reaction others.hosting.lapsing) :
    let explained := shared.explain settings reactions agent.id
    let next := explained.state.1
    (next.agents = shared.agents ∧ next.states = shared.states ∧
        next.reliable.account = shared.reliable.account) ∧
      ∀ explanations, explained.value = .ok explanations →
      ∀ (now : Instant) (turns : List (Turn others.hosting.lapsing)) (active : List Agent)
        (report : TickReport),
      let system := (solo settings next now).run settings turns
      (∀ turn ∈ turns, turn.begins = false) →
      system.ticks[0]?.bind TickRun.report? = some report →
      ⟨.tick 0, ⟨.agents .listActive, .ok active⟩⟩ ∈ system.log →
      History.Recurs (settings.slot now) next.states agent.id explained.exchanges explanations
        system.log →
      report.BearsOut settings (settings.slot now) agent explained.exchanges explanations
        system.log := by
  intro explained next
  have readsOnly : ∀ mood (world : others.hosting.lapsing.World) (call : Call), call.IsReading →
      Prod.fst (others.hosting.lapsing.answer mood world call).2 = Prod.fst world := by
    intro mood world call isReading
    dsimp only [Outside.lapsing]
    cases mood.2 call with
    | some answer => rfl
    | none =>
        cases call with
        | metrics | snapshots => rfl
        | _ => cases isReading
  have same : next.seen Prod.fst = shared.seen Prod.fst := Shared.seen_explain readsOnly shared _
  obtain ⟨sameAgents, sameRest⟩ := Prod.mk.inj same
  obtain ⟨sameStates, sameAccount⟩ := Prod.mk.inj sameRest
  refine ⟨⟨sameAgents, sameStates, sameAccount⟩, ?_⟩
  intro explanations isOk now turns active report system alone isOver told recurs
  obtain ⟨targets, explains⟩ := Shared.explains_of_ok isStored isOk
  rw [← sameAgents] at keyed isStored
  have isSolo : system.IsSolo settings now := (solo_isSolo keyed now).run alone
  obtain ⟨run, isTick, isOver⟩ := Option.bind_eq_some_iff.1 isOver
  exact (isSolo.yields isTick isOver).bearsOut (solo_evolves now turns) keyed isSolo.jobs recurs
    isStored isActive told explains

/-- The campaign that an agent watches has spent too much. -/
def exampleSpent : Shared spending.hosting.lapsing where
  agents := .ofAgents [.watcher]
  states := .empty
  locks := .empty
  world :=
    (.ofHoldings [⟨"w", ⟨"x", "X", .google, .campaign, none⟩,
      some (.ofList [("spend", 150)]), false⟩], ())

def plainReaction (failure : Option Failure) : Reaction spending.hosting.lapsing :=
  ⟨((), fun _ => none), failure, fun _ => false⟩

def exampleSpotted : List (Turn spending.hosting.lapsing) :=
  let next (spot : Spot) : Turn spending.hosting.lapsing := .proceed 0 spot (plainReaction none)
  List.replicate 3 (next .tick) ++ [.settle 0 none, .settle 0 (some 0)] ++
    List.replicate 13 (next (.visit 0 0)) ++ [.settle 0 (some 0)] ++
    List.replicate 3 (next (.agent 0)) ++ [.settle 0 (some 0), .settle 0 none] ++
    List.replicate 4 (next .tick) ++ [.settle 0 none]

/-- Whether an exchange that asks for metrics finds one campaign, which has spent 150. -/
def findsSpent : Exchange → Bool
  | ⟨.metrics _ (.entity _), .answered (.ok (some entity))⟩ =>
      entity == ⟨"x", "X", .google, .campaign, none⟩
  | ⟨.snapshots .., ⟨[.answered (.ok (some snapshot))], _⟩⟩ => snapshot == .ofList [("spend", 150)]
  | ⟨.metrics .., _⟩ | ⟨.snapshots .., _⟩ => false
  | _ => true

theorem eq_of_findsSpent {call : Call} (isReading : call.IsReading) {answer other : call.Answer}
    (isFirst : findsSpent ⟨call, answer⟩ = true) (isSecond : findsSpent ⟨call, other⟩ = true) :
    answer = other := by
  cases call with
  | metrics limit query =>
      cases query with
      | entity key =>
          match answer, other with
          | .answered (.ok (some entity)), .answered (.ok (some counterpart)) =>
              rw [beq_iff_eq.1 isFirst, beq_iff_eq.1 isSecond]
      | _ => cases isFirst
  | snapshots limit workspace ids names =>
      match answer, other with
      | ⟨[.answered (.ok (some snapshot))], _⟩, ⟨[.answered (.ok (some counterpart))], _⟩ =>
          rw [Subtype.mk.injEq, beq_iff_eq.1 isFirst, beq_iff_eq.1 isSecond]
  | _ => cases isReading

attribute [local instance] UrlParser.refusing

/-- What the agent that watches the campaign is told. -/
def exampleExplained :
    Played (Shared spending.hosting.lapsing × (Nat → Reaction spending.hosting.lapsing))
      (Except Failure (List Explanation)) :=
  exampleSpent.explain .standard (fun _ => plainReaction none) Agent.watcher.id

theorem exampleExplained_ok : ∃ explanations, exampleExplained.value = .ok explanations ∧
    explanations.map Explanation.target = ["x"] := by
  have isOk : exampleExplained.value.toOption.any (fun explanations =>
      explanations.map Explanation.target == ["x"]) = true := by
    decide +kernel
  cases isValue : exampleExplained.value with
  | error failure =>
      rw [isValue] at isOk
      cases isOk
  | ok explanations =>
      rw [isValue] at isOk
      exact ⟨explanations, rfl, beq_iff_eq.1 isOk⟩

/-- No target is stale after an explanation, for there are no states. -/
theorem fresh_exampleExplained {slot : Slot} {key : StateKey} {state : TargetState}
    (isFound : Table.get? exampleExplained.state.1.states key = some state) :
    state.isStale slot.tick = false := by
  have isEmpty : exampleExplained.state.1.states = .empty := by decide +kernel
  rw [isEmpty] at isFound
  cases isFound

/-- Whether the first tick was told of its agents by an entry. -/
def tellsActive : Entry → Bool
  | ⟨.tick 0, ⟨.agents .listActive, .ok _⟩⟩ => true
  | _ => false

theorem told_of_tellsActive {log : History} (tells : log.any tellsActive = true) :
    ∃ active, ⟨.tick 0, ⟨.agents .listActive, .ok active⟩⟩ ∈ log := by
  obtain ⟨entry, logged, tells⟩ := List.any_eq_true.1 tells
  unfold tellsActive at tells
  split at tells
  · exact ⟨_, logged⟩
  · cases tells

theorem explain_foretells_exampleSpotted :
    let next := exampleExplained.state.1
    let system := (solo .standard next default).run .standard exampleSpotted
    exampleSpent.agents.IsKeyed ∧ Table.get? exampleSpent.agents Agent.watcher.id = some .watcher ∧
      Agent.watcher.isActive = true ∧ (∀ turn ∈ exampleSpotted, turn.begins = false) ∧
      ∃ explanations report, exampleExplained.value = .ok explanations ∧
        explanations.map Explanation.target = ["x"] ∧
        system.ticks[0]?.bind TickRun.report? = some report ∧
        History.Recurs (Settings.standard.slot default) next.states Agent.watcher.id
          exampleExplained.exchanges explanations system.log ∧
        next.reliable.account = exampleSpent.reliable.account ∧
        report.BearsOut .standard (Settings.standard.slot default) .watcher
          exampleExplained.exchanges explanations system.log := by
  intro next system
  have keyed : exampleSpent.agents.IsKeyed := AgentStore.ofAgents_keyed _
  have isStored : Table.get? exampleSpent.agents Agent.watcher.id = some .watcher := rfl
  have alone : ∀ turn ∈ exampleSpotted, turn.begins = false := by decide +kernel
  have isOver : (system.ticks[0]?.bind TickRun.report?).isSome = true := by decide +kernel
  have tells : system.log.any tellsActive = true := by decide +kernel
  have areAsked : exampleExplained.exchanges.all findsSpent = true := by decide +kernel
  have areLogged : system.log.all (fun entry => findsSpent entry.exchange) = true := by
    decide +kernel
  have succeed : system.log.all (fun entry => entry.exchange.failure?.isNone) = true := by
    decide +kernel
  obtain ⟨explanations, isOk, areTargets⟩ := exampleExplained_ok
  obtain ⟨report, isOver⟩ := Option.isSome_iff_exists.1 isOver
  obtain ⟨active, told⟩ := told_of_tellsActive tells
  have isActive : Agent.watcher.isActive = true := rfl
  obtain ⟨⟨-, -, sameAccount⟩, foretells⟩ :=
    explain_foretells .standard keyed isStored isActive fun _ => plainReaction none
  have recurs : History.Recurs (Settings.standard.slot default) next.states Agent.watcher.id
      exampleExplained.exchanges explanations system.log := by
    refine ⟨?_, ?_, ?_⟩
    · intro entry logged _ isReading answer asked
      exact eq_of_findsSpent isReading (List.all_eq_true.1 areLogged entry logged)
        (List.all_eq_true.1 areAsked _ asked)
    · intro entry logged _ query _
      exact Option.isNone_iff_eq_none.1 (List.all_eq_true.1 succeed entry logged)
    · exact fun explanation _ state => fresh_exampleExplained
  refine ⟨keyed, isStored, isActive, alone, explanations, report, isOk, areTargets, isOver, recurs,
    sameAccount, ?_⟩
  exact foretells explanations isOk default exampleSpotted active report alone isOver told recurs

def exampleUnlisted : List (Turn spending.hosting.lapsing) :=
  let next (failure : Option Failure) : Turn spending.hosting.lapsing :=
    .proceed 0 .tick (plainReaction failure)
  [next none, next (some (.storage "down")), next none, .settle 0 none]

/-- The explanation of an agent is not borne out by a tick that is not told of its agents, though
this asks neither the provider of metrics nor the store of states for anything. -/
theorem explain_misses_exampleUnlisted :
    let next := exampleExplained.state.1
    let system := (solo .standard next default).run .standard exampleUnlisted
    exampleSpent.agents.IsKeyed ∧ Table.get? exampleSpent.agents Agent.watcher.id = some .watcher ∧
      Agent.watcher.isActive = true ∧
      Agent.watcher.validate Settings.standard.maxConditionDepth = .ok () ∧
      (∀ turn ∈ exampleUnlisted, turn.begins = false) ∧
      (∀ entry ∈ system.log, ¬ entry.exchange.call.IsReading ∧
        ∀ query, entry.exchange.call ≠ .states query) ∧
      ∃ explanations report, exampleExplained.value = .ok explanations ∧
        system.ticks[0]?.bind TickRun.report? = some report ∧
        History.Recurs (Settings.standard.slot default) next.states Agent.watcher.id
          exampleExplained.exchanges explanations system.log ∧
        ¬ report.BearsOut .standard (Settings.standard.slot default) .watcher
          exampleExplained.exchanges explanations system.log := by
  intro next system
  have isOver : (system.ticks[0]?.bind TickRun.report?).any
      (fun report => report.targets.length == 0) = true := by
    decide +kernel
  have areOther : (system.log.all fun entry =>
      match entry.exchange.call with
      | .agents _ | .clock => true
      | _ => false) = true := by
    decide +kernel
  have asksNothing : ∀ entry ∈ system.log, ¬ entry.exchange.call.IsReading ∧
      ∀ query, entry.exchange.call ≠ .states query := by
    intro entry logged
    have isOther := List.all_eq_true.1 areOther entry logged
    obtain ⟨actor, call, answer⟩ := entry
    cases call with
    | agents | clock => exact ⟨id, nofun⟩
    | _ => cases isOther
  obtain ⟨report, isOver, isEmpty⟩ := (Option.any_eq_true ..).1 isOver
  obtain ⟨explanations, isOk, areTargets⟩ := exampleExplained_ok
  refine ⟨AgentStore.ofAgents_keyed _, rfl, rfl, rfl, by decide +kernel, asksNothing, explanations,
    report, isOk, isOver, ⟨?_, ?_, ?_⟩, ?_⟩
  · exact fun entry logged _ isReading => absurd isReading (asksNothing entry logged).1
  · exact fun entry logged _ query isQuery => absurd isQuery ((asksNothing entry logged).2 query)
  · exact fun explanation _ state => fresh_exampleExplained
  · intro bearsOut
    obtain ⟨explanation, isOne, -⟩ := List.mem_map.1 (areTargets ▸ List.mem_cons_self)
    obtain ⟨own, isReport, -⟩ := bearsOut.confirmed explanation isOne
    rw [List.length_eq_zero_iff.1 (beq_iff_eq.1 isEmpty)] at isReport
    cases isReport

end System

end AdMonitor
