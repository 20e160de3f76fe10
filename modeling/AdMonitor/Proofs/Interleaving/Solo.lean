import AdMonitor.Proofs.Interleaving.Evolution

/-!
# Ticks that are over

What a log can have of a tick that is over: all work was on agents that the
tick was told to be active, and each call is one of the kinds that the tick, an
agent or a visit can make (`Entry.Belongs`).  A tick that nothing overlaps is a
system with one tick.
-/

namespace AdMonitor

variable {outside : Outside} {settings : Settings} {slot : Slot} {index : Nat}
  {history : History} {entry : Entry} {report : TickReport}

theorem forall₂_left {α β : Type} {R : α → β → Prop} {left : List α} {right : List β}
    (all : List.Forall₂ R left right) {a : α} (found : a ∈ left) : ∃ b ∈ right, R a b := by
  induction all with
  | nil => cases found
  | cons related rest ih =>
      rcases List.mem_cons.1 found with rfl | later
      · exact ⟨_, List.mem_cons_self, related⟩
      · obtain ⟨b, isRight, related⟩ := ih later
        exact ⟨b, List.mem_cons_of_mem _ isRight, related⟩

def History.Tells (index : Nat) (agent : Agent) (history : History) : Prop :=
  ∃ agents, ⟨.agents .listActive, .ok agents⟩ ∈ history.ofJob (.tick index) ∧ agent ∈ agents

/-- A visit for an agent is that of one of its targets. -/
theorem Agent.Visited.visit {agent : Agent} {targets : List Target}
    {visits : List (Program (Option TargetReport))}
    (visited : agent.Visited settings slot index history targets visits) {visit : Visit}
    {exchange : Exchange} (logged : ⟨.visit index visit, exchange⟩ ∈ history)
    (isOwn : visit.key.agent = agent.id) :
    ∃ target ∈ targets, ∃ job ∈ visits, visit = { settings, slot, agent, target } ∧
      visit.Traced index history job := by
  have found : exchange ∈ history.ofJob (.visit ⟨index, visit.key⟩) :=
    History.mem_ofJob.2 ⟨_, logged, rfl⟩
  have isFound : visit.key.target ∈ targets.map Target.key := by
    by_contra isNone
    have nothing := visited.others _ isNone
    rw [← isOwn] at nothing
    exact List.not_mem_nil (nothing ▸ found)
  obtain ⟨target, isTarget, sameKey⟩ := List.mem_map.1 isFound
  obtain ⟨job, isJob, traced⟩ := forall₂_left visited.each isTarget
  obtain rfl : visit = { settings, slot, agent, target } := by
    refine traced.alone visit exchange logged ?_
    exact congrArg₂ StateKey.mk isOwn sameKey.symm
  exact ⟨target, isTarget, job, isJob, rfl, traced⟩

inductive Entry.Belongs (settings : Settings) (slot : Slot) (index : Nat) (history : History) :
    Entry → Prop where
  | tick (exchange : Exchange) (before after : TickView) (step : TickStep before exchange after)
      (isTold : before.IsTold (history.ofJob (.tick index))) :
      Belongs settings slot index history ⟨.tick index, exchange⟩
  | opening (agent : Agent) (isTold : history.Tells index agent) (exchange : Exchange)
      (isOpening : exchange.call.IsOpening) :
      Belongs settings slot index history ⟨.agent index agent.id, exchange⟩
  | closing (agent : Agent) (isTold : history.Tells index agent) (exchange : Exchange)
      (isClosing : exchange.call.IsClosing agent.id agent.scope.targetKeys) :
      Belongs settings slot index history ⟨.agent index agent.id, exchange⟩
  | visit (agent : Agent) (isTold : history.Tells index agent) (target : Target)
      (isTarget : target.key ∈ agent.scope.targetKeys) (exchange : Exchange)
      (before after : VisitStage)
      (step : VisitStep { settings, slot, agent, target } before exchange after) :
      Belongs settings slot index history
        ⟨.visit index { settings, slot, agent, target }, exchange⟩

namespace Pool

variable {agents : List Agent} {pool : Pool Program}

/-- The agents of a tick that is over are those that have come to its outcomes. -/
theorem Traced.yields [UrlParser] (traced : pool.Traced settings slot index history agents)
    (isDone : pool.isDone = true) : ∃ finished : List Agent, finished.Perm agents ∧
      List.Forall₂ (Agent.Yields settings slot index history) finished pool.outcomes := by
  obtain ⟨finished, yields, isPerm⟩ := traced.finished
  simp only [Pool.isDone, Bool.and_eq_true, List.isEmpty_iff] at isDone
  rw [isDone.1, isDone.2, List.map_nil, List.append_nil, List.append_nil] at isPerm
  exact ⟨finished, isPerm, yields⟩

end Pool

/-- How a tick ends, and what it reports. -/
theorem Slot.ends_closeTick {startedAt : Instant} {outcomes : List AgentOutcome}
    {exchanges : List Exchange}
    (closed : (slot.closeTick startedAt outcomes).Ends exchanges report) :
    ∃ collected early finishedAt, collectDeleted.Ends early collected ∧
      report = .ofOutcomes slot startedAt finishedAt outcomes collected ∧
      exchanges = [⟨.publish (.tickCompleted slot.tick report.evaluated report.fired
        report.skipped), ()⟩, ⟨.clock, finishedAt⟩] ++ early := by
  obtain ⟨collected, later, early, rfl, deleted, finishes⟩ := Program.ends_bind_iff.1 closed
  obtain ⟨finishedAt, last, rfl, announces⟩ := Program.ends_ask_iff.1 finishes
  obtain ⟨_, none, rfl, returns⟩ := Program.ends_ask_iff.1 announces
  obtain ⟨rfl, rfl⟩ := Program.ends_done_iff.1 returns
  exact ⟨collected, early, finishedAt, deleted, rfl, rfl⟩

theorem TickView.IsTold.mono {view : TickView} {past exchanges : List Exchange}
    (isTold : view.IsTold past) (isPart : past ⊆ exchanges) : view.IsTold exchanges := by
  cases view with
  | nothing => trivial
  | active agents | known agents => exact isPart isTold

namespace Entry.Belongs

/-- What a tick does before or after the work on its agents belongs to it. -/
theorem of_path {exchanges : List Exchange} {view : TickView}
    (path : Program.Path TickStep .nothing exchanges view)
    (areOwn : exchanges ⊆ history.ofJob (.tick index)) {exchange : Exchange}
    (found : exchange ∈ exchanges) :
    Belongs settings slot index history ⟨.tick index, exchange⟩ := by
  obtain ⟨past, before, after, isPast, earlier, step⟩ := path.mem found
  exact .tick exchange before after step ((TickStep.isTold earlier).mono fun other older =>
    areOwn (isPast.subset (List.mem_cons_of_mem _ older)))

theorem of_visited {agent : Agent} (isTold : history.Tells index agent) {targets : List Target}
    {visits : List (Program (Option TargetReport))}
    (visited : agent.Visited settings slot index history targets visits)
    (keys : targets.map Target.key = agent.scope.targetKeys) {visit : Visit} {exchange : Exchange}
    (logged : ⟨.visit index visit, exchange⟩ ∈ history) (isOwn : visit.key.agent = agent.id) :
    Belongs settings slot index history ⟨.visit index visit, exchange⟩ := by
  obtain ⟨target, isTarget, job, -, rfl, traced⟩ := visited.visit logged isOwn
  obtain ⟨stage, path, -⟩ := (Visit.run_follows _).path traced.leads
  obtain ⟨past, before, after, -, -, step⟩ := path.mem (History.mem_ofJob.2 ⟨_, logged, rfl⟩)
  refine .visit agent isTold target ?_ exchange before after step
  rw [← keys]
  exact List.mem_map_of_mem isTarget

/-- What is done for an agent belongs to its tick. -/
theorem of_yields [UrlParser] {agent : Agent} (isTold : history.Tells index agent)
    {outcome : AgentOutcome} (yields : agent.Yields settings slot index history outcome)
    (logged : entry ∈ history)
    (isOwn : entry.owner? = some (index, agent.id)) :
    entry.Belongs settings slot index history := by
  obtain ⟨job, isJob, isOwn⟩ := Option.bind_eq_some_iff.1 isOwn
  have found := History.mem_ofJob.2 ⟨_, logged, isJob⟩
  obtain ⟨actor, exchange⟩ := entry
  cases actor with
  | tick index | request index => cases isJob <;> cases isOwn
  | agent index id =>
      cases isJob
      cases isOwn
      cases yields with
      | failed failure opened unvisited =>
          have uses := (slot.openAgent_uses settings agent).leads opened
          exact .opening agent isTold exchange (uses.1 exchange found)
      | finished targets reports collected later early parts opened visited closed =>
          rw [parts] at found
          rcases List.mem_append.1 found with isLate | isEarly
          · have uses := (slot.closeAgent_uses agent targets).leads closed
            rw [Slot.keys_of_opened opened] at uses
            exact .closing agent isTold exchange (uses.1 exchange isLate)
          · have uses := (slot.openAgent_uses settings agent).leads opened
            exact .opening agent isTold exchange (uses.1 exchange isEarly)
  | visit own visit =>
      cases isJob
      have sameIndex : own = index := congrArg Prod.fst (Option.some.inj isOwn)
      have sameAgent : visit.key.agent = agent.id := congrArg Prod.snd (Option.some.inj isOwn)
      subst sameIndex
      cases yields with
      | failed failure opened unvisited =>
          have nothing := unvisited visit.key.target
          rw [← sameAgent] at nothing
          exact absurd found (nothing ▸ List.not_mem_nil)
      | finished targets reports collected later early parts opened visited closed =>
          exact of_visited isTold visited (Slot.keys_of_opened opened) logged sameAgent

end Entry.Belongs

/-- Whatever a log has of a tick that is over belongs to the tick. -/
theorem Slot.Yields.belongs [UrlParser] (yields : slot.Yields settings index history report)
    (logged : entry ∈ history) {job : JobId} (isJob : entry.actor.job? = some job)
    (isIndex : job.index = index) : entry.Belongs settings slot index history := by
  cases isOwner : job.owner? with
  | none =>
      obtain ⟨actor, exchange⟩ := entry
      obtain rfl : actor = .tick index := by
        cases actor with
        | tick own =>
            cases isJob
            exact congrArg Actor.tick isIndex
        | agent | visit =>
            cases isJob
            cases isOwner
        | request => cases isJob
      have found := History.mem_ofJob.2 ⟨_, logged, rfl⟩
      cases yields with
      | failed startedAt report opened leaves =>
          obtain ⟨view, path, -⟩ := slot.openTick_follows.path opened
          exact .of_path path (List.Subset.refl _) found
      | finished agents pool report later early parts opened worked isDone closed =>
          rw [parts] at found
          rcases List.mem_append.1 found with isLate | isEarly
          · obtain ⟨view, path, -⟩ := (slot.closeTick_follows _ _).path closed
            exact .of_path path (parts ▸ List.subset_append_left ..) isLate
          · obtain ⟨view, path, -⟩ := slot.openTick_follows.path opened
            exact .of_path path (parts ▸ List.subset_append_right ..) isEarly
  | some owner =>
      obtain ⟨own, id⟩ := owner
      obtain rfl : own = index := (JobId.index_eq_of_owner? isOwner).symm.trans isIndex
      have isOwn : entry.owner? = some (own, id) := by
        rw [Entry.owner?, isJob]
        exact isOwner
      cases yields with
      | failed startedAt report opened leaves => exact absurd isOwn (leaves id entry logged)
      | finished agents pool report later early parts opened worked isDone closed =>
          have isId : id ∈ agents.map Agent.id := by
            by_contra isNone
            exact worked.others id isNone entry logged isOwn
          obtain ⟨agent, isAgent, rfl⟩ := List.mem_map.1 isId
          obtain ⟨finished, isPerm, yields⟩ := worked.yields isDone
          obtain ⟨outcome, -, yields⟩ := forall₂_left yields (isPerm.symm.subset isAgent)
          refine .of_yields ⟨agents, ?_, isAgent⟩ yields logged isOwn
          rw [parts]
          exact List.mem_append_right _ (Slot.told_of_opened opened)

/-- Whatever a log has belongs to its only tick. -/
theorem Slot.Yields.allBelong [UrlParser] (yields : slot.Yields settings index history report)
    (jobs : ∀ entry ∈ history, ∃ job, entry.actor.job? = some job ∧ job.index = index) :
    ∀ entry ∈ history, entry.Belongs settings slot index history := by
  intro entry logged
  obtain ⟨job, isJob, isIndex⟩ := jobs entry logged
  exact yields.belongs logged isJob isIndex

namespace Entry.Belongs

variable {key : StateKey}

/-- A tick neither registers nor deletes agents. -/
theorem not_replaces (belongs : entry.Belongs settings slot index history) (id : AgentId) :
    ¬ entry.exchange.Replaces id := by
  intro replaces
  have isQuery := replaces.call_cases
  cases belongs with
  | tick exchange before after step isTold =>
      cases step with
      | note view exchange isNote =>
          rcases isQuery with ⟨agent, isQuery⟩ | isQuery <;> rw [isQuery] at isNote <;> cases isNote
      | _ => cases replaces
  | opening agent isTold exchange isOpening =>
      rcases isQuery with ⟨agent, isQuery⟩ | isQuery <;> rw [isQuery] at isOpening <;>
        cases isOpening
  | closing agent isTold exchange isClosing =>
      rcases isQuery with ⟨agent, isQuery⟩ | isQuery <;> rw [isQuery] at isClosing <;>
        cases isClosing
  | visit agent isTold target isTarget exchange before after step =>
      rcases isQuery with ⟨agent, isQuery⟩ | isQuery <;> exact step.not_agents _ isQuery

/-- States are saved only by visits of targets that agents of the tick have. -/
theorem saved_cases (belongs : entry.Belongs settings slot index history) {state : TargetState}
    (saved : entry.exchange.saved? key = some state) :
    ∃ agent, history.Tells index agent ∧ key.agent = agent.id ∧
      key.target ∈ agent.scope.targetKeys ∧
      ∃ visit, entry.actor = .visit index visit ∧ visit.key = key := by
  obtain ⟨actor, exchange⟩ := entry
  obtain rfl := Exchange.saved?_eq_some.1 saved
  cases belongs with
  | tick exchange before after step =>
      cases step with
      | note view exchange isNote => cases isNote
  | opening agent isTold exchange isOpening => cases isOpening
  | closing agent isTold exchange isClosing => cases isClosing
  | visit agent isTold target isTarget exchange before after step =>
      obtain ⟨rfl, -⟩ := step.put_cases rfl
      exact ⟨agent, isTold, rfl, isTarget, _, rfl, rfl⟩

/-- States are removed for agents that the tick was not told of, and for those that no longer have
the target. -/
theorem drops_cases (belongs : entry.Belongs settings slot index history)
    (drops : entry.exchange.Drops key) :
    (∃ agents, ⟨.agents .list, .ok agents⟩ ∈ history.ofJob (.tick index) ∧
        ∀ agent ∈ agents, agent.id ≠ key.agent) ∨
      ∃ agent, history.Tells index agent ∧ key.agent = agent.id ∧
        key.target ∉ agent.scope.targetKeys ∧ entry.actor = .agent index agent.id := by
  obtain ⟨query, isQuery, drops⟩ := drops
  cases belongs with
  | tick exchange before after step isTold =>
      cases step with
      | remove agents owner answer isGone =>
          cases isQuery
          refine Or.inl ⟨agents, isTold, ?_⟩
          rwa [beq_iff_eq.1 drops]
      | note view exchange isNote =>
          rw [isQuery] at isNote
          cases query <;> first | cases drops | cases isNote
      | _ => cases isQuery
  | opening agent isTold exchange isOpening =>
      rw [isQuery] at isOpening
      cases isOpening
  | closing agent isTold exchange isClosing =>
      rw [isQuery] at isClosing
      cases query with
      | retain owner keep =>
          obtain ⟨rfl, rfl⟩ := isClosing
          obtain ⟨isOwn, isNone⟩ := StateQuery.drops_retain.1 drops
          exact Or.inr ⟨agent, isTold, isOwn, isNone, rfl⟩
      | _ => cases isClosing
  | visit agent isTold target isTarget exchange before after step =>
      rcases step.states_cases isQuery with rfl | ⟨state, rfl⟩ <;> cases drops

end Entry.Belongs

/-! ## When an agent was last evaluated -/

theorem Agent.resolve_unmarked (limit : Span) (agent : Agent) :
    agent.unmarked.resolve limit = agent.resolve limit := by
  unfold Agent.resolve
  cases selection : agent.scope.selection with
  | all aggregate =>
      cases aggregate with
      | false => simp only [Agent.unmarked, selection]
      | true =>
          simp only [Agent.unmarked, selection]
          -- The two matches below are over types that mention the agents, so neither is the other.
          refine congrArg (Program.call _) (funext fun reply => ?_)
          simp only [Program.andThen]
          cases Reply.metrics limit reply <;> rfl
  | listed ids => simp only [Agent.unmarked, selection]

/-- When an agent was last evaluated does not matter for its targets. -/
theorem Slot.openAgent_unmarked [UrlParser] (agent : Agent) :
    slot.openAgent settings agent.unmarked = slot.openAgent settings agent := by
  unfold Slot.openAgent
  rw [Agent.resolve_unmarked]
  rfl

/-- Whether the check and the search for targets of an agent came to a result in a tick. -/
def History.Opens [UrlParser] (settings : Settings) (slot : Slot) (index : Nat) (agent : Agent)
    (found : Except Failure (List Target)) (history : History) : Prop :=
  ∃ later early, history.ofJob (.agent index agent.id) = later ++ early ∧
    (slot.openAgent settings agent).Ends early found

theorem History.Opens.congr [UrlParser] {agent stored : Agent}
    {found : Except Failure (List Target)} (opens : history.Opens settings slot index agent found)
    (same : agent.unmarked = stored.unmarked) :
    history.Opens settings slot index stored found := by
  obtain ⟨later, early, parts, opened⟩ := opens
  rw [← Slot.openAgent_unmarked, same, Slot.openAgent_unmarked] at opened
  rw [(Agent.eq_of_unmarked same).1] at parts
  exact ⟨later, early, parts, opened⟩

/-! ## What a tick was told -/

/-- Whether a key is that of a target of an active agent. -/
def Shared.Watches (shared : Shared outside) (key : StateKey) : Prop :=
  ∃ stored, Table.get? shared.agents key.agent = some stored ∧ stored.isActive = true ∧
    key.target ∈ stored.scope.targetKeys

theorem Shared.watches_iff {shared : Shared outside} {key : StateKey} {stored : Agent}
    (isStored : Table.get? shared.agents key.agent = some stored) :
    shared.Watches key ↔ stored.isActive = true ∧ key.target ∈ stored.scope.targetKeys := by
  constructor
  · rintro ⟨own, isOwn, watches⟩
    cases isStored.symm.trans isOwn
    exact watches
  · exact fun watches => ⟨stored, isStored, watches⟩

section Told

variable {admits : Reaction outside → Prop} {first after : Shared outside}

/-- An agent that a tick was told to be active is stored, and was active from the start. -/
theorem History.Tells.stored {agent : Agent} (tells : history.Tells index agent)
    (evolves : Shared.Evolves admits first history after) (keyed : first.agents.IsKeyed)
    (belongs : ∀ entry ∈ history, entry.Belongs settings slot index history) :
    ∃ stored, Table.get? first.agents agent.id = some stored ∧ agent.unmarked = stored.unmarked ∧
      stored.isActive = true := by
  obtain ⟨agents, told, isAgent⟩ := tells
  obtain ⟨actor, logged, -⟩ := History.mem_ofJob.1 told
  obtain ⟨store, resembles, same⟩ :=
    evolves.told (fun entry logged => (belongs entry logged).not_replaces) logged
  cases same
  obtain ⟨isAgent, isActive⟩ := List.mem_filter.1 isAgent
  obtain ⟨stored, isFirst, same⟩ := resembles.mem_agents keyed isAgent
  exact ⟨stored, isFirst, same, (congrArg Agent.isActive same).symm.trans isActive⟩

/-- The targets that are watched of an agent that a tick was told of are those of its scope. -/
theorem History.Tells.watches_iff {agent : Agent} (tells : history.Tells index agent)
    (evolves : Shared.Evolves admits first history after) (keyed : first.agents.IsKeyed)
    (belongs : ∀ entry ∈ history, entry.Belongs settings slot index history)
    {target : TargetKey} :
    first.Watches ⟨agent.id, target⟩ ↔ target ∈ agent.scope.targetKeys := by
  obtain ⟨stored, isStored, same, isActive⟩ := tells.stored evolves keyed belongs
  rw [Shared.watches_iff isStored, (Agent.eq_of_unmarked same).2]
  exact and_iff_right isActive

variable (evolves : Shared.Evolves admits first history after) (keyed : first.agents.IsKeyed)
  (belongs : ∀ entry ∈ history, entry.Belongs settings slot index history)

include evolves belongs

/-- Every active agent is one that a tick is told of. -/
theorem Shared.Evolves.active_told {actor : Actor} {agents : List Agent}
    (told : ⟨actor, ⟨.agents .listActive, .ok agents⟩⟩ ∈ history) {id : AgentId} {stored : Agent}
    (isStored : Table.get? first.agents id = some stored) (isActive : stored.isActive = true) :
    ∃ agent ∈ agents, agent.unmarked = stored.unmarked := by
  obtain ⟨store, resembles, same⟩ :=
    evolves.told (fun entry logged => (belongs entry logged).not_replaces) told
  cases same
  obtain ⟨agent, isOther, same⟩ := resembles.symm.stored isStored
  have active : agent.isActive = true := (congrArg Agent.isActive same).symm.trans isActive
  exact ⟨agent, List.mem_filter.2 ⟨AgentStore.mem_agents.2 ⟨id, isOther⟩, active⟩, same.symm⟩

include keyed

/-- The agents that a tick is told of are those that are stored. -/
theorem Shared.Evolves.known_told {actor : Actor} {agents : List Agent}
    (told : ⟨actor, ⟨.agents .list, .ok agents⟩⟩ ∈ history) {id : AgentId} :
    (∃ agent ∈ agents, agent.id = id) ↔ ∃ stored, Table.get? first.agents id = some stored := by
  obtain ⟨store, resembles, same⟩ :=
    evolves.told (fun entry logged => (belongs entry logged).not_replaces) told
  cases same
  constructor
  · rintro ⟨agent, isAgent, rfl⟩
    obtain ⟨stored, isStored, -⟩ := resembles.mem_agents keyed isAgent
    exact ⟨stored, isStored⟩
  · rintro ⟨stored, isStored⟩
    obtain ⟨agent, isOther, same⟩ := resembles.symm.stored isStored
    refine ⟨agent, AgentStore.mem_agents.2 ⟨id, isOther⟩, ?_⟩
    exact (Agent.eq_of_unmarked same).1.symm.trans (keyed id stored isStored)

/-- States are saved only for targets of active agents. -/
theorem Shared.Evolves.watches_of_saved {entry : Entry} (logged : entry ∈ history) {key : StateKey}
    {state : TargetState} (saved : entry.exchange.saved? key = some state) :
    first.Watches key := by
  obtain ⟨agent, tells, isOwn, isTarget, -⟩ := (belongs entry logged).saved_cases saved
  obtain ⟨stored, isStored, same, isActive⟩ := tells.stored evolves keyed belongs
  refine ⟨stored, isOwn ▸ isStored, isActive, ?_⟩
  rwa [← (Agent.eq_of_unmarked same).2]

theorem Shared.Evolves.saves_eq_nil {key : StateKey} (isNone : ¬ first.Watches key) :
    history.saves key = [] :=
  History.saves_eq_nil fun _ logged _ saved =>
    isNone (evolves.watches_of_saved keyed belongs logged saved)

/-- States are removed only of agents that are not stored, and of targets that active agents do not
have. -/
theorem Shared.Evolves.gone_of_drops {entry : Entry} (logged : entry ∈ history) {key : StateKey}
    (drops : entry.exchange.Drops key) :
    Table.get? first.agents key.agent = none ∨
      ∃ stored, Table.get? first.agents key.agent = some stored ∧ stored.isActive = true ∧
        key.target ∉ stored.scope.targetKeys ∧ entry.actor = .agent index key.agent := by
  rcases (belongs entry logged).drops_cases drops with
    ⟨agents, told, isGone⟩ | ⟨agent, tells, isOwn, isNone, isActor⟩
  · obtain ⟨actor, told, -⟩ := History.mem_ofJob.1 told
    refine Or.inl (Option.eq_none_iff_forall_ne_some.2 fun stored isStored => ?_)
    obtain ⟨agent, isAgent, same⟩ := (evolves.known_told keyed belongs told).2 ⟨stored, isStored⟩
    exact isGone agent isAgent same
  · obtain ⟨stored, isStored, same, isActive⟩ := tells.stored evolves keyed belongs
    rw [← isOwn] at isStored isActor
    refine Or.inr ⟨stored, isStored, isActive, ?_, isActor⟩
    rwa [← (Agent.eq_of_unmarked same).2]

/-- States of targets of active agents are not removed. -/
theorem Shared.Evolves.not_drops {key : StateKey} (watches : first.Watches key) {entry : Entry}
    (logged : entry ∈ history) : ¬ entry.exchange.Drops key := by
  intro drops
  obtain ⟨stored, isStored, -, isTarget⟩ := watches
  rcases evolves.gone_of_drops keyed belongs logged drops with isNone | ⟨own, isOwn, -, isNone, -⟩
  · cases isStored.symm.trans isNone
  · cases isStored.symm.trans isOwn
    exact isNone isTarget

end Told

/-! ## Ticks that nothing overlaps -/

/-- A system that begins a tick at some time. -/
def System.solo (settings : Settings) (shared : Shared outside) (now : Instant) :
    System outside :=
  ⟨[.start (settings.slot now)], [], shared, []⟩

def Turn.begins : Turn outside → Bool
  | .begin _ => true
  | _ => false

namespace System

theorem solo_traced [UrlParser] {shared : Shared outside} (keyed : shared.agents.IsKeyed)
    (now : Instant) : (solo settings shared now).Traced settings where
  keyed := keyed
  truthful := List.forall_mem_nil _
  ticks index run found := by
    obtain ⟨rfl, rfl⟩ : index = 0 ∧ run = .start (settings.slot now) := by
      cases index with
      | zero => exact ⟨rfl, (Option.some.inj found).symm⟩
      | succ index => cases found
    exact ⟨.start, fun id => List.forall_mem_nil _⟩
  begun := List.forall_mem_nil _

theorem solo_evolves [UrlParser] {shared : Shared outside} (now : Instant)
    (turns : List (Turn outside)) :
    Shared.Evolves (fun _ => True) shared ((solo settings shared now).run settings turns).log
      ((solo settings shared now).run settings turns).shared := by
  have first : Shared.Evolves (fun _ => True) shared (solo settings shared now).log
      (solo settings shared now).shared := .start
  exact run_evolves first fun turn _ => by cases turn <;> trivial

/-- Whether a system has one tick, whose programs alone make calls. -/
structure IsSolo [UrlParser] (settings : Settings) (now : Instant) (system : System outside) :
    Prop where
  traced : system.Traced settings
  single : ∃ run : TickRun Program, system.ticks = [run] ∧ run.slot = settings.slot now
  jobs : ∀ entry ∈ system.log, ∃ job, entry.actor.job? = some job ∧ job.index = 0

namespace IsSolo

variable {system : System outside} {now : Instant}

theorem modify [UrlParser] (isSolo : system.IsSolo settings now) {index : Nat}
    {change : TickRun Program → TickRun Program} (keeps : ∀ run, (change run).slot = run.slot) :
    ∃ run : TickRun Program,
      system.ticks.modify index change = [run] ∧ run.slot = settings.slot now := by
  obtain ⟨run, isSingle, sameSlot⟩ := isSolo.single
  rw [isSingle]
  cases index with
  | zero => exact ⟨change run, rfl, (keeps run).trans sameSlot⟩
  | succ index => exact ⟨run, by rw [List.modify_succ_cons, List.modify_nil], sameSlot⟩

theorem take [UrlParser] (isSolo : system.IsSolo settings now) {turn : Turn outside}
    (isAlone : turn.begins = false) :
    (system.take settings turn).IsSolo settings now := by
  refine ⟨isSolo.traced.take turn, ?_, ?_⟩
  · cases turn with
    | begin => cases isAlone
    | settle index position =>
        cases position with
        | none => exact isSolo.modify fun run => run.slot_settle
        | some position => exact isSolo.modify fun run => run.slot_settleAgent position
    | proceed index spot reaction =>
        simp only [System.take]
        split
        · exact isSolo.single
        · rename_i entry next shared found
          obtain ⟨run, isTick, proceeds⟩ := Option.bind_eq_some_iff.1 found
          obtain ⟨own, isSingle, sameSlot⟩ := isSolo.single
          rw [isSingle] at isTick ⊢
          cases index with
          | zero =>
              cases isTick
              exact ⟨next, rfl, (TickRun.slot_proceed proceeds).trans sameSlot⟩
          | succ index => cases isTick
  · cases turn with
    | begin => cases isAlone
    | settle index position => cases position <;> exact isSolo.jobs
    | proceed index spot reaction =>
        simp only [System.take]
        split
        · exact isSolo.jobs
        · rename_i entry next shared found
          obtain ⟨run, isTick, proceeds⟩ := Option.bind_eq_some_iff.1 found
          obtain ⟨⟨job, isJob, isIndex⟩, -⟩ :=
            (isSolo.traced.ticks index run isTick).proceed proceeds
          obtain ⟨own, isSingle, -⟩ := isSolo.single
          rw [isSingle] at isTick
          refine List.forall_mem_cons.2 ⟨⟨job, isJob, ?_⟩, isSolo.jobs⟩
          cases index with
          | zero => exact isIndex
          | succ index => cases isTick

theorem run [UrlParser] (isSolo : system.IsSolo settings now) {turns : List (Turn outside)}
    (alone : ∀ turn ∈ turns, turn.begins = false) :
    (system.run settings turns).IsSolo settings now := by
  induction turns generalizing system with
  | nil => exact isSolo
  | cons turn rest ih =>
      obtain ⟨isAlone, alone⟩ := List.forall_mem_cons.1 alone
      exact ih (isSolo.take isAlone) alone

/-- What the tick reports is what its log yields. -/
theorem yields [UrlParser] (isSolo : system.IsSolo settings now) {run : TickRun Program}
    (isTick : system.ticks[0]? = some run) (isOver : run.report? = some report) :
    (settings.slot now).Yields settings 0 system.log report := by
  obtain ⟨own, isSingle, sameSlot⟩ := isSolo.single
  have traced := isSolo.traced.ticks 0 run isTick
  rw [isSingle] at isTick
  cases isTick
  obtain ⟨slot, phase⟩ := run
  cases phase with
  | closed report =>
      cases isOver
      cases sameSlot
      exact traced
  | opening | working | closing => cases isOver

end IsSolo

theorem solo_isSolo [UrlParser] {shared : Shared outside} (keyed : shared.agents.IsKeyed)
    (now : Instant) : (solo settings shared now).IsSolo settings now where
  traced := solo_traced keyed now
  single := ⟨_, rfl, rfl⟩
  jobs := List.forall_mem_nil _

section Over

variable [UrlParser] {shared : Shared outside} {now : Instant} {turns : List (Turn outside)}
  (keyed : shared.agents.IsKeyed) (alone : ∀ turn ∈ turns, turn.begins = false)
  (isOver : ((solo settings shared now).run settings turns).ticks[0]?.bind TickRun.report? =
    some report)

include keyed alone isOver

/-- What a tick that nothing overlaps reports is what its log yields. -/
theorem solo_yields : (settings.slot now).Yields settings 0
    ((solo settings shared now).run settings turns).log report := by
  obtain ⟨run, isTick, isOver⟩ := Option.bind_eq_some_iff.1 isOver
  exact ((solo_isSolo keyed now).run alone).yields isTick isOver

theorem solo_belongs : ∀ entry ∈ ((solo settings shared now).run settings turns).log,
    entry.Belongs settings (settings.slot now) 0
      ((solo settings shared now).run settings turns).log :=
  (solo_yields keyed alone isOver).allBelong ((solo_isSolo keyed now).run alone).jobs

end Over

end System

/-- An agent that watches the campaign `x`. -/
def Agent.watcher : Agent where
  id := "a"
  workspace := "w"
  name := "watcher"
  status := .active
  scope := ⟨⟨none, .campaign⟩, .listed ["x"]⟩
  condition := .threshold "spend" .above 100
  accumulation := ⟨1, .evaluations, .consecutive, none⟩
  trigger := ⟨.once, 0⟩
  actions := [.email]
  createdAt := default
  updatedAt := default
  lastEvaluatedAt := none

/-- How collaborators answer that know every entity as a campaign which has spent 150, and that take
every notification. -/
def Call.spending : (call : Call) → call.Answer
  | .metrics _ (.entity key) =>
      .answered (.ok (some ⟨key.entity, key.entity, .google, .campaign, none⟩))
  | .snapshots _ _ ids _ =>
      ⟨ids.map fun _ => .answered (.ok (some (.ofList [("spend", 150)]))), List.length_map _⟩
  | .enqueue .. => .answered (.ok ())
  | call => call.unheard

end AdMonitor
