import AdMonitor.Proofs.Interleaving.Accounting

/-!
# What a tick tells

A tick that nothing overlaps publishes what it reports: how it begins and ends,
what became of each target, which agents have failed, and how many states were
collected (`System.solo_narrates`).
-/

namespace AdMonitor

variable {outside : Outside} {settings : Settings} {slot : Slot} {index : Nat}
  {history : History} {agent : Agent} {active : List Agent} {report : TickReport}
  {own : TargetReport} {exchanges : List Exchange} {collected : Nat}

/-! ## Events -/

namespace Event

/-- The target that an event is about, with its agent. -/
def key? : Event → Option StateKey
  | .targetSkipped _ key _ | .targetEvaluated _ key .. | .targetFired _ key _
  | .actionCompleted _ key _ => some key
  | _ => none

def isFailure : Event → Bool
  | .agentFailed .. => true
  | _ => false

def isCollection : Event → Bool
  | .stateCollected .. => true
  | _ => false

/-- The number of states that an event says were removed. -/
def removed : Event → Nat
  | .stateCollected _ count => count
  | _ => 0

def total (events : List Event) : Nat := (events.map removed).sum

theorem total_append (first second : List Event) :
    total (first ++ second) = total first + total second := by
  rw [total, List.map_append, List.sum_append]
  rfl

theorem total_flatMap {α : Type} (items : List α) (parts : α → List Event) :
    total (items.flatMap parts) = (items.map fun item => total (parts item)).sum := by
  induction items with
  | nil => rfl
  | cons item rest ih => rw [List.flatMap_cons, total_append, ih, List.map_cons, List.sum_cons]

theorem total_perm {first second : List Event} (isPerm : first.Perm second) :
    total first = total second :=
  (isPerm.map removed).sum_eq

theorem total_filter (events : List Event) : total (events.filter isCollection) = total events := by
  induction events with
  | nil => rfl
  | cons event rest ih =>
      rw [List.filter_cons]
      cases event <;> simpa [total, removed, isCollection] using ih

/-- Whether events tell only of states that were collected, and of so many. -/
structure Tally (count : Nat) (events : List Event) : Prop where
  total : total events = count
  collections : ∀ event ∈ events, event.isCollection = true

/-- Events about targets tell neither of failures nor of collected states. -/
theorem plain_of_key {event : Event} {key : StateKey} (isKey : event.key? = some key) :
    event.isFailure = false ∧ event.isCollection = false := by
  cases event with
  | targetSkipped | targetEvaluated | targetFired | actionCompleted => exact ⟨rfl, rfl⟩
  | tickStarted | agentFailed | tickCompleted | stateCollected => cases isKey

end Event

/-- The event by which the failure of an agent is told. -/
def AgentFailure.event (tick : TickNumber) (failure : AgentFailure) : Event :=
  .agentFailed tick failure.agent failure.error

/-- Events about a target name it. -/
theorem TargetReport.Narrates.key {tick : TickNumber} {events : List Event}
    (narrates : own.Narrates tick events) {event : Event} (found : event ∈ events) :
    event.key? = some own.key := by
  cases narrates with
  | skipped | held =>
      cases List.mem_singleton.1 found
      rfl
  | fired key verdict satisfied count records =>
      rcases List.mem_append.1 found with isFirst | isRecord
      · rcases List.mem_cons.1 isFirst with rfl | isSecond
        · rfl
        · cases List.mem_singleton.1 isSecond
          rfl
      · obtain ⟨record, -, rfl⟩ := List.mem_map.1 isRecord
        rfl

namespace Exchange

theorem mem_events {event : Event} :
    event ∈ events exchanges ↔ ∃ exchange ∈ exchanges, exchange.event? = some event := by
  rw [events, List.mem_reverse, List.mem_filterMap]

theorem events_cons (exchange : Exchange) :
    events (exchange :: exchanges) = events exchanges ++ exchange.event?.toList := by
  rw [← List.singleton_append, events_append]
  cases isEvent : exchange.event? <;> simp [events, isEvent]

end Exchange

namespace History

/-- What a log has published, the oldest event first. -/
def events (history : History) : List Event := Exchange.events (history.map Entry.exchange)

theorem events_cons (entry : Entry) :
    events (entry :: history) = events history ++ entry.exchange.event?.toList :=
  Exchange.events_cons entry.exchange

/-- When a test tells the events of one job from all others, these are what passes it. -/
theorem filter_events {test : Event → Bool} {job : JobId}
    (tells : ∀ entry ∈ history, ∀ event, entry.exchange.event? = some event →
      (test event = true ↔ entry.actor.job? = some job)) :
    history.events.filter test = Exchange.events (history.ofJob job) := by
  induction history with
  | nil => rfl
  | cons entry rest ih =>
      obtain ⟨isOwn, tells⟩ := List.forall_mem_cons.1 tells
      rw [events_cons, List.filter_append, ih tells]
      by_cases isJob : entry.actor.job? = some job
      · rw [ofJob_cons_own isJob, Exchange.events_cons]
        cases isEvent : entry.exchange.event? with
        | none => rfl
        | some event => simp [(isOwn event isEvent).2 isJob]
      · rw [ofJob_cons_other isJob]
        cases isEvent : entry.exchange.event? with
        | none => exact List.append_nil _
        | some event => simp [mt (isOwn event isEvent).1 isJob]

/-- What a list adds for one of its items is added once. -/
theorem flatMap_ite {α β : Type} [DecidableEq α] {items : List α} (nodup : items.Nodup) {item : α}
    (found : item ∈ items) (added : List β) :
    (items.flatMap fun other => if some item = some other then added else []) = added := by
  obtain ⟨front, back, rfl⟩ := List.append_of_mem found
  have isNew := (List.nodup_cons.1 (List.nodup_middle.1 nodup)).1
  have nothing : ∀ others ⊆ front ++ back,
      (others.flatMap fun other => if some item = some other then added else []) = [] := by
    refine fun others isPart => List.flatMap_eq_nil_iff.2 fun other isOther => if_neg ?_
    rintro ⟨⟩
    exact isNew (isPart isOther)
  rw [List.flatMap_append, List.flatMap_cons, nothing front (List.subset_append_left ..),
    nothing back (List.subset_append_right ..), if_pos rfl, List.nil_append, List.append_nil]

/-- The events that pass a test are those of the jobs that publish such events, in some order. -/
theorem filter_events_perm {test : Event → Bool} {jobs : List JobId} (nodup : jobs.Nodup)
    (covers : ∀ entry ∈ history, ∀ event, entry.exchange.event? = some event →
      test event = true → ∃ job ∈ jobs, entry.actor.job? = some job) :
    (history.events.filter test).Perm
      (jobs.flatMap fun job => (Exchange.events (history.ofJob job)).filter test) := by
  induction history with
  | nil =>
      refine .of_eq (List.flatMap_eq_nil_iff.2 fun job _ => ?_).symm
      rfl
  | cons entry rest ih =>
      obtain ⟨isCovered, covers⟩ := List.forall_mem_cons.1 covers
      let added := entry.exchange.event?.toList.filter test
      have each : ∀ job ∈ jobs, (Exchange.events (ofJob job (entry :: rest))).filter test =
          (Exchange.events (ofJob job rest)).filter test ++
            if entry.actor.job? = some job then added else [] := by
        intro job _
        by_cases isJob : entry.actor.job? = some job
        · rw [ofJob_cons_own isJob, Exchange.events_cons, List.filter_append, if_pos isJob]
        · rw [ofJob_cons_other isJob, if_neg isJob, List.append_nil]
      have once : (jobs.flatMap fun job => if entry.actor.job? = some job then added else []) =
          added := by
        by_cases isEmpty : added = []
        · rw [isEmpty]
          exact List.flatMap_eq_nil_iff.2 fun job _ => ite_self _
        · obtain ⟨event, found⟩ := List.exists_mem_of_ne_nil added isEmpty
          obtain ⟨isEvent, passes⟩ := List.mem_filter.1 found
          obtain ⟨job, isJob, same⟩ := isCovered event (Option.mem_toList.1 isEvent) passes
          rw [same]
          exact flatMap_ite nodup isJob added
      rw [events_cons, List.filter_append, List.flatMap_congr each]
      refine (ih covers).append_right added |>.trans ?_
      refine .trans (.of_eq ?_) (List.flatMap_append_perm ..)
      rw [once]

end History

/-! ## What programs tell -/

theorem Agent.events_resolve {limit : Span} {found : Except Failure (List Target)}
    (ends : (agent.resolve limit).Ends exchanges found) : Exchange.events exchanges = [] := by
  unfold Agent.resolve at ends
  split at ends
  · obtain ⟨reply, later, rfl, goesOn⟩ := Program.ends_ask_iff.1 ends
    split at goesOn <;>
    · obtain ⟨rfl, -⟩ := Program.ends_done_iff.1 goesOn
      rfl
  · obtain ⟨rfl, -⟩ := Program.ends_done_iff.1 ends
    rfl
  · obtain ⟨rfl, -⟩ := Program.ends_done_iff.1 ends
    rfl

namespace Slot

/-- The work on an agent before its visits tells of nothing but a failure. -/
theorem events_openAgent [UrlParser] {found : Except Failure (List Target)}
    (opened : (slot.openAgent settings agent).Ends exchanges found) :
    Exchange.events exchanges = match found with
      | .ok _ => []
      | .error failure => [(AgentFailure.mk agent.id failure.message).event slot.tick] := by
  cases opensTo opened with
  | invalid failure isInvalid => rfl
  | unresolved failure lookup resolves =>
      rw [Exchange.events_cons, agent.events_resolve resolves]
      rfl
  | resolved targets lookup isValid resolves => exact agent.events_resolve resolves

theorem events_collectOrphans {id : AgentId} {keep : List TargetKey}
    (ends : (collectOrphans id keep).Ends exchanges collected) :
    Event.Tally collected (Exchange.events exchanges) := by
  obtain ⟨answer, later, rfl, goesOn⟩ := Program.ends_ask_iff.1 ends
  split at goesOn
  · obtain ⟨rfl, rfl⟩ := Program.ends_done_iff.1 goesOn
    exact ⟨rfl, List.forall_mem_nil _⟩
  · obtain ⟨rfl, rfl⟩ := Program.ends_done_iff.1 goesOn
    exact ⟨rfl, List.forall_mem_nil _⟩
  · obtain ⟨_, last, rfl, announces⟩ := Program.ends_ask_iff.1 goesOn
    obtain ⟨_, none, rfl, returns⟩ := Program.ends_ask_iff.1 announces
    obtain ⟨rfl, rfl⟩ := Program.ends_done_iff.1 returns
    exact ⟨Nat.add_zero _, by simp [Exchange.events, Exchange.event?, Event.isCollection]⟩

/-- The work on an agent after its visits tells of the states that were collected. -/
theorem events_closeAgent {targets : List Target}
    (closed : (slot.closeAgent agent targets).Ends exchanges collected) :
    Event.Tally collected (Exchange.events exchanges) := by
  obtain ⟨count, later, early, rfl, collects, marks⟩ := Program.ends_bind_iff.1 closed
  obtain ⟨answer, none, rfl, returns⟩ := Program.ends_ask_iff.1 marks
  obtain ⟨rfl, rfl⟩ := Program.ends_done_iff.1 returns
  rw [Exchange.events_append]
  exact (List.append_nil (Exchange.events early)).symm ▸ events_collectOrphans collects

theorem events_collectOwners {owners : List AgentId}
    (ends : (collectOwners owners).Ends exchanges collected) :
    Event.Tally collected (Exchange.events exchanges) := by
  induction owners generalizing exchanges collected with
  | nil =>
      obtain ⟨rfl, rfl⟩ := Program.ends_done_iff.1 ends
      exact ⟨rfl, List.forall_mem_nil _⟩
  | cons owner rest ih =>
      obtain ⟨answer, later, rfl, goesOn⟩ := Program.ends_ask_iff.1 ends
      rw [Exchange.events_append]
      cases answer with
      | error failure => exact ih goesOn
      | ok removed =>
          obtain ⟨_, announced, rfl, announces⟩ := Program.ends_ask_iff.1 goesOn
          obtain ⟨_, both, rfl, continues⟩ := Program.ends_ask_iff.1 announces
          obtain ⟨others, none, last, rfl, ends', returns⟩ := Program.ends_bind_iff.1 continues
          obtain ⟨rfl, rfl⟩ := Program.ends_done_iff.1 returns
          obtain ⟨total, areCollections⟩ := ih ends'
          rw [Exchange.events_append, Exchange.events_append]
          refine ⟨?_, ?_⟩
          · exact congrArg (removed + ·) total
          · exact List.forall_mem_cons.2 ⟨rfl, areCollections⟩

theorem events_collectDeleted (ends : collectDeleted.Ends exchanges collected) :
    Event.Tally collected (Exchange.events exchanges) := by
  obtain ⟨answer, later, rfl, lists⟩ := Program.ends_ask_iff.1 ends
  rw [Exchange.events_append]
  cases answer with
  | error failure =>
      obtain ⟨rfl, rfl⟩ := Program.ends_done_iff.1 lists
      exact ⟨rfl, List.forall_mem_nil _⟩
  | ok known =>
      obtain ⟨answer, last, rfl, collects⟩ := Program.ends_ask_iff.1 lists
      rw [Exchange.events_append]
      cases answer with
      | error failure =>
          obtain ⟨rfl, rfl⟩ := Program.ends_done_iff.1 collects
          exact ⟨rfl, List.forall_mem_nil _⟩
      | ok owners => exact events_collectOwners collects

/-- A tick ends by telling what it has collected and what it reports. -/
theorem events_closeTick {startedAt : Instant} {outcomes : List AgentOutcome}
    (closed : (slot.closeTick startedAt outcomes).Ends exchanges report) :
    ∃ swept, Exchange.events exchanges = swept ++
        [.tickCompleted slot.tick report.evaluated report.fired report.skipped] ∧
      ∃ count, Event.Tally count swept ∧
        report.collected = (outcomes.map AgentOutcome.collected).sum + count := by
  obtain ⟨count, early, finishedAt, deleted, rfl, rfl⟩ := ends_closeTick closed
  refine ⟨Exchange.events early, Exchange.events_append, count, events_collectDeleted deleted, ?_⟩
  exact foldr_collected ..

end Slot

/-- The work on an agent tells of its failure and of what it has collected. -/
theorem Agent.Yields.events [UrlParser] {outcome : AgentOutcome}
    (yields : agent.Yields settings slot index history outcome) :
    (Exchange.events (history.ofJob (.agent index agent.id))).filter Event.isFailure =
        outcome.failure.toList.map (AgentFailure.event slot.tick) ∧
      Event.total (Exchange.events (history.ofJob (.agent index agent.id))) =
        outcome.collected := by
  cases yields with
  | failed failure opened unvisited =>
      rw [Slot.events_openAgent opened]
      exact ⟨rfl, rfl⟩
  | finished targets reports collected later early parts opened visited closed =>
      obtain ⟨total, areCollections⟩ := Slot.events_closeAgent closed
      rw [parts, Exchange.events_append, Slot.events_openAgent opened, List.nil_append]
      refine ⟨List.filter_eq_nil_iff.2 fun event found isFailure => ?_, total⟩
      have isCollection := areCollections event found
      cases event with
      | stateCollected => cases isFailure
      | _ => cases isCollection

/-! ## What a tick tells -/

/-- Whether events are those of a tick that nothing overlaps and that comes to a report. -/
structure TickReport.NarratedBy (slot : Slot) (active : List Agent) (events : List Event)
    (report : TickReport) : Prop where
  bounds : ∃ middle, events = .tickStarted slot.tick slot.now active.length ::
    middle ++ [.tickCompleted slot.tick report.evaluated report.fired report.skipped]
  targets : ∀ own ∈ report.targets,
    own.Narrates slot.tick (events.filter fun event => event.key? == some own.key)
  reported : ∀ event ∈ events, ∀ key, event.key? = some key → ∃ own ∈ report.targets, own.key = key
  failures : (events.filter Event.isFailure).Perm
    (report.failures.map (AgentFailure.event slot.tick))
  collected : Event.total events = report.collected

namespace Slot.Completes

variable [UrlParser] {pool : Pool Program} {later early : List Exchange}
  (completes : slot.Completes settings index history active pool later early report)
  (yields : slot.Yields settings index history report)
  (jobs : ∀ entry ∈ history, ∃ job, entry.actor.job? = some job ∧ job.index = index)

include completes jobs

theorem bounds (staged : slot.Staged index history) : ∃ middle, history.events =
    .tickStarted slot.tick slot.now active.length ::
      middle ++ [.tickCompleted slot.tick report.evaluated report.fired report.skipped] := by
  have isAll : history.ofTick index = history :=
    List.filter_eq_self.2 fun entry logged => by
      obtain ⟨job, isJob, isIndex⟩ := jobs entry logged
      rw [isJob]
      exact beq_iff_eq.2 isIndex
  obtain ⟨worked, -, parts⟩ := History.phases staged completes.parts completes.opened
  obtain ⟨swept, isSwept, -⟩ := Slot.events_closeTick completes.closed
  have areOwn : ∀ exchanges : List Exchange,
      (exchanges.map fun exchange => (⟨.tick index, exchange⟩ : Entry)).map Entry.exchange =
        exchanges := fun exchanges => (List.map_map ..).trans (List.map_id _)
  rw [isAll] at parts
  refine ⟨worked.events ++ swept, ?_⟩
  rw [History.events, parts, List.map_append, List.map_append, areOwn, areOwn,
    Exchange.events_append, Exchange.events_append, isSwept, Slot.ends_openTick completes.opened]
  simp [Exchange.events, Exchange.event?, History.events]

include yields

/-- Who tells of what. -/
theorem teller {entry : Entry} (logged : entry ∈ history) {event : Event}
    (isEvent : entry.exchange.event? = some event) :
    (∃ visit, entry.actor = .visit index visit ∧ event.key? = some visit.key ∧
        ∃ own ∈ report.targets, own.key = visit.key) ∨
      (event.key? = none ∧ (entry.actor = .tick index ∧ event.isFailure = false ∨
        ∃ agent ∈ active, entry.actor = .agent index agent.id)) := by
  obtain ⟨job, isJob, isIndex⟩ := jobs entry logged
  have known : ∀ {agent : Agent}, entry.actor = .agent index agent.id →
      ∃ agent ∈ active, entry.actor = .agent index agent.id := by
    intro agent isActor
    have isId : agent.id ∈ active.map Agent.id := by
      by_contra isNone
      refine completes.worked.others _ isNone entry logged ?_
      rw [Entry.owner?, isActor]
      rfl
    obtain ⟨own, isOwn, same⟩ := List.mem_map.1 isId
    exact ⟨own, isOwn, same ▸ isActor⟩
  have belongs := yields.belongs logged isJob isIndex
  obtain ⟨actor, call, answer⟩ := entry
  obtain rfl : call = .publish event := by
    unfold Exchange.event? at isEvent
    split at isEvent
    · rename_i same
      cases same
      cases isEvent
      rfl
    · cases isEvent
  cases belongs with
  | tick exchange before after step =>
      cases step with
      | note view exchange isNote =>
          cases event with
          | tickStarted | tickCompleted | stateCollected => exact Or.inr ⟨rfl, Or.inl ⟨rfl, rfl⟩⟩
          | _ => cases isNote
  | opening agent isTold exchange isOpening =>
      cases event with
      | agentFailed => exact Or.inr ⟨rfl, Or.inr (known rfl)⟩
      | _ => cases isOpening
  | closing agent isTold exchange isClosing =>
      cases event with
      | stateCollected => exact Or.inr ⟨rfl, Or.inr (known rfl)⟩
      | _ => cases isClosing
  | visit agent isTold target isTarget exchange before after step =>
      obtain ⟨own, isReport, traced⟩ := yields.reports logged
      have concludes := Visit.concludes traced.leads
      have found := History.mem_ofJob.2 ⟨_, logged, rfl⟩
      refine Or.inl ⟨_, rfl, ?_, own, isReport, concludes.key⟩
      rw [← concludes.key]
      exact concludes.narrates.key (Exchange.mem_events.2 ⟨_, found, rfl⟩)

/-- The events about a target are those of its visit. -/
theorem events_target (isReport : own ∈ report.targets) : own.Narrates slot.tick
    (history.events.filter fun event => event.key? == some own.key) := by
  obtain ⟨agent, -, target, -, concludes⟩ := completes.concludes isReport
  have same : (history.events.filter fun event => event.key? == some own.key) =
      Exchange.events (history.ofJob (.visit ⟨index, own.key⟩)) := by
    refine History.filter_events fun entry logged event isEvent => ?_
    rw [beq_iff_eq]
    rcases completes.teller yields jobs logged isEvent with
      ⟨visit, isActor, isKey, -⟩ | ⟨isNone, ⟨isActor, -⟩ | ⟨agent, -, isActor⟩⟩
    · rw [isKey, isActor]
      simp [Actor.job?]
    · rw [isNone, isActor]
      simp [Actor.job?]
    · rw [isNone, isActor]
      simp [Actor.job?]
  rw [same]
  exact concludes.narrates

theorem reported {event : Event} (found : event ∈ history.events) {key : StateKey}
    (isKey : event.key? = some key) : ∃ own ∈ report.targets, own.key = key := by
  obtain ⟨exchange, found, isEvent⟩ := Exchange.mem_events.1 found
  obtain ⟨entry, logged, rfl⟩ := List.mem_map.1 found
  rcases completes.teller yields jobs logged isEvent with
    ⟨visit, -, isOther, own, isReport, isOwn⟩ | ⟨isNone, -⟩
  · rw [isKey] at isOther
    cases isOther
    exact ⟨own, isReport, isOwn⟩
  · cases isKey.symm.trans isNone

theorem events_failures : (history.events.filter Event.isFailure).Perm
    (report.failures.map (AgentFailure.event slot.tick)) := by
  obtain ⟨finished, isPerm, areYields⟩ := completes.worked.yields completes.isDone
  have areJobs := (List.nodup_cons.1 (nodup_jobs index (completes.nodup_finished isPerm))).2
  refine (History.filter_events_perm areJobs
    fun entry logged event isEvent isFailure => ?_).trans ?_
  · rcases completes.teller yields jobs logged isEvent with
      ⟨visit, -, isKey, -⟩ | ⟨-, ⟨-, isOther⟩ | ⟨agent, isAgent, isActor⟩⟩
    · cases isFailure.symm.trans (Event.plain_of_key isKey).1
    · cases isFailure.symm.trans isOther
    · refine ⟨_, List.mem_map.2 ⟨agent, isPerm.symm.subset isAgent, rfl⟩, ?_⟩
      rw [isActor]
      rfl
  · have same := map_eq_of_forall₂ (areYields.imp fun _ _ own => (Agent.Yields.events own).1)
    rw [List.flatMap_map, List.flatMap_def, same, ← List.flatMap_def]
    rw [← List.map_flatMap, ← List.filterMap_eq_flatMap_toList]
    exact (completes.failures_perm.map _).symm

theorem total_events : Event.total history.events = report.collected := by
  obtain ⟨finished, isPerm, areYields⟩ := completes.worked.yields completes.isDone
  have areJobs := nodup_jobs index (completes.nodup_finished isPerm)
  have areSplit : (history.events.filter Event.isCollection).Perm _ :=
    History.filter_events_perm areJobs fun entry logged event isEvent isCollection => by
      rcases completes.teller yields jobs logged isEvent with
        ⟨visit, -, isKey, -⟩ | ⟨-, ⟨isActor, -⟩ | ⟨agent, isAgent, isActor⟩⟩
      · cases isCollection.symm.trans (Event.plain_of_key isKey).2
      · exact ⟨_, List.mem_cons_self, by rw [isActor]; rfl⟩
      · refine ⟨_, List.mem_cons_of_mem _ (List.mem_map.2
          ⟨agent, isPerm.symm.subset isAgent, rfl⟩), ?_⟩
        rw [isActor]
        rfl
  obtain ⟨swept, isSwept, count, tally, isCollected⟩ := Slot.events_closeTick completes.closed
  have ofTick : Event.total (Exchange.events (history.ofJob (.tick index))) = count := by
    rw [completes.parts, Exchange.events_append, isSwept, Slot.ends_openTick completes.opened,
      Event.total_append, Event.total_append, tally.total]
    exact Nat.zero_add _
  have same := map_eq_of_forall₂ (areYields.imp fun _ _ own => (Agent.Yields.events own).2)
  rw [← Event.total_filter, Event.total_perm areSplit, Event.total_flatMap, isCollected]
  simp only [Event.total_filter, List.map_cons, List.sum_cons, List.map_map, Function.comp_def,
    ofTick, same]
  exact Nat.add_comm ..

end Slot.Completes

/-- What a tick publishes that nothing overlaps is what it reports. -/
theorem Slot.Yields.narrates [UrlParser] (yields : slot.Yields settings index history report)
    (jobs : ∀ entry ∈ history, ∃ job, entry.actor.job? = some job ∧ job.index = index)
    (staged : slot.Staged index history)
    (told : ⟨.agents .listActive, .ok active⟩ ∈ history.ofJob (.tick index)) :
    report.NarratedBy slot active history.events := by
  obtain ⟨pool, later, early, completes⟩ := yields.completes told
  exact {
    bounds := completes.bounds jobs staged
    targets := fun own isReport => completes.events_target yields jobs isReport
    reported := fun event found key isKey => completes.reported yields jobs found isKey
    failures := completes.events_failures yields jobs
    collected := completes.total_events yields jobs }

namespace System

theorem solo_staged (settings : Settings) (shared : Shared outside) (now : Instant) :
    (solo settings shared now).Staged := fun _ _ _ _ _ isPast =>
  absurd (List.suffix_nil.1 isPast) (List.cons_ne_nil _ _)

/--
Whatever fails in a tick that nothing overlaps: if the tick is told of its
agents, the events that are published are those of its report.
-/
theorem solo_narrates [UrlParser] (settings : Settings) (shared : Shared outside)
    (keyed : shared.agents.IsKeyed) (now : Instant) {turns : List (Turn outside)}
    (alone : ∀ turn ∈ turns, turn.begins = false) {active : List Agent} {report : TickReport}
    (isOver : (((solo settings shared now).run settings turns).ticks[0]?.bind TickRun.report?) =
      some report)
    (told : ⟨.tick 0, ⟨.agents .listActive, .ok active⟩⟩ ∈
      ((solo settings shared now).run settings turns).log) :
    report.NarratedBy (settings.slot now) active
      (History.events ((solo settings shared now).run settings turns).log) := by
  have isSolo : ((solo settings shared now).run settings turns).IsSolo settings now :=
    (solo_isSolo keyed now).run alone
  obtain ⟨run, isTick, isOver⟩ := Option.bind_eq_some_iff.1 isOver
  have staged : ((solo settings shared now).performAll settings (turns.map .turn)).Staged :=
    performAll_staged (solo_staged settings shared now) (solo_traced keyed now) _
  rw [performAll_turns] at staged
  refine (isSolo.yields isTick isOver).narrates isSolo.jobs ?_ (History.mem_ofJob.2 ⟨_, told, rfl⟩)
  obtain ⟨own, isSingle, isSlot⟩ := isSolo.single
  have isStaged := staged 0 own (isSingle ▸ rfl)
  rwa [isSlot] at isStaged

/-- States of a target that its agent no longer has and of an agent that is gone. -/
def exampleLeftovers : Shared spending where
  agents := .ofAgents [.watcher]
  states := .ofList [(⟨"a", "old"⟩, blankState), (⟨"gone", "x"⟩, blankState)]
  locks := .empty
  world := ()

def exampleFiring : List (Turn spending) :=
  let next (spot : Spot) : Turn spending := .proceed 0 spot ⟨(), none, fun _ => false⟩
  List.replicate 3 (next .tick) ++ [.settle 0 none, .settle 0 (some 0)] ++
    List.replicate 12 (next (.visit 0 0)) ++ [.settle 0 (some 0)] ++
    List.replicate 4 (next (.agent 0)) ++ [.settle 0 (some 0), .settle 0 none] ++
    List.replicate 7 (next .tick) ++ [.settle 0 none]

attribute [local instance] UrlParser.refusing

theorem solo_narrates_exampleFiring :
    let system := (solo .standard exampleLeftovers default).run .standard exampleFiring
    (History.events system.log).map Event.name = ["tick_started", "target_evaluated",
      "target_fired", "action_completed", "state_collected", "state_collected",
      "tick_completed"] ∧
    ∃ report, system.ticks[0]?.bind TickRun.report? = some report ∧ report.collected = 2 ∧
      report.NarratedBy (Settings.standard.slot default) [.watcher]
        (History.events system.log) := by
  intro system
  have isOver : (system.ticks[0]?.bind TickRun.report?).any (fun report => report.collected == 2) =
      true := by
    decide +kernel
  obtain ⟨report, isOver, isCollected⟩ := (Option.any_eq_true ..).1 isOver
  have told : system.log.reverse[1]? =
      some ⟨.tick 0, ⟨.agents .listActive, .ok [.watcher]⟩⟩ := by
    set_option maxRecDepth 4000 in rfl
  refine ⟨by decide +kernel, report, isOver, beq_iff_eq.1 isCollected, ?_⟩
  exact solo_narrates .standard exampleLeftovers (AgentStore.ofAgents_keyed _) default
    (by decide +kernel) isOver (List.mem_reverse.1 (List.mem_of_getElem? told))

end System

end AdMonitor
