import AdMonitor.Proofs.Interleaving.Lasting
import AdMonitor.Proofs.Interleaving.Solo
import AdMonitor.Proofs.Visit.Decision

/-!
# Visits and what their ticks were told

Every visit is that of an agent as its tick was told of it
(`TickRun.Traced.serves`), and a tick that is over reports all of its visits.
A deed makes one call, edits one agent, or does neither (`System.Changes`).
-/

namespace AdMonitor

variable {outside : Outside} {settings : Settings} {slot : Slot} {index : Nat}
  {history : History} {visit : Visit} {exchange : Exchange}

structure Visit.Serves (settings : Settings) (slot : Slot) (index : Nat) (history : History)
    (visit : Visit) (agent : Agent) : Prop where
  settings : visit.settings = settings
  slot : visit.slot = slot
  agent : visit.agent = agent
  traced : ∃ job, visit.Traced index history job

theorem History.Leaves.not_visit {id : AgentId} (leaves : history.Leaves index id)
    (logged : ⟨.visit index visit, exchange⟩ ∈ history) : visit.key.agent ≠ id := by
  rintro rfl
  exact leaves _ logged rfl

/-- Whether a tick has found the targets of an agent, and has visited them as far as some programs
say. -/
structure Agent.Attended [UrlParser] (settings : Settings) (slot : Slot) (index : Nat)
    (history : History) (agent : Agent) (targets : List Target)
    (visits : List (Program (Option TargetReport))) : Prop where
  opened : ∃ early ⊆ history.ofJob (.agent index agent.id),
    (slot.openAgent settings agent).Ends early (.ok targets)
  visited : agent.Visited settings slot index history targets visits

/-- An agent that is done and has a visit has reports of all its targets. -/
theorem Agent.Yields.attended [UrlParser] {agent : Agent} {outcome : AgentOutcome}
    (yields : agent.Yields settings slot index history outcome)
    (logged : ⟨.visit index visit, exchange⟩ ∈ history) (isOwn : visit.key.agent = agent.id) :
    ∃ targets,
      agent.Attended settings slot index history targets (outcome.targets.map (.done ∘ some)) := by
  cases yields with
  | failed failure opened unvisited =>
      have found := History.mem_ofJob.2 ⟨_, logged, rfl⟩
      have nothing := unvisited visit.key.target
      rw [← isOwn] at nothing
      exact absurd found (nothing ▸ List.not_mem_nil)
  | finished targets reports collected later early parts opened visited closed =>
      exact ⟨targets, ⟨early, parts ▸ List.subset_append_right .., opened⟩, visited⟩

theorem AgentRun.Traced.attended [UrlParser] {run : AgentRun Program}
    (traced : run.Traced settings slot index history)
    (logged : ⟨.visit index visit, exchange⟩ ∈ history) (isOwn : visit.key.agent = run.agent.id) :
    ∃ targets visits, run.agent.Attended settings slot index history targets visits := by
  obtain ⟨agent, phase⟩ := run
  cases phase with
  | opening job =>
      have found := History.mem_ofJob.2 ⟨_, logged, rfl⟩
      have nothing := traced.2 visit.key.target
      rw [← isOwn] at nothing
      exact absurd found (nothing ▸ List.not_mem_nil)
  | visiting targets visits =>
      exact ⟨targets, visits, ⟨_, List.Subset.refl _, traced.1⟩, traced.2⟩
  | closing reports job =>
      obtain ⟨targets, later, early, parts, opened, visited, -⟩ := traced
      exact ⟨targets, _, ⟨early, parts ▸ List.subset_append_right .., opened⟩, visited⟩
  | closed outcome =>
      obtain ⟨targets, attended⟩ := Agent.Yields.attended traced logged isOwn
      exact ⟨targets, _, attended⟩

theorem Pool.Traced.attended [UrlParser] {agents : List Agent} {pool : Pool Program}
    (traced : pool.Traced settings slot index history agents)
    (logged : ⟨.visit index visit, exchange⟩ ∈ history) :
    ∃ agent ∈ agents, visit.key.agent = agent.id ∧
      ∃ targets visits, agent.Attended settings slot index history targets visits := by
  have isId : visit.key.agent ∈ agents.map Agent.id := by
    by_contra isNone
    exact (traced.others _ isNone).not_visit logged rfl
  obtain ⟨agent, isAgent, isOwn⟩ := List.mem_map.1 isId
  refine ⟨agent, isAgent, isOwn.symm, ?_⟩
  obtain ⟨finished, yields, isPerm⟩ := traced.finished
  rcases List.mem_append.1 (isPerm.symm.subset isAgent) with isDone | isOpen
  · obtain ⟨outcome, -, yields⟩ := forall₂_left yields isDone
    obtain ⟨targets, attended⟩ := yields.attended logged isOwn.symm
    exact ⟨targets, _, attended⟩
  · rcases List.mem_append.1 isOpen with isRunning | waits
    · obtain ⟨run, isRun, rfl⟩ := List.mem_map.1 isRunning
      exact (traced.running run isRun).attended logged isOwn.symm
    · exact absurd isOwn.symm ((traced.waiting agent waits).not_visit logged)

/-- Every visit is one of an agent that its tick was told of, and of a target that was found for
it. -/
theorem TickRun.Traced.attended [UrlParser] {run : TickRun Program}
    (traced : run.Traced settings index history)
    (logged : ⟨.visit index visit, exchange⟩ ∈ history) :
    ∃ agent, history.Tells index agent ∧ visit.key.agent = agent.id ∧
      ∃ targets visits, agent.Attended settings run.slot index history targets visits := by
  have told : ∀ {exchanges : List Exchange} {startedAt agents} {pool : Pool Program},
      run.slot.openTick.Ends exchanges ⟨startedAt, .ok agents⟩ →
      exchanges ⊆ history.ofJob (.tick index) →
      pool.Traced settings run.slot index history agents → ∃ agent, history.Tells index agent ∧
        visit.key.agent = agent.id ∧
        ∃ targets visits, agent.Attended settings run.slot index history targets visits := by
    intro exchanges startedAt agents pool opened isPart worked
    obtain ⟨agent, isAgent, isOwn, attended⟩ := worked.attended logged
    exact ⟨agent, ⟨agents, isPart (Slot.told_of_opened opened), isAgent⟩, isOwn, attended⟩
  obtain ⟨slot, phase⟩ := run
  cases phase with
  | opening job => exact absurd rfl ((traced.2 _).not_visit logged)
  | working pool =>
      obtain ⟨agents, opened, worked⟩ := traced
      exact told opened (List.Subset.refl _) worked
  | closing job =>
      obtain ⟨agents, pool, later, early, parts, opened, worked, -⟩ := traced
      exact told opened (parts ▸ List.subset_append_right ..) worked
  | closed report =>
      cases traced with
      | failed startedAt report opened leaves => exact absurd rfl ((leaves _).not_visit logged)
      | finished agents pool report later early parts opened worked isDone closed =>
          exact told opened (parts ▸ List.subset_append_right ..) worked

/-- Every visit is made for an agent that its tick was told of. -/
theorem TickRun.Traced.serves [UrlParser] {run : TickRun Program}
    (traced : run.Traced settings index history)
    (logged : ⟨.visit index visit, exchange⟩ ∈ history) :
    history.Tells index visit.agent ∧
      visit.Serves settings run.slot index history visit.agent := by
  obtain ⟨agent, tells, isOwn, targets, visits, attended⟩ := traced.attended logged
  obtain ⟨target, -, job, -, rfl, isTraced⟩ := attended.visited.visit logged isOwn
  exact ⟨tells, rfl, rfl, rfl, job, isTraced⟩

/-- Every visit of a tick that is over is one of those that the tick reports. -/
theorem Slot.Yields.reports [UrlParser] {report : TickReport}
    (yields : slot.Yields settings index history report)
    (logged : ⟨.visit index visit, exchange⟩ ∈ history) :
    ∃ own ∈ report.targets, visit.Traced index history (.done (some own)) := by
  cases yields with
  | failed startedAt report opened leaves => exact absurd rfl ((leaves _).not_visit logged)
  | finished agents pool report later early parts opened worked isDone closed =>
      have isId : visit.key.agent ∈ agents.map Agent.id := by
        by_contra isNone
        exact (worked.others _ isNone).not_visit logged rfl
      obtain ⟨agent, isAgent, isOwn⟩ := List.mem_map.1 isId
      obtain ⟨finished, isPerm, yields⟩ := worked.yields isDone
      obtain ⟨outcome, isOutcome, yields⟩ := forall₂_left yields (isPerm.symm.subset isAgent)
      obtain ⟨targets, attended⟩ := yields.attended logged isOwn.symm
      obtain ⟨target, -, job, isJob, -, traced⟩ := attended.visited.visit logged isOwn.symm
      obtain ⟨own, isOwnReport, rfl⟩ := List.mem_map.1 isJob
      obtain ⟨collected, _, finishedAt, -, rfl, -⟩ := Slot.ends_closeTick closed
      refine ⟨own, (List.mergeSort_perm ..).mem_iff.2 (List.mem_flatMap.2 ?_), traced⟩
      exact ⟨outcome, isOutcome, isOwnReport⟩

/-- A visit that asks for its state finds the one from before its tick, if nothing else is under
way. -/
theorem Shared.Evolves.found [UrlParser] {admits : Reaction outside → Prop}
    {first after : Shared outside} (evolves : Shared.Evolves admits first history after)
    (keyed : first.agents.IsKeyed)
    (belongs : ∀ entry ∈ history, entry.Belongs settings slot index history)
    {report : TickReport} (yields : slot.Yields settings index history report)
    {loaded : Option TargetState}
    (logged : ⟨.visit index visit, ⟨.states (.get visit.key), .ok loaded⟩⟩ ∈ history) :
    loaded = Table.get? first.states visit.key := by
  obtain ⟨past, isPast⟩ := History.exists_past logged
  obtain ⟨before, reaction, later, evolved, -, answered⟩ := evolves.answered isPast
  have older : past ⊆ history := fun entry found =>
    isPast.subset (List.mem_cons_of_mem _ found)
  have kept : ∀ entry ∈ past, ¬ entry.exchange.Drops visit.key := by
    have isOwn := belongs _ logged
    cases isOwn with
    | visit agent tells target isTarget exchange before after step =>
        have watches := (tells.watches_iff evolves keyed belongs).2 isTarget
        exact fun entry found => evolves.not_drops keyed belongs watches (older found)
  -- A visit saves only after it has loaded, and no other visit saves under its key.
  have unsaved : History.saves visit.key past = [] := by
    obtain ⟨own, -, traced⟩ := yields.reports logged
    obtain ⟨stage, path, -⟩ := visit.run_follows.path traced.leads
    have isPart : _ :: History.ofJob (.visit ⟨index, visit.key⟩) past <:+
        History.ofJob (.visit ⟨index, visit.key⟩) history := History.ofJob_suffix isPast rfl
    obtain ⟨stage, next, earlier, step⟩ := path.of_suffix isPart
    obtain ⟨lock, rfl⟩ := step.get_cases rfl
    have notSaved := (VisitRun.of_path earlier).recalls.1.1
    refine History.saves_eq_nil fun entry found state saved => notSaved ?_
    obtain ⟨agent, -, -, -, other, isActor, isOwn⟩ :=
      (belongs _ (older found)).saved_cases saved
    refine ⟨_, History.mem_ofJob.2 ⟨entry.actor, found, ?_⟩, Exchange.saves_iff.2
      ⟨state, Exchange.saved?_eq_some.1 saved⟩⟩
    rw [isActor, Actor.job?, isOwn]
  have same := evolved.get?_eq_lastSaved kept
  rw [History.lastSaved, unsaved] at same
  rcases Shared.answer_states answered with ⟨⟨failure, wrong⟩, -⟩ | ⟨isAnswer, -⟩
  · cases wrong
  · cases isAnswer
    exact same

/-! ## What a deed does -/

namespace TickRun

variable {run next : TickRun Program} {shared after : Shared outside} {reaction : Reaction outside}
  {entry : Entry} {report : TickReport}

/-- A tick that is over makes no call. -/
theorem report?_of_proceed {spot : Spot}
    (found : run.proceed settings index shared reaction spot = some (entry, next, after)) :
    run.report? = none := by
  obtain ⟨slot, phase⟩ := run
  cases phase with
  | closed report => cases spot <;> cases found
  | opening | working | closing => rfl

theorem eq_closed (isOver : run.report? = some report) : run = ⟨run.slot, .closed report⟩ := by
  obtain ⟨slot, phase⟩ := run
  cases phase with
  | closed own =>
      cases isOver
      rfl
  | opening | working | closing => cases isOver

theorem Traced.yields [UrlParser] (traced : run.Traced settings index history)
    (isOver : run.report? = some report) : run.slot.Yields settings index history report := by
  rw [eq_closed isOver] at traced
  exact traced

theorem report?_settle [UrlParser] (isOver : run.report? = some report) :
    (run.settle settings).report? = some report := by
  rw [eq_closed isOver]
  rfl

theorem report?_settleAgent [UrlParser] (isOver : run.report? = some report) (position : Nat) :
    (run.settleAgent settings position).report? = some report := by
  rw [eq_closed isOver]
  rfl

end TickRun

namespace System

variable {system : System outside} {report : TickReport}

theorem report?_modify {ticks : List (TickRun Program)} {other : Nat}
    {change : TickRun Program → TickRun Program}
    (keeps : ∀ run : TickRun Program, run.report? = some report →
      (change run).report? = some report)
    (isOver : ticks[index]?.bind TickRun.report? = some report) :
    (ticks.modify other change)[index]?.bind TickRun.report? = some report := by
  obtain ⟨run, isTick, isOver⟩ := Option.bind_eq_some_iff.1 isOver
  rw [List.getElem?_modify, isTick]
  refine Option.bind_eq_some_iff.2 ⟨_, rfl, ?_⟩
  dsimp only
  split
  · exact keeps run isOver
  · exact isOver

/-- A tick that is over stays so. -/
theorem report?_perform [UrlParser] (deed : Deed outside)
    (isOver : system.ticks[index]?.bind TickRun.report? = some report) :
    (system.perform settings deed).ticks[index]?.bind TickRun.report? = some report := by
  cases deed with
  | turn turn =>
      cases turn with
      | begin now =>
          obtain ⟨run, isTick, isOver⟩ := Option.bind_eq_some_iff.1 isOver
          refine Option.bind_eq_some_iff.2 ⟨run, ?_, isOver⟩
          exact (List.getElem?_append_left (List.getElem?_eq_some_iff.1 isTick).1).trans isTick
      | settle other position =>
          cases position with
          | none => exact report?_modify (fun run => run.report?_settle) isOver
          | some position =>
              exact report?_modify (fun run isOver => run.report?_settleAgent isOver position)
                isOver
      | proceed other spot reaction =>
          simp only [System.perform, System.take]
          split
          · exact isOver
          · rename_i entry next shared found
            obtain ⟨own, isOwn, proceeds⟩ := Option.bind_eq_some_iff.1 found
            have goesOn := own.report?_of_proceed proceeds
            rw [List.getElem?_set_ne]
            · exact isOver
            · rintro rfl
              rw [isOwn, Option.bind_some, goesOn] at isOver
              cases isOver
  | submit request => exact isOver
  | serve other reaction =>
      simp only [System.perform]
      split <;> exact isOver
  | update agent now =>
      simp only [System.perform]
      split <;> exact isOver

/-- Everything that a deed can do to the log and to what is shared. -/
inductive Changes (system after : System outside) : Deed outside → Prop where
  | none (deed : Deed outside) (log : after.log = system.log)
      (shared : after.shared = system.shared) : Changes system after deed
  | call (deed : Deed outside) (entry : Entry) (reaction : Reaction outside)
      (log : after.log = entry :: system.log)
      (answered : system.shared.answer reaction entry.exchange.call =
        some (entry.exchange.answer, after.shared))
      (goesOn : ∀ job, entry.actor.job? = some job → ∃ run : TickRun Program,
        system.ticks[job.index]? = some run ∧ run.report? = Option.none) : Changes system after deed
  | edit (agent : Agent) (now : Instant) (log : after.log = system.log)
      (updated : system.shared.agents.update agent now = .ok after.shared.agents)
      (states : after.shared.states = system.shared.states) :
      Changes system after (.update agent now)

theorem Traced.changes [UrlParser] (traced : system.Traced settings) (deed : Deed outside) :
    system.Changes (system.perform settings deed) deed := by
  cases deed with
  | turn turn =>
      cases turn with
      | begin now => exact .none _ rfl rfl
      | settle other position => cases position <;> exact .none _ rfl rfl
      | proceed other spot reaction =>
          simp only [System.perform, System.take]
          split
          · exact .none _ rfl rfl
          · rename_i entry next shared found
            obtain ⟨own, isOwn, proceeds⟩ := Option.bind_eq_some_iff.1 found
            obtain ⟨⟨job, isJob, rfl⟩, -⟩ := (traced.ticks other own isOwn).proceed proceeds
            refine .call _ entry reaction rfl (own.answered_of_proceed proceeds) ?_
            intro other isOther
            rw [isJob] at isOther
            cases isOther
            exact ⟨own, isOwn, own.report?_of_proceed proceeds⟩
  | submit request => exact .none _ rfl rfl
  | serve other reaction =>
      simp only [System.perform]
      split
      · exact .none _ rfl rfl
      · rename_i exchange next shared found
        obtain ⟨job, -, proceeds⟩ := Option.bind_eq_some_iff.1 found
        exact .call _ _ reaction rfl (Shared.proceed_eq_some proceeds).1
          fun job isJob => by cases isJob
  | update agent now =>
      simp only [System.perform]
      split
      · exact .none _ rfl rfl
      · exact .edit agent now rfl ‹_› rfl

end System

end AdMonitor
