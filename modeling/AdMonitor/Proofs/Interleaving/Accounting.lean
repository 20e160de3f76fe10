import AdMonitor.Proofs.Interleaving.Collection
import AdMonitor.Proofs.Interleaving.Phases
import AdMonitor.Proofs.Interleaving.Reports
import AdMonitor.Proofs.Interleaving.Restraint
import AdMonitor.Proofs.Visit.Outcome

/-!
# Reports that are complete

A tick that was told of its agents reports each of them once: with a failure, or
with one report for each of its targets.  A report of a target says whether its
state was saved and whether its actions were run
(`System.performAll_accountsFor`).
-/

namespace AdMonitor

variable {outside : Outside} {settings : Settings} {slot : Slot} {index : Nat}
  {history : History} {agent : Agent} {active : List Agent} {report : TickReport}
  {own : TargetReport} {exchanges : List Exchange}

/-! ## What a tick was told -/

namespace Slot

/-- How a tick begins that is told of its agents. -/
theorem ends_openTick {startedAt : Instant}
    (opened : slot.openTick.Ends exchanges ⟨startedAt, .ok active⟩) :
    exchanges = [⟨.publish (.tickStarted slot.tick slot.now active.length), ()⟩,
      ⟨.agents .listActive, .ok active⟩, ⟨.clock, startedAt⟩] := by
  obtain ⟨time, later, rfl, loads⟩ := Program.ends_ask_iff.1 opened
  obtain ⟨answer, last, rfl, rest⟩ := Program.ends_ask_iff.1 loads
  cases answer with
  | error failure =>
      obtain ⟨finishedAt, none, rfl, returns⟩ := Program.ends_ask_iff.1 rest
      obtain ⟨-, same⟩ := Program.ends_done_iff.1 returns
      cases same
  | ok agents =>
      obtain ⟨_, none, rfl, returns⟩ := Program.ends_ask_iff.1 rest
      obtain ⟨rfl, same⟩ := Program.ends_done_iff.1 returns
      cases same
      rfl

theorem not_told_of_failed {startedAt : Instant}
    (opened : slot.openTick.Ends exchanges ⟨startedAt, .error report⟩) :
    ⟨.agents .listActive, .ok active⟩ ∉ exchanges := by
  obtain ⟨time, later, rfl, loads⟩ := Program.ends_ask_iff.1 opened
  obtain ⟨answer, last, rfl, rest⟩ := Program.ends_ask_iff.1 loads
  cases answer with
  | error failure =>
      obtain ⟨finishedAt, none, rfl, returns⟩ := Program.ends_ask_iff.1 rest
      obtain ⟨rfl, -⟩ := Program.ends_done_iff.1 returns
      simp
  | ok agents =>
      obtain ⟨_, none, rfl, returns⟩ := Program.ends_ask_iff.1 rest
      obtain ⟨-, same⟩ := Program.ends_done_iff.1 returns
      cases same

/-- An agent whose targets are looked for has something to do. -/
theorem actions_of_opened [UrlParser] {targets : List Target}
    (opened : (slot.openAgent settings agent).Ends exchanges (.ok targets)) :
    agent.actions ≠ [] := by
  intro isEmpty
  have invalid : agent.validate settings.maxConditionDepth =
      .error (AgentFault.noActions.toFailure agent.id) := by
    simp [Agent.validate, Agent.check, Agent.checkFrame, isEmpty]
    rfl
  cases opensTo opened with
  | resolved targets lookup isValid resolves => cases invalid.symm.trans isValid

/-- What was done in a tick that was told of its agents and has come to a report. -/
structure Completes [UrlParser] (settings : Settings) (slot : Slot) (index : Nat)
    (history : History) (active : List Agent) (pool : Pool Program) (later early : List Exchange)
    (report : TickReport) : Prop where
  parts : history.ofJob (.tick index) = later ++ early
  opened : slot.openTick.Ends early ⟨pool.startedAt, .ok active⟩
  worked : pool.Traced settings slot index history active
  isDone : pool.isDone = true
  closed : (slot.closeTick pool.startedAt pool.outcomes).Ends later report

theorem Yields.completes [UrlParser] (yields : slot.Yields settings index history report)
    (told : ⟨.agents .listActive, .ok active⟩ ∈ history.ofJob (.tick index)) :
    ∃ pool later early, slot.Completes settings index history active pool later early report := by
  cases yields with
  | failed startedAt report opened leaves => exact absurd told (not_told_of_failed opened)
  | finished agents pool report later early parts opened worked isDone closed =>
      have isSame : active = agents := by
        rw [parts] at told
        rcases List.mem_append.1 told with isLate | isEarly
        · cases ((slot.closeTick_uses _ _).leads closed).1 _ isLate
        · rw [ends_openTick opened] at isEarly
          simpa using isEarly
      subst isSame
      exact ⟨pool, later, early, parts, opened, worked, isDone, closed⟩

end Slot

/-! ## Targets -/

/-- A report that some agents have come to is that of a visit of one of them. -/
theorem Pool.Traced.visited [UrlParser] {pool : Pool Program}
    (worked : pool.Traced settings slot index history active) (isDone : pool.isDone = true)
    (isReport : own ∈ pool.outcomes.flatMap AgentOutcome.targets) :
    ∃ agent ∈ active, ∃ targets target, history.Opens settings slot index agent (.ok targets) ∧
      target ∈ targets ∧
      Visit.Traced index history { settings, slot, agent, target } (.done (some own)) := by
  obtain ⟨outcome, isOutcome, isReport⟩ := List.mem_flatMap.1 isReport
  obtain ⟨finished, isPerm, yields⟩ := worked.yields isDone
  obtain ⟨agent, isAgent, yields⟩ := forall₂_left yields.flip isOutcome
  have yields : agent.Yields settings slot index history outcome := yields
  refine ⟨agent, isPerm.subset isAgent, ?_⟩
  cases yields with
  | failed failure opened unvisited => cases isReport
  | finished targets reports collected later early parts opened visited closed =>
      have each := List.forall₂_map_right_iff.1 visited.each
      obtain ⟨target, isTarget, traced⟩ := forall₂_left each.flip isReport
      exact ⟨targets, target, ⟨later, early, parts, opened⟩, isTarget, traced⟩

theorem Agent.Yields.nodup [UrlParser] {outcome : AgentOutcome}
    (yields : agent.Yields settings slot index history outcome) :
    (outcome.targets.map TargetReport.key).Nodup := by
  cases yields with
  | failed failure opened unvisited => exact List.nodup_nil
  | finished targets reports collected later early parts opened visited closed =>
      have inj : Function.Injective (StateKey.mk agent.id) := fun _ _ same =>
        (StateKey.mk.inj same).2
      have nodup := visited.nodup.map inj
      rw [List.map_map] at nodup
      exact visited.keys ▸ nodup

/-- No two reports that some agents have come to are about the same target. -/
theorem nodup_of_yields [UrlParser] {finished : List Agent} {outcomes : List AgentOutcome}
    (yields : List.Forall₂ (Agent.Yields settings slot index history) finished outcomes)
    (nodup : (finished.map Agent.id).Nodup) :
    ((outcomes.flatMap AgentOutcome.targets).map TargetReport.key).Nodup := by
  induction yields with
  | nil => exact List.nodup_nil
  | @cons agent outcome rest others yields all ih =>
      obtain ⟨isNew, nodup⟩ := List.nodup_cons.1 nodup
      rw [List.flatMap_cons, List.map_append, List.nodup_append']
      refine ⟨?_, ih nodup, fun key isOwn isOther => isNew ?_⟩
      · exact yields.nodup
      · obtain ⟨own, isFirst, rfl⟩ := List.mem_map.1 isOwn
        obtain ⟨other, found, same⟩ := List.mem_map.1 isOther
        obtain ⟨outcome, isOutcome, isReport⟩ := List.mem_flatMap.1 found
        obtain ⟨second, isSecond, yieldsOther⟩ := forall₂_left all.flip isOutcome
        have isAgent : second.id = agent.id := by
          rw [← yields.about.1 own isFirst, ← same]
          exact ((Agent.Yields.about yieldsOther).1 other isReport).symm
        exact isAgent ▸ List.mem_map_of_mem isSecond

/-! ## The account -/

/--
Whether a report gives an account of every agent that a tick was told of, of
each of their targets, and of nothing else.
-/
structure TickReport.AccountsFor [UrlParser] (settings : Settings) (slot : Slot) (index : Nat)
    (history : History) (active : List Agent) (report : TickReport) : Prop where
  agents : ∀ agent ∈ active,
    (∃ failure, history.Opens settings slot index agent (.error failure) ∧
      report.failuresOf agent.id = [⟨agent.id, failure.message⟩] ∧
      report.targetsOf agent.id = []) ∨
    ∃ targets, history.Opens settings slot index agent (.ok targets) ∧
      report.failuresOf agent.id = [] ∧ (targets.map Target.key).Nodup ∧
      ((report.targetsOf agent.id).map fun own => own.key.target).Perm (targets.map Target.key)
  targets : ∀ own ∈ report.targets, ∃ agent ∈ active, own.key.agent = agent.id
  failures : ∀ failure ∈ report.failures, ∃ agent ∈ active, failure.agent = agent.id
  ordered : report.targets.Pairwise fun own other => compare own.key other.key = .lt
  actions : ∀ own ∈ report.targets, own.actions ≠ [] ↔ own.status.isFired = true
  records : ∀ own ∈ report.targets, own.status.isFired = true →
    ∀ agent ∈ active, own.key.agent = agent.id → Firing.Records 0 agent.actions own.actions
  /-- Every target that was not skipped had its state saved once, and no other state was saved. -/
  saved : report.evaluated = Exchange.puts ((history.ofTick index).map Entry.exchange)
  total : report.evaluated + report.skipped = report.targets.length
  fired : report.fired ≤ report.evaluated

namespace TickReport

theorem total (report : TickReport) :
    report.evaluated + report.skipped = report.targets.length :=
  Nat.sub_add_cancel List.countP_le_length

theorem evaluated_eq (report : TickReport) :
    report.evaluated = report.targets.countP fun own => !own.status.isSkipped := by
  have parts := report.targets.length_eq_countP_add_countP fun own => own.status.isSkipped
  rw [evaluated, skipped, parts]
  simp

theorem fired_le (report : TickReport) : report.fired ≤ report.evaluated := by
  rw [evaluated_eq]
  refine List.countP_mono_left fun own _ isFired => ?_
  cases isSkipped : own.status.isSkipped with
  | false => rfl
  | true => cases isFired.symm.trans (TargetStatus.isFired_of_isSkipped isSkipped)

end TickReport

namespace Slot.Completes

variable [UrlParser] {pool : Pool Program} {later early : List Exchange}
  (completes : slot.Completes settings index history active pool later early report)

include completes

theorem report_eq : ∃ finishedAt collected,
    report = .ofOutcomes slot pool.startedAt finishedAt pool.outcomes collected := by
  obtain ⟨collected, exchanges, finishedAt, -, isReport, -⟩ := ends_closeTick completes.closed
  exact ⟨finishedAt, collected, isReport⟩

theorem targets_perm : report.targets.Perm (pool.outcomes.flatMap AgentOutcome.targets) := by
  obtain ⟨finishedAt, collected, rfl⟩ := completes.report_eq
  exact List.mergeSort_perm ..

theorem failures_perm : report.failures.Perm (pool.outcomes.filterMap AgentOutcome.failure) := by
  obtain ⟨finishedAt, collected, rfl⟩ := completes.report_eq
  exact List.mergeSort_perm ..

theorem nodup_finished {finished : List Agent} (isPerm : finished.Perm active) :
    (finished.map Agent.id).Nodup :=
  (isPerm.map Agent.id).nodup_iff.2 completes.worked.nodup

theorem nodup : (report.targets.map TargetReport.key).Nodup := by
  obtain ⟨finished, isPerm, yields⟩ := completes.worked.yields completes.isDone
  refine (completes.targets_perm.map TargetReport.key).nodup_iff.2 ?_
  exact nodup_of_yields yields (completes.nodup_finished isPerm)

theorem ordered : report.targets.Pairwise fun own other => compare own.key other.key = .lt := by
  have sorted : TargetReport.AreSorted report.targets := by
    obtain ⟨finishedAt, collected, rfl⟩ := completes.report_eq
    exact TickReport.sorted_ofOutcomes ..
  refine (sorted.and (List.pairwise_map.1 completes.nodup)).imp fun {own other} both => ?_
  cases order : compare own.key other.key with
  | lt => rfl
  | eq => exact absurd (Std.LawfulEqCmp.eq_of_compare order) both.2
  | gt =>
      rw [order] at both
      cases both.1

/-- A report of a target is what a visit of one of its agents has come to. -/
theorem concludes (isReport : own ∈ report.targets) : ∃ agent ∈ active, ∃ target,
    agent.actions ≠ [] ∧ Visit.Concludes { settings, slot, agent, target }
      (history.ofJob (.visit ⟨index, own.key⟩)) own := by
  obtain ⟨agent, isAgent, targets, target, ⟨last, first, -, opened⟩, -, traced⟩ :=
    completes.worked.visited completes.isDone (completes.targets_perm.subset isReport)
  have concludes := Visit.concludes traced.leads
  refine ⟨agent, isAgent, target, Slot.actions_of_opened opened, ?_⟩
  rw [concludes.key]
  exact concludes

theorem about (isReport : own ∈ report.targets) : ∃ agent ∈ active, own.key.agent = agent.id := by
  obtain ⟨agent, isAgent, target, -, concludes⟩ := completes.concludes isReport
  exact ⟨agent, isAgent, congrArg StateKey.agent concludes.key⟩

theorem failed {failure : AgentFailure} (isFailure : failure ∈ report.failures) :
    ∃ agent ∈ active, failure.agent = agent.id := by
  obtain ⟨outcome, isOutcome, isFailure⟩ :=
    List.mem_filterMap.1 (completes.failures_perm.subset isFailure)
  obtain ⟨finished, isPerm, yields⟩ := completes.worked.yields completes.isDone
  obtain ⟨agent, isAgent, yields⟩ := forall₂_left yields.flip isOutcome
  refine ⟨agent, isPerm.subset isAgent, ?_⟩
  exact (Agent.Yields.about yields).2 failure (Option.mem_toList.2 isFailure)

/-- Every agent has failed once, or has a report for each of its targets. -/
theorem contributes (isAgent : agent ∈ active) :
    (∃ failure, history.Opens settings slot index agent (.error failure) ∧
      report.failuresOf agent.id = [⟨agent.id, failure.message⟩] ∧
      report.targetsOf agent.id = []) ∨
    ∃ targets, history.Opens settings slot index agent (.ok targets) ∧
      report.failuresOf agent.id = [] ∧ (targets.map Target.key).Nodup ∧
      ((report.targetsOf agent.id).map fun own => own.key.target).Perm
        (targets.map Target.key) := by
  obtain ⟨finishedAt, collected, rfl⟩ := completes.report_eq
  obtain ⟨outcome, yields, isPerm, areFailures⟩ := completes.worked.reports completes.isDone isAgent
  cases yields with
  | failed failure opened unvisited =>
      exact Or.inl ⟨failure, ⟨[], _, rfl, opened⟩, areFailures, isPerm.eq_nil⟩
  | finished targets reports collected last first parts opened visited closed =>
      refine Or.inr ⟨targets, ⟨last, first, parts, opened⟩, areFailures, visited.nodup, ?_⟩
      have keys : reports.map (fun own => own.key.target) = targets.map Target.key := by
        have same := congrArg (List.map StateKey.target) visited.keys
        rwa [List.map_map, List.map_map] at same
      exact keys ▸ isPerm.map _

theorem records (isReport : own ∈ report.targets) (isFired : own.status.isFired = true)
    (isAgent : agent ∈ active) (isOwn : own.key.agent = agent.id) :
    Firing.Records 0 agent.actions own.actions := by
  obtain ⟨other, isOther, target, -, concludes⟩ := completes.concludes isReport
  have sameId : agent.id = other.id := isOwn.symm.trans (congrArg StateKey.agent concludes.key)
  obtain rfl : agent = other :=
    List.inj_on_of_nodup_map completes.worked.nodup isAgent isOther sameId
  exact concludes.records isFired

end Slot.Completes

/-- The number of items that pass a test, as a sum. -/
theorem countP_eq_sum {α : Type} (test : α → Bool) (items : List α) :
    items.countP test = (items.map fun item => (test item).toNat).sum := by
  induction items with
  | nil => rfl
  | cons item rest ih =>
      rw [List.countP_cons, List.map_cons, List.sum_cons, ih, Nat.add_comm]
      cases test item <;> rfl

/-- A tick that is over has saved one state for each target that it does not report as skipped. -/
theorem Slot.Yields.evaluated [UrlParser] {pool : Pool Program} {later early : List Exchange}
    (yields : slot.Yields settings index history report)
    (completes : slot.Completes settings index history active pool later early report) :
    report.evaluated = Exchange.puts ((history.ofTick index).map Entry.exchange) := by
  let jobs := report.targets.map fun own => JobId.visit ⟨index, own.key⟩
  have nodup : jobs.Nodup := by
    have inj : Function.Injective fun key => JobId.visit ⟨index, key⟩ := fun _ _ same =>
      (VisitId.mk.inj (JobId.visit.inj same)).2
    have areNodup := completes.nodup.map inj
    rwa [List.map_map] at areNodup
  have covers : ∀ entry ∈ history.ofTick index, entry.exchange.isPut.toNat = 0 ∨
      ∃ job ∈ jobs.toFinset, entry.actor.job? = some job := by
    intro entry found
    obtain ⟨logged, job, isJob, isIndex⟩ := History.mem_ofTick.1 found
    cases isPut : entry.exchange.isPut with
    | false => exact Or.inl rfl
    | true =>
        obtain ⟨key, state, saved⟩ := Exchange.saved_of_isPut isPut
        obtain ⟨agent, -, -, -, visit, isActor, rfl⟩ :=
          (yields.belongs logged isJob isIndex).saved_cases saved
        obtain ⟨actor, exchange⟩ := entry
        obtain rfl : actor = .visit index visit := isActor
        obtain ⟨own, isReport, traced⟩ := yields.reports logged
        refine Or.inr ⟨_, List.mem_toFinset.2 (List.mem_map.2 ⟨own, isReport, ?_⟩), rfl⟩
        rw [(Visit.concludes traced.leads).key]
  have each : ∀ own ∈ report.targets,
      (((history.ofTick index).ofJob (.visit ⟨index, own.key⟩)).map fun exchange =>
        exchange.isPut.toNat).sum = (!own.status.isSkipped).toNat := by
    intro own isReport
    obtain ⟨agent, -, target, -, concludes⟩ := completes.concludes isReport
    have isSame : (history.ofTick index).ofJob (.visit ⟨index, own.key⟩) =
        history.ofJob (.visit ⟨index, own.key⟩) := History.ofJob_ofTick rfl
    rw [isSame, ← countP_eq_sum]
    refine concludes.puts.trans ?_
    cases own.status.isSkipped <;> rfl
  rw [TickReport.evaluated_eq, Exchange.puts, countP_eq_sum, countP_eq_sum, List.map_map]
  refine Eq.trans ?_ (History.sum_ofJob (fun exchange => exchange.isPut.toNat) _ covers).symm
  rw [List.sum_toFinset _ nodup, List.map_map]
  exact congrArg List.sum (List.map_congr_left fun own isReport => (each own isReport).symm)

theorem Slot.Yields.accountsFor [UrlParser] (yields : slot.Yields settings index history report)
    (told : ⟨.agents .listActive, .ok active⟩ ∈ history.ofJob (.tick index)) :
    report.AccountsFor settings slot index history active := by
  obtain ⟨pool, later, early, completes⟩ := yields.completes told
  exact {
    agents := fun agent isAgent => completes.contributes isAgent
    targets := fun own isReport => completes.about isReport
    failures := fun failure isFailure => completes.failed isFailure
    ordered := completes.ordered
    actions := fun own isReport => by
      obtain ⟨agent, -, target, hasActions, concludes⟩ := completes.concludes isReport
      exact concludes.actions_iff hasActions
    records := fun own isReport isFired agent isAgent isOwn =>
      completes.records isReport isFired isAgent isOwn
    saved := yields.evaluated completes
    total := report.total
    fired := report.fired_le }

namespace System

/--
Whatever overlaps a tick and whatever fails: if the tick was told of its agents,
its report gives an account of all of them.
-/
theorem performAll_accountsFor [UrlParser] (settings : Settings) (agents : List Agent)
    (states : StateStore) (world : outside.World) (deeds : List (Deed outside)) (index : Nat)
    (active : List Agent) (report : TickReport) :
    let system := (start (.ofAgents agents) states world).performAll settings deeds
    ∀ run : TickRun Program, system.ticks[index]? = some run → run.report? = some report →
      ⟨.tick index, ⟨.agents .listActive, .ok active⟩⟩ ∈ system.log →
      report.AccountsFor settings run.slot index system.log active := by
  intro system run isTick isOver told
  have traced : system.Traced settings :=
    performAll_traced (start_traced (AgentStore.ofAgents_keyed agents)) deeds
  exact ((traced.ticks index run isTick).yields isOver).accountsFor
    (History.mem_ofJob.2 ⟨_, told, rfl⟩)

attribute [local instance] UrlParser.refusing

/-- The report of a tick in which the agent fires. -/
theorem performAll_accountsFor_exampleDeeds :
    let system := (start (.ofAgents [.watcher]) .empty ()).performAll .standard exampleDeeds
    ∃ run report, system.ticks[0]? = some run ∧ run.report? = some report ∧ report.fired = 1 ∧
      report.AccountsFor .standard run.slot 0 system.log [.watcher] := by
  intro system
  have isOver : (system.ticks[0]?.bind TickRun.report?).any (fun report => report.fired == 1) =
      true := by
    decide +kernel
  obtain ⟨report, isOver, isFired⟩ := (Option.any_eq_true ..).1 isOver
  obtain ⟨run, isTick, isOver⟩ := Option.bind_eq_some_iff.1 isOver
  refine ⟨run, report, isTick, isOver, beq_iff_eq.1 isFired, ?_⟩
  have told : system.log.reverse[1]? =
      some ⟨.tick 0, ⟨.agents .listActive, .ok [.watcher]⟩⟩ := by
    set_option maxRecDepth 4000 in rfl
  exact performAll_accountsFor .standard [.watcher] .empty () exampleDeeds 0 [.watcher] report run
    isTick isOver (List.mem_reverse.1 (List.mem_of_getElem? told))

end System

end AdMonitor
