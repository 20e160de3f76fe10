import AdMonitor.Proofs.Interleaving.LoneTick

/-!
# Locality of ticks

What a tick comes to for an agent depends on the agent, its states and the
collaborators, and on nothing that is done for other agents: any two ticks that
nothing overlaps agree on an agent that they find alike
(`LoneTick.agreesOn_of_found`).
-/

namespace AdMonitor

def Call.isDelivery : Call → Bool
  | .enqueue .. | .post .. | .platform .. => true
  | _ => false

namespace LoneTick

variable {settings : Settings} {now : Instant} {reply : (call : Call) → call.Answer}

section Parts

variable [UrlParser] (tick : LoneTick settings now reply)

def visit (agent : Agent) (target : Target) : Visit :=
  { settings := tick.configuration, slot := settings.slot now, agent, target }

/-- The exchanges that matter of the visit of a target, the newest first. -/
def trail (key : StateKey) : List Exchange :=
  (History.ofJob (.visit ⟨0, key⟩) tick.log).filter Exchange.matters

/-- The deliveries that are made for a target, the newest first. -/
def deliveries (key : StateKey) : List Exchange :=
  (History.ofVisit ⟨0, key⟩ tick.log).filter fun exchange => exchange.call.isDelivery

theorem deliveries_eq (key : StateKey) :
    tick.deliveries key = (tick.trail key).filter fun exchange => exchange.call.isDelivery := by
  rw [deliveries, trail, History.ofJob_visit, List.filter_filter]
  refine List.filter_congr fun exchange _ => ?_
  obtain ⟨call, answer⟩ := exchange
  cases call <;> rfl

/-- States are saved by visits only, each for its own target. -/
theorem saves_eq (key : StateKey) : History.saves key tick.log =
    ((tick.trail key).filterMap fun exchange => exchange.saved? key) := by
  rw [trail, History.ofJob, List.filterMap_filter, List.filterMap_filterMap, History.saves]
  refine List.filterMap_congr fun entry logged => ?_
  cases saved : entry.exchange.saved? key with
  | none =>
      by_cases isOwn : entry.actor.job? = some (.visit ⟨0, key⟩) <;> simp [isOwn, saved]
  | some state =>
      obtain ⟨_, -, -, -, visit, isActor, isOwn⟩ := (tick.belongs entry logged).saved_cases saved
      have isSave := Exchange.saved?_eq_some.1 saved
      simp [isActor, Actor.job?, isOwn, isSave, Exchange.saved?, Exchange.matters,
        Call.isIncidental]

end Parts

structure Unlisted [UrlParser] (tick : LoneTick settings now reply) (id : AgentId)
    (failure : Failure) : Prop where
  listed : ⟨.agents .listActive, .error failure⟩ ∈ History.ofJob (.tick 0) tick.log
  leaves : tick.log.Leaves 0 id
  targets : tick.report.targets = []
  failures : tick.report.failures = [⟨"*", failure.message⟩]

/-- Whether a tick has found no targets of an agent that it was told of. -/
structure Rejected [UrlParser] (tick : LoneTick settings now reply) (id : AgentId) (agent : Agent)
    (failure : Failure) : Prop where
  isOwn : agent.id = id
  tells : tick.log.Tells 0 agent
  opened : ((settings.slot now).openAgent tick.configuration agent).Ends
    (History.ofJob (.agent 0 id) tick.log) (.error failure)
  unvisited : ∀ target, History.ofJob (.visit ⟨0, ⟨id, target⟩⟩) tick.log = []
  targets : tick.report.targetsOf id = []
  failures : tick.report.failuresOf id = [⟨id, failure.message⟩]

/-- Whether a tick has visited the targets of an agent that it was told of. -/
structure Worked [UrlParser] (tick : LoneTick settings now reply) (id : AgentId) (agent : Agent)
    (targets : List Target) (reports : List TargetReport) : Prop where
  isOwn : agent.id = id
  tells : tick.log.Tells 0 agent
  done : ∃ later early collected, History.ofJob (.agent 0 id) tick.log = later ++ early ∧
    ((settings.slot now).openAgent tick.configuration agent).Ends early (.ok targets) ∧
    ((settings.slot now).closeAgent agent targets).Ends later collected
  visited : agent.Visited tick.configuration (settings.slot now) 0 tick.log targets
    (reports.map (.done ∘ some))
  targets : (tick.report.targetsOf id).Perm reports
  sorted : TargetReport.AreSorted tick.report.targets
  failures : tick.report.failuresOf id = []

/-- What a tick comes to for an agent that is stored and active. -/
inductive Treats [UrlParser] (tick : LoneTick settings now reply) (id : AgentId) (stored : Agent) :
    Prop where
  | unlisted (failure : Failure) (unlisted : tick.Unlisted id failure) : Treats tick id stored
  | rejected (agent : Agent) (same : agent.unmarked = stored.unmarked) (failure : Failure)
      (rejected : tick.Rejected id agent failure) : Treats tick id stored
  | worked (agent : Agent) (same : agent.unmarked = stored.unmarked) (targets : List Target)
      (reports : List TargetReport) (worked : tick.Worked id agent targets reports) :
      Treats tick id stored

theorem treats [UrlParser] {tick : LoneTick settings now reply} {id : AgentId} {stored : Agent}
    (isStored : Table.get? tick.shared.agents id = some stored)
    (isActive : stored.isActive = true) : tick.Treats id stored := by
  have isOver := tick.yields
  cases isOver with
  | failed startedAt report opened leaves =>
      obtain ⟨failure, listed, targets, failures⟩ := Slot.report_of_openTick opened
      exact .unlisted failure ⟨listed, leaves id, targets, failures⟩
  | finished agents pool report later early parts opened worked isDone closed =>
      have told : ⟨.agents .listActive, .ok agents⟩ ∈ History.ofJob (.tick 0) tick.log :=
        parts ▸ List.mem_append_right later (Slot.told_of_opened opened)
      obtain ⟨actor, logged, -⟩ := History.mem_ofJob.1 told
      obtain ⟨agent, isAgent, same⟩ :=
        tick.evolves.active_told tick.belongs logged isStored isActive
      have tells : tick.log.Tells 0 agent := ⟨agents, told, isAgent⟩
      obtain rfl : agent.id = id :=
        (Agent.eq_of_unmarked same).1.trans (tick.keyed id stored isStored)
      obtain ⟨collected, _, finishedAt, -, isReport, -⟩ := Slot.ends_closeTick closed
      obtain ⟨outcome, yields, isPerm, failures⟩ := worked.reports isDone isAgent
      rw [← isReport] at isPerm failures
      cases yields with
      | failed failure opened unvisited =>
          exact .rejected agent same failure
            ⟨rfl, tells, opened, unvisited, isPerm.eq_nil, failures⟩
      | finished targets reports count last first parts opened visited closed =>
          refine .worked agent same targets reports ⟨rfl, tells,
            ⟨last, first, count, parts, opened, closed⟩, visited, isPerm, ?_, failures⟩
          rw [isReport]
          exact TickReport.sorted_ofOutcomes _ _ _ _

/-! ## Two ticks -/

section Pair

variable [UrlParser] {first second : LoneTick settings now reply} {id : AgentId}
  {fails : Call → Option Failure}

/-- Two ticks find the same targets for an agent. -/
theorem opened_alike {agent other : Agent} (same : agent.unmarked = other.unmarked)
    {left right : List Exchange} {found result : Except Failure (List Target)}
    (isLeft : left ⊆ History.ofJob (.agent 0 id) first.log)
    (isRight : right ⊆ History.ofJob (.agent 0 id) second.log)
    (opened : ((settings.slot now).openAgent first.configuration agent).Ends left found)
    (alsoOpened : ((settings.slot now).openAgent second.configuration other).Ends right result) :
    found = result := by
  have answers : ∀ tick : LoneTick settings now reply, ∀ exchanges : List Exchange,
      exchanges ⊆ History.ofJob (.agent 0 id) tick.log →
      (∀ exchange ∈ exchanges, exchange.call.IsOpening) → ∀ exchange ∈ exchanges,
        exchange.call.isIncidental = false → exchange.answer = reply exchange.call := by
    intro tick exchanges arePart areOpening exchange found matters
    obtain ⟨actor, logged, -⟩ := History.mem_ofJob.1 (arePart found)
    refine answer_external logged ?_
    have isOpening := areOpening exchange found
    obtain ⟨call, answer⟩ := exchange
    cases call with
    | metrics => rfl
    | publish => cases matters
    | _ => cases isOpening
  have agree : Exchange.Agree left right :=
    .of_answers (answers first left isLeft ((Slot.openAgent_uses ..).leads opened).1)
      (answers second right isRight ((Slot.openAgent_uses ..).leads alsoOpened).1)
  have opens : ((settings.slot now).openAgent settings other).Ends left found := by
    rw [← Slot.openAgent_unmarked, ← same, Slot.openAgent_unmarked]
    exact opened
  exact ((Slot.openAgent_alike settings _ other).ends opens alsoOpened agree).1

/-- Visits of one target in two ticks differ only in what does not matter. -/
theorem visit_vary {agent other : Agent} (same : agent.unmarked = other.unmarked)
    (target : Target) :
    second.visit other target = (first.visit agent target).vary second.room other.lastEvaluatedAt :=
  congrArg (second.visit · target) (Agent.eq_evaluatedAt same)

section Fares

variable (firstFares : first.Fares (Call.bearsOn id) fails)
  (secondFares : second.Fares (Call.bearsOn id) fails)

include firstFares secondFares

/-- Two ticks fail alike to list the active agents. -/
theorem listed_alike {answer reply : Except Failure (List Agent)}
    (isFirst : ⟨.agents .listActive, answer⟩ ∈ History.ofJob (.tick 0) first.log)
    (isSecond : ⟨.agents .listActive, reply⟩ ∈ History.ofJob (.tick 0) second.log) :
    Exchange.failure? ⟨.agents .listActive, answer⟩ =
      Exchange.failure? ⟨.agents .listActive, reply⟩ := by
  obtain ⟨actor, logged, -⟩ := History.mem_ofJob.1 isFirst
  obtain ⟨other, listed, -⟩ := History.mem_ofJob.1 isSecond
  exact (firstFares _ logged rfl).trans (secondFares _ listed rfl).symm

/-- Where one tick cannot list the active agents, another one is not told of any. -/
theorem Unlisted.not_tells {failure : Failure} (unlisted : first.Unlisted id failure)
    (agent : Agent) : ¬ second.log.Tells 0 agent := by
  rintro ⟨agents, told, -⟩
  cases listed_alike firstFares secondFares unlisted.listed told

variable (sameFound : first.found id = second.found id)

include sameFound

/-- Two ticks that find the same states for an agent answer its visits alike. -/
theorem agree_visit (target : TargetKey) :
    Exchange.Agree (History.ofJob (.visit ⟨0, ⟨id, target⟩⟩) first.log)
      (History.ofJob (.visit ⟨0, ⟨id, target⟩⟩) second.log) := by
  have answers : ∀ tick : LoneTick settings now reply, tick.Fares (Call.bearsOn id) fails →
      ∀ exchange ∈ History.ofJob (.visit ⟨0, ⟨id, target⟩⟩) tick.log,
        exchange.call.isIncidental = false →
          exchange.answer = Call.expected reply fails (tick.found id) exchange.call := by
    intro tick fares exchange found matters
    rw [History.ofJob_visit] at found
    obtain ⟨visit, logged, isOwn⟩ := History.mem_ofVisit.1 found
    exact answer_visit fares logged (congrArg StateKey.agent isOwn) matters
  refine .of_answers (answers first firstFares) ?_
  rw [sameFound]
  exact answers second secondFares

/-- Two ticks do alike for a target of an agent for which they find the same states. -/
theorem visit_alike {agent other : Agent} (isOwn : agent.id = id)
    (same : agent.unmarked = other.unmarked) {target : Target} {report counterpart : TargetReport}
    (traced : (first.visit agent target).Traced 0 first.log (.done (some report)))
    (alsoTraced : (second.visit other target).Traced 0 second.log (.done (some counterpart))) :
    report.untimed = counterpart.untimed ∧
      first.trail ⟨id, target.key⟩ = second.trail ⟨id, target.key⟩ := by
  subst isOwn
  have ends := alsoTraced.leads
  rw [visit_vary same] at ends
  obtain ⟨isMatch, sameTrail⟩ :=
    ((first.visit agent target).run_alike second.room other.lastEvaluatedAt).ends traced.leads ends
      (agree_visit firstFares secondFares sameFound target.key)
  exact ⟨Option.some.inj isMatch, sameTrail⟩

theorem visited_alike {agent other : Agent} (isOwn : agent.id = id)
    (same : agent.unmarked = other.unmarked) {targets : List Target}
    {reports others : List TargetReport}
    (visited : agent.Visited first.configuration (settings.slot now) 0 first.log targets
      (reports.map (.done ∘ some)))
    (alsoVisited : other.Visited second.configuration (settings.slot now) 0 second.log targets
      (others.map (.done ∘ some))) :
    reports.map TargetReport.untimed = others.map TargetReport.untimed ∧
      ∀ target, first.trail ⟨id, target⟩ = second.trail ⟨id, target⟩ := by
  have each := List.forall₂_map_right_iff.1 visited.each
  have alsoEach := List.forall₂_map_right_iff.1 alsoVisited.each
  constructor
  · clear visited alsoVisited
    induction each generalizing others with
    | nil =>
        cases alsoEach
        rfl
    | cons traced each ih =>
        cases alsoEach with
        | cons alsoTraced alsoEach =>
            have alike :=
              visit_alike firstFares secondFares sameFound isOwn same traced alsoTraced
            rw [List.map_cons, List.map_cons, alike.1, ih alsoEach]
  · intro key
    by_cases isTarget : key ∈ targets.map Target.key
    · obtain ⟨target, isOne, rfl⟩ := List.mem_map.1 isTarget
      obtain ⟨report, -, traced⟩ := forall₂_left each isOne
      obtain ⟨counterpart, -, alsoTraced⟩ := forall₂_left alsoEach isOne
      exact (visit_alike firstFares secondFares sameFound isOwn same traced alsoTraced).2
    · -- Neither tick visits what is no target of the agent.
      have nothing := visited.others key isTarget
      have alsoNothing := alsoVisited.others key isTarget
      rw [isOwn] at nothing
      rw [← (Agent.eq_of_unmarked same).1, isOwn] at alsoNothing
      rw [trail, trail, nothing, alsoNothing]

end Fares

end Pair

/-- Whether two ticks come to the same for an agent with some targets. -/
structure AgreesOn [UrlParser] (id : AgentId) (keys : List TargetKey)
    (first second : LoneTick settings now reply) : Prop where
  /-- What is reported on targets, apart from the times at which actions were run. -/
  targets : (first.report.targetsOf id).map TargetReport.untimed =
    (second.report.targetsOf id).map TargetReport.untimed
  failures : first.report.failuresOf id = second.report.failuresOf id
  /-- The states that were saved, in their order. -/
  saves : ∀ target, History.saves ⟨id, target⟩ first.log = History.saves ⟨id, target⟩ second.log
  /-- The notifications, posts and calls to the ad platform in their order, with their answers. -/
  deliveries : ∀ target, first.deliveries ⟨id, target⟩ = second.deliveries ⟨id, target⟩
  /-- The states that are left of the targets. -/
  states : ∀ target ∈ keys, first.left id target = second.left id target

section Cases

variable [UrlParser] {first second : LoneTick settings now reply} {id : AgentId}
  {keys : List TargetKey} {fails : Call → Option Failure}

theorem AgreesOn.of_trail
    (targets : (first.report.targetsOf id).map TargetReport.untimed =
      (second.report.targetsOf id).map TargetReport.untimed)
    (failures : first.report.failuresOf id = second.report.failuresOf id)
    (trails : ∀ target, first.trail ⟨id, target⟩ = second.trail ⟨id, target⟩)
    (states : ∀ target ∈ keys, first.left id target = second.left id target) :
    first.AgreesOn id keys second where
  targets := targets
  failures := failures
  saves target := by rw [saves_eq, saves_eq, trails]
  deliveries target := by rw [deliveries_eq, deliveries_eq, trails]
  states := states

/-- A tick that does nothing for an agent leaves its states as they are. -/
theorem left_of_leaves {tick : LoneTick settings now reply} {stored : Agent}
    (isStored : Table.get? tick.shared.agents id = some stored)
    (leaves : tick.log.Leaves 0 id) (target : TargetKey) :
    tick.left id target = tick.found id target := by
  refine get?_of_untouched tick.evolves tick.keyed tick.belongs isStored
    (History.saves_eq_nil fun entry logged state saved => leaves entry logged ?_) ?_
  · obtain ⟨_, -, -, -, visit, isActor, isOwn⟩ := (tick.belongs entry logged).saved_cases saved
    rw [Entry.owner?, isActor, Actor.job?, isOwn]
    rfl
  · intro isActive entry logged isActor
    refine absurd ?_ (leaves entry logged)
    rw [Entry.owner?, isActor]
    rfl

/-- What becomes of a state of a target that an agent does not have. -/
theorem Worked.left_eq {tick : LoneTick settings now reply} {agent : Agent} {targets : List Target}
    {reports : List TargetReport} (worked : tick.Worked id agent targets reports)
    (fares : tick.Fares (Call.prunes id) fails) {lost : TargetKey → Bool}
    (loses : tick.Loses id lost) {target : TargetKey} (isNone : target ∉ agent.scope.targetKeys) :
    tick.left id target =
      if (fails (.states (.retain id agent.scope.targetKeys))).isSome && !lost target
        then tick.found id target else none := by
  obtain ⟨rfl, tells, ⟨later, early, collected, parts, opened, closed⟩, -⟩ := worked
  refine left_of_dropped tells fares loses isNone ?_
  obtain ⟨answer, found⟩ := Slot.retains_of_closeAgent closed
  obtain ⟨actor, logged, -⟩ := History.mem_ofJob.1 (parts ▸ List.mem_append_left early found)
  refine ⟨_, logged, _, rfl, StateQuery.drops_retain.2 ⟨rfl, ?_⟩⟩
  rwa [Slot.keys_of_opened opened]

variable {stored counterpart : Agent} (isFirst : Table.get? first.shared.agents id = some stored)
  (isSecond : Table.get? second.shared.agents id = some counterpart)
  (sameFound : first.found id = second.found id)

include isFirst isSecond sameFound

theorem Unlisted.alike {failure : Failure} (unlisted : first.Unlisted id failure)
    (alsoUnlisted : second.Unlisted id failure) : first.AgreesOn id keys second ∧
      ∀ target, first.left id target = second.left id target := by
  have states : ∀ target, first.left id target = second.left id target := by
    intro target
    rw [left_of_leaves isFirst unlisted.leaves, left_of_leaves isSecond alsoUnlisted.leaves,
      sameFound]
  refine ⟨.of_trail ?_ ?_ (fun target => ?_) fun target _ => states target, states⟩
  · rw [TickReport.targetsOf, TickReport.targetsOf, unlisted.targets, alsoUnlisted.targets]
  · rw [TickReport.failuresOf, TickReport.failuresOf, unlisted.failures, alsoUnlisted.failures]
  · rw [trail, trail, unlisted.leaves.ofJob_eq_nil rfl, alsoUnlisted.leaves.ofJob_eq_nil rfl]

theorem Rejected.alike {agent other : Agent} {failure : Failure}
    (rejected : first.Rejected id agent failure) (alsoRejected : second.Rejected id other failure) :
    first.AgreesOn id keys second ∧ ∀ target, first.left id target = second.left id target := by
  have states : ∀ target, first.left id target = second.left id target := by
    intro target
    have kept : ∀ {tick : LoneTick settings now reply} {agent stored : Agent},
        Table.get? tick.shared.agents id = some stored → tick.Rejected id agent failure →
        tick.left id target = tick.found id target := by
      rintro tick agent stored isStored ⟨rfl, -, opened, unvisited, -⟩
      exact get?_of_failed tick.evolves tick.keyed tick.belongs isStored opened unvisited
    rw [kept isFirst rejected, kept isSecond alsoRejected, sameFound]
  refine ⟨.of_trail ?_ ?_ (fun target => ?_) fun target _ => states target, states⟩
  · rw [rejected.targets, alsoRejected.targets]
  · rw [rejected.failures, alsoRejected.failures]
  · rw [trail, trail, rejected.unvisited, alsoRejected.unvisited]

omit isFirst isSecond

theorem Worked.alike {agent other : Agent} (same : agent.unmarked = other.unmarked)
    {targets : List Target} {reports others : List TargetReport}
    (worked : first.Worked id agent targets reports)
    (alsoWorked : second.Worked id other targets others)
    (firstFares : first.Fares (Call.bearsOn id) fails)
    (secondFares : second.Fares (Call.bearsOn id) fails) :
    first.AgreesOn id agent.scope.targetKeys second ∧
      ∀ lost, first.Fares (Call.prunes id) fails → second.Fares (Call.prunes id) fails →
        first.Loses id lost → second.Loses id lost →
        ∀ target, first.left id target = second.left id target := by
  have sameScope := (Agent.eq_of_unmarked same).2
  obtain ⟨sameReports, trails⟩ := visited_alike firstFares secondFares sameFound worked.isOwn same
    worked.visited alsoWorked.visited
  have states : ∀ target ∈ agent.scope.targetKeys,
      first.left id target = second.left id target := by
    intro target isTarget
    have isFirst := left_of_target worked.tells isTarget
    have isSecond := left_of_target alsoWorked.tells (sameScope ▸ isTarget)
    rw [worked.isOwn, History.lastSaved, saves_eq, trails] at isFirst
    rw [alsoWorked.isOwn, History.lastSaved, saves_eq] at isSecond
    rw [isFirst, isSecond]
    exact congrArg _ (congrFun sameFound target)
  have nodup : (reports.map TargetReport.key).Nodup := by
    have inj : Function.Injective (StateKey.mk agent.id) := fun _ _ same => (StateKey.mk.inj same).2
    have areNodup := worked.visited.nodup.map inj
    rw [worked.visited.keys]
    rwa [List.map_map] at areNodup
  refine ⟨.of_trail ?_ ?_ trails states, fun lost firstPrunes secondPrunes isLost isLostToo => ?_⟩
  · exact TickReport.targetsOf_untimed worked.targets alsoWorked.targets worked.sorted
      alsoWorked.sorted nodup sameReports
  · rw [worked.failures, alsoWorked.failures]
  · intro target
    by_cases isTarget : target ∈ agent.scope.targetKeys
    · exact states target isTarget
    · rw [worked.left_eq firstPrunes isLost isTarget,
        alsoWorked.left_eq secondPrunes isLostToo (sameScope ▸ isTarget), sameFound, sameScope]

end Cases

/--
Two ticks that nothing overlaps, among collaborators who always answer a call
alike, come to the same for an agent that is active and that both find with the
same definition and the same states, if the stores fail alike to list the active
agents and to load and save its states.  This holds for whatever else is stored
and fails, for any number of agents that may be worked on at the same time and
for any order of events.  If the stores also fail alike to collect the states
that the agent no longer uses, all its states are the same afterwards.
-/
theorem agreesOn_of_found [UrlParser] (first second : LoneTick settings now reply)
    (fails : Call → Option Failure) {id : AgentId} {stored other : Agent}
    (isFirst : Table.get? first.shared.agents id = some stored)
    (isSecond : Table.get? second.shared.agents id = some other)
    (same : stored.unmarked = other.unmarked) (isActive : stored.isActive = true)
    (sameFound : first.found id = second.found id)
    (firstFares : first.Fares (Call.bearsOn id) fails)
    (secondFares : second.Fares (Call.bearsOn id) fails) :
    first.AgreesOn id stored.scope.targetKeys second ∧
      ∀ lost, first.Fares (Call.prunes id) fails → second.Fares (Call.prunes id) fails →
        first.Loses id lost → second.Loses id lost →
        ∀ target, first.left id target = second.left id target := by
  have isStillActive := (congrArg Agent.isActive same).symm.trans isActive
  cases treats isFirst isActive with
  | unlisted failure unlisted =>
      cases treats isSecond isStillActive with
      | unlisted failure' alsoUnlisted =>
          cases listed_alike firstFares secondFares unlisted.listed alsoUnlisted.listed
          obtain ⟨agrees, states⟩ := unlisted.alike isFirst isSecond sameFound alsoUnlisted
          exact ⟨agrees, fun _ _ _ _ _ => states⟩
      | rejected agent _ _ treated | worked agent _ _ _ treated =>
          exact absurd treated.tells (unlisted.not_tells firstFares secondFares _)
  | rejected agent sameFirst failure rejected =>
      cases treats isSecond isStillActive with
      | unlisted failure unlisted =>
          exact absurd rejected.tells (unlisted.not_tells secondFares firstFares _)
      | rejected agent' sameSecond failure' alsoRejected =>
          have sameAgent := sameFirst.trans (same.trans sameSecond.symm)
          cases opened_alike sameAgent (List.Subset.refl _) (List.Subset.refl _) rejected.opened
            alsoRejected.opened
          obtain ⟨agrees, states⟩ := rejected.alike isFirst isSecond sameFound alsoRejected
          exact ⟨agrees, fun _ _ _ _ _ => states⟩
      | worked agent' sameSecond targets reports worked =>
          have sameAgent := sameFirst.trans (same.trans sameSecond.symm)
          obtain ⟨later, early, _, parts, opened, -⟩ := worked.done
          cases opened_alike sameAgent (List.Subset.refl _) (parts ▸ List.subset_append_right ..)
            rejected.opened opened
  | worked agent sameFirst targets reports worked =>
      obtain ⟨later, early, _, parts, opened, -⟩ := worked.done
      cases treats isSecond isStillActive with
      | unlisted failure unlisted =>
          exact absurd worked.tells (unlisted.not_tells secondFares firstFares _)
      | rejected agent' sameSecond failure rejected =>
          have sameAgent := sameFirst.trans (same.trans sameSecond.symm)
          cases opened_alike sameAgent (parts ▸ List.subset_append_right ..) (List.Subset.refl _)
            opened rejected.opened
      | worked agent' sameSecond targets' reports' alsoWorked =>
          have sameAgent := sameFirst.trans (same.trans sameSecond.symm)
          obtain ⟨later', early', _, parts', opened', -⟩ := alsoWorked.done
          cases opened_alike sameAgent (parts ▸ List.subset_append_right ..)
            (parts' ▸ List.subset_append_right ..) opened opened'
          rw [← (Agent.eq_of_unmarked sameFirst).2]
          exact worked.alike sameFound sameAgent alsoWorked firstFares secondFares

def ofAgents [UrlParser] (room : Nat) (agents : List Agent)
    (turns : List (Turn (.fixed Call.spending))) (alone : ∀ turn ∈ turns, turn.begins = false)
    (isOver : (((System.solo { Settings.standard with maxConcurrentAgents := room }
      ⟨.ofAgents agents, .empty, .empty, ()⟩ default).run
      { Settings.standard with maxConcurrentAgents := room } turns).ticks[0]?.bind
      TickRun.report?).isSome = true) : LoneTick .standard default Call.spending where
  room := room
  shared := ⟨.ofAgents agents, .empty, .empty, ()⟩
  turns := turns
  report := Option.get _ isOver
  keyed := AgentStore.ofAgents_keyed agents
  alone := alone
  isOver := (Option.some_get isOver).symm

/-- A turn of a program, in which a store may fail. -/
def exampleTurn (failure : Option Failure) (spot : Spot) : Turn (.fixed Call.spending) :=
  .proceed 0 spot ⟨Call.unheard, failure, fun _ => false⟩

attribute [local instance] UrlParser.refusing

def exampleAlone : LoneTick .standard default Call.spending :=
  let next := exampleTurn none
  ofAgents 1 [.watcher] (List.replicate 3 (next .tick) ++ [.settle 0 none, .settle 0 (some 0)] ++
    List.replicate 12 (next (.visit 0 0)) ++ [.settle 0 (some 0)] ++
    List.replicate 2 (next (.agent 0)) ++ [.settle 0 (some 0), .settle 0 none] ++
    List.replicate 4 (next .tick) ++ [.settle 0 none]) (by decide +kernel) (by decide +kernel)

/-- A tick in which another agent finds no targets, and the store fails after the visit. -/
def exampleCrowded : LoneTick .standard default Call.spending :=
  let next := exampleTurn none
  let fail := exampleTurn (some (.storage "broken"))
  ofAgents 2 [.watcher, { Agent.watcher with id := "b", scope := ⟨⟨none, .campaign⟩, .all true⟩ }]
    (List.replicate 3 (next .tick) ++ [.settle 0 none] ++ List.replicate 2 (next (.agent 1)) ++
      [.settle 0 (some 1), .settle 0 (some 0)] ++ List.replicate 12 (next (.visit 0 0)) ++
      [.settle 0 (some 0)] ++ List.replicate 2 (fail (.agent 0)) ++
      [.settle 0 (some 0), .settle 0 none] ++ List.replicate 3 (fail .tick) ++ [.settle 0 none])
    (by decide +kernel) (by decide +kernel)

/-- The agent is notified of once in both ticks. -/
theorem agreesOn_of_found_exampleCrowded :
    exampleCrowded.AgreesOn "a" ["x"] exampleAlone ∧
      (exampleAlone.deliveries ⟨"a", "x"⟩).length = 1 ∧
      exampleCrowded.report.failures.map AgentFailure.agent = ["b"] := by
  have isFirst : Table.get? exampleCrowded.shared.agents "a" = some .watcher := rfl
  have isSecond : Table.get? exampleAlone.shared.agents "a" = some .watcher := rfl
  have agrees := agreesOn_of_found exampleCrowded exampleAlone (fun _ => none) isFirst isSecond
    rfl rfl rfl (by decide +kernel) (by decide +kernel)
  exact ⟨agrees.1, by decide +kernel, by decide +kernel⟩

end LoneTick

end AdMonitor
