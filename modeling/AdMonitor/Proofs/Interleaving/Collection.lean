import AdMonitor.Proofs.Interleaving.Solo
import Mathlib.Algebra.BigOperators.Group.Finset.Piecewise
import Mathlib.Algebra.GroupWithZero.Nat

/-!
# What a tick collects

A tick that nothing overlaps and whose listings and removals do not fail leaves
exactly the states that it should: those of targets that active agents have,
and those of agents that were paused or could not be checked.  What it reports
as collected is the number of states that are gone (`System.solo_collects`).
-/

namespace AdMonitor

variable {outside : Outside} {settings : Settings} {slot : Slot} {index : Nat}
  {history : History} {report : TickReport} {exchanges : List Exchange} {collected : Nat}

/-! ## Counting -/

def Exchange.Adds (before : Nat) (exchange : Exchange) (after : Nat) : Prop :=
  after = before + exchange.removed

theorem sum_of_path {first total : Nat} (path : Program.Path Exchange.Adds first exchanges total) :
    total = first + (exchanges.map Exchange.removed).sum := by
  induction path with
  | start => rfl
  | step path adds ih =>
      rw [List.map_cons, List.sum_cons, Nat.add_comm (Exchange.removed _), ← Nat.add_assoc, ← ih]
      exact adds

theorem Exchange.removed_cases (exchange : Exchange) : exchange.removed = 0 ∨
    (∃ agent keep, exchange.call = .states (.retain agent keep)) ∨
      ∃ agent, exchange.call = .states (.remove agent) := by
  unfold Exchange.removed
  split
  · exact Or.inr (Or.inl ⟨_, _, rfl⟩)
  · exact Or.inr (Or.inr ⟨_, rfl⟩)
  · exact Or.inl rfl

def Program.Counts {α : Type} (count : α → Nat) (program : Program α) : Prop :=
  ∀ first, program.Follows Exchange.Adds (fun total value => total = first + count value) first

namespace Program.Counts

variable {α : Type} {count : α → Nat} {program : Program α}

theorem sum (counts : program.Counts count) {value : α} (ends : program.Ends exchanges value) :
    (exchanges.map Exchange.removed).sum = count value := by
  obtain ⟨total, path, isSum⟩ := (counts 0).path ends
  have same := (sum_of_path path).symm.trans isSum
  rwa [Nat.zero_add, Nat.zero_add] at same

theorem of_uses {allowed : Call → Prop} {post : α → Prop} (uses : program.Uses allowed post)
    (keeps : ∀ exchange : Exchange, allowed exchange.call → exchange.removed = 0) :
    program.Counts fun _ => 0 := by
  refine fun first => (Follows.of_uses uses fun exchange isAllowed => ?_).weaken ?_
  · rw [Exchange.Adds, keeps exchange isAllowed, Nat.add_zero]
  · exact fun total value found => found.1

end Program.Counts

namespace Slot

theorem openTick_counts : slot.openTick.Counts fun _ => 0 := by
  refine fun first => Program.Follows.ask fun _ => ⟨_, rfl, ?_⟩
  refine Program.Follows.ask fun answer => ⟨_, rfl, ?_⟩
  cases answer with
  | error failure => exact Program.Follows.ask fun _ => ⟨_, rfl, rfl⟩
  | ok agents => exact Program.Follows.ask fun _ => ⟨_, rfl, rfl⟩

theorem openAgent_counts [UrlParser] (agent : Agent) :
    (slot.openAgent settings agent).Counts fun _ => 0 := by
  refine .of_uses (slot.openAgent_uses settings agent) fun exchange isOpening => ?_
  rcases exchange.removed_cases with isNone | ⟨id, keep, isRetain⟩ | ⟨id, isRemove⟩
  · exact isNone
  · rw [isRetain] at isOpening
    cases isOpening
  · rw [isRemove] at isOpening
    cases isOpening

theorem collectOrphans_counts (agent : AgentId) (keep : List TargetKey) :
    (collectOrphans agent keep).Counts id := by
  refine fun first => Program.Follows.ask fun answer => ⟨_, rfl, ?_⟩
  split
  · rfl
  · rfl
  · refine Program.Follows.ask fun _ => ⟨_, rfl, ?_⟩
    exact Program.Follows.ask fun _ => ⟨_, rfl, rfl⟩

theorem closeAgent_counts (agent : Agent) (targets : List Target) :
    (slot.closeAgent agent targets).Counts id := by
  refine fun first => (collectOrphans_counts _ _ first).bind fun total count same => ?_
  exact Program.Follows.ask fun _ => ⟨_, rfl, same⟩

theorem collectOwners_counts (owners : List AgentId) : (collectOwners owners).Counts id := by
  induction owners with
  | nil => exact fun first => rfl
  | cons owner rest ih =>
      refine fun first => Program.Follows.ask fun answer => ⟨_, rfl, ?_⟩
      cases answer with
      | error failure => exact ih first
      | ok removed =>
          refine Program.Follows.ask fun _ => ⟨_, rfl, ?_⟩
          refine Program.Follows.ask fun _ => ⟨_, rfl, ?_⟩
          refine (ih (first + removed)).bind fun total others same => ?_
          exact same.trans (Nat.add_assoc ..)

theorem collectDeleted_counts : collectDeleted.Counts id := by
  refine fun first => Program.Follows.ask fun answer => ⟨_, rfl, ?_⟩
  cases answer with
  | error failure => rfl
  | ok known =>
      refine Program.Follows.ask fun answer => ⟨_, rfl, ?_⟩
      cases answer with
      | error failure => rfl
      | ok owners => exact collectOwners_counts _ first

theorem foldr_collected (outcomes : List AgentOutcome) (collected : Nat) :
    outcomes.foldr (fun outcome total => outcome.collected + total) collected =
      (outcomes.map AgentOutcome.collected).sum + collected := by
  induction outcomes with
  | nil => exact (Nat.zero_add collected).symm
  | cons outcome rest ih =>
      rw [List.foldr_cons, ih, List.map_cons, List.sum_cons, Nat.add_assoc]

/-- The report of a tick adds what was collected at its end to what its agents have collected. -/
theorem closeTick_counts {startedAt : Instant} {outcomes : List AgentOutcome}
    (closed : (slot.closeTick startedAt outcomes).Ends exchanges report) :
    report.collected =
      (outcomes.map AgentOutcome.collected).sum + (exchanges.map Exchange.removed).sum := by
  obtain ⟨collected, early, finishedAt, deleted, rfl, rfl⟩ := ends_closeTick closed
  have total : (early.map Exchange.removed).sum = collected := collectDeleted_counts.sum deleted
  rw [← total]
  simp [TickReport.ofOutcomes, Exchange.removed, foldr_collected]

end Slot

/-- The work on an agent collects what its outcome says. -/
theorem Agent.Yields.sum_removed [UrlParser] {agent : Agent} {outcome : AgentOutcome}
    (yields : agent.Yields settings slot index history outcome) :
    ((history.ofJob (.agent index agent.id)).map Exchange.removed).sum = outcome.collected := by
  cases yields with
  | failed failure opened unvisited => exact (slot.openAgent_counts agent).sum opened
  | finished targets reports collected later early parts opened visited closed =>
      rw [parts, List.map_append, List.sum_append, (slot.openAgent_counts agent).sum opened]
      exact (slot.closeAgent_counts agent targets).sum closed

/-- Of related lists the values are the same when those of related items are. -/
theorem map_eq_of_forall₂ {α β γ : Type} {first : α → γ} {second : β → γ} {left : List α}
    {right : List β} (same : List.Forall₂ (fun a b => first a = second b) left right) :
    left.map first = right.map second := by
  induction same with
  | nil => rfl
  | cons isSame rest ih => rw [List.map_cons, List.map_cons, isSame, ih]

/-- What a log adds up to is what its programs add up to. -/
theorem History.sum_ofJob (measure : Exchange → Nat) (jobs : Finset JobId)
    (covers : ∀ entry ∈ history, measure entry.exchange = 0 ∨
      ∃ job ∈ jobs, entry.actor.job? = some job) :
    (history.map fun entry => measure entry.exchange).sum =
      ∑ job ∈ jobs, ((history.ofJob job).map measure).sum := by
  induction history with
  | nil => exact (Finset.sum_const_zero).symm
  | cons entry rest ih =>
      obtain ⟨isCovered, covers⟩ := List.forall_mem_cons.1 covers
      have own : ∀ job, ((History.ofJob job (entry :: rest)).map measure).sum =
          (if entry.actor.job? = some job then measure entry.exchange else 0) +
            ((History.ofJob job rest).map measure).sum := by
        intro job
        by_cases isJob : entry.actor.job? = some job
        · rw [History.ofJob_cons_own isJob, if_pos isJob]
          rfl
        · rw [History.ofJob_cons_other isJob, if_neg isJob, Nat.zero_add]
      rw [List.map_cons, List.sum_cons, ih covers, Finset.sum_congr rfl fun job _ => own job,
        Finset.sum_add_distrib]
      refine congrArg (· + _) ?_
      rcases isCovered with isZero | ⟨job, isJob, same⟩
      · simp [isZero]
      · simp [same, isJob]

/-! ## Clearing -/

/-- Whether an exchange is a listing or a removal that failed. -/
def Exchange.isLapse : Exchange → Bool
  | ⟨.agents .listActive, .error _⟩ | ⟨.agents .list, .error _⟩ | ⟨.states .owners, .error _⟩
  | ⟨.states (.retain ..), .error _⟩ | ⟨.states (.remove _), .error _⟩ => true
  | _ => false

theorem Exchange.IsLoss.isLapse {exchange : Exchange} (isLoss : exchange.IsLoss) :
    exchange.isLapse = true := by
  unfold IsLoss at isLoss
  split at isLoss
  · rfl
  · rfl
  · cases isLoss

namespace Slot

theorem removed_of_collectOwners {owners : List AgentId}
    (ends : (collectOwners owners).Ends exchanges collected)
    (succeeds : ∀ exchange ∈ exchanges, exchange.isLapse = false) {owner : AgentId}
    (isOwner : owner ∈ owners) :
    ∃ count, (⟨.states (.remove owner), .ok count⟩ : Exchange) ∈ exchanges := by
  induction owners generalizing exchanges collected with
  | nil => cases isOwner
  | cons first rest ih =>
      obtain ⟨answer, later, rfl, goesOn⟩ := Program.ends_ask_iff.1 ends
      cases answer with
      | error failure =>
          cases succeeds _ (List.mem_append_right _ (List.mem_singleton_self _))
      | ok removed =>
          rcases List.mem_cons.1 isOwner with rfl | isOther
          · exact ⟨removed, List.mem_append_right _ (List.mem_singleton_self _)⟩
          · obtain ⟨_, announced, rfl, announces⟩ := Program.ends_ask_iff.1 goesOn
            obtain ⟨_, both, rfl, continues⟩ := Program.ends_ask_iff.1 announces
            obtain ⟨count, last, others, rfl, ends', -⟩ := Program.ends_bind_iff.1 continues
            obtain ⟨count, found⟩ := ih ends' (fun exchange found =>
              succeeds exchange (by simp [found])) isOther
            exact ⟨count, by simp [found]⟩

/-- When nothing fails, what a tick does at its end clears the states of all agents that it was not
told of. -/
theorem clears_of_collectDeleted (ends : collectDeleted.Ends exchanges collected)
    (succeeds : ∀ exchange ∈ exchanges, exchange.isLapse = false) :
    ∃ known, (⟨.agents .list, .ok known⟩ : Exchange) ∈ exchanges ∧
      ∀ key : StateKey, (∀ agent ∈ known, agent.id ≠ key.agent) →
        ∃ exchange ∈ exchanges, exchange.Clears key := by
  obtain ⟨answer, later, rfl, lists⟩ := Program.ends_ask_iff.1 ends
  cases answer with
  | error failure =>
      cases succeeds _ (List.mem_append_right _ (List.mem_singleton_self _))
  | ok known =>
      refine ⟨known, List.mem_append_right _ (List.mem_singleton_self _), fun key isGone => ?_⟩
      obtain ⟨answer, last, rfl, collects⟩ := Program.ends_ask_iff.1 lists
      cases answer with
      | error failure =>
          cases succeeds ⟨.states .owners, .error failure⟩ (by simp)
      | ok owners =>
          by_cases isOwner : key.agent ∈ owners
          · have isCollected : key.agent ∈ owners.filter fun owner =>
                !(known.any fun agent => agent.id == owner) := by
              simpa [isOwner] using isGone
            obtain ⟨count, found⟩ := removed_of_collectOwners collects
              (fun exchange found => succeeds exchange (by simp [found])) isCollected
            refine ⟨_, List.mem_append_left _ (List.mem_append_left _ found), ?_⟩
            exact beq_self_eq_true key.agent
          · refine ⟨⟨.states .owners, .ok owners⟩, by simp, ?_⟩
            exact isOwner

end Slot

/-! ## Whole ticks -/

/-- A tick that could not load its agents reports why, and nothing else. -/
theorem Slot.report_of_openTick {startedAt : Instant}
    (opened : slot.openTick.Ends exchanges ⟨startedAt, .error report⟩) :
    ∃ failure, (⟨.agents .listActive, .error failure⟩ : Exchange) ∈ exchanges ∧
      report.targets = [] ∧ report.failures = [⟨"*", failure.message⟩] := by
  obtain ⟨_, later, rfl, loads⟩ := Program.ends_ask_iff.1 opened
  obtain ⟨answer, last, rfl, rest⟩ := Program.ends_ask_iff.1 loads
  cases answer with
  | error failure =>
      obtain ⟨finishedAt, none, rfl, returns⟩ := Program.ends_ask_iff.1 rest
      obtain ⟨-, same⟩ := Program.ends_done_iff.1 returns
      cases same
      exact ⟨failure, by simp, rfl, rfl⟩
  | ok agents =>
      obtain ⟨_, none, rfl, returns⟩ := Program.ends_ask_iff.1 rest
      obtain ⟨-, same⟩ := Program.ends_done_iff.1 returns
      cases same

/-- What is done for an agent after its visits begins with collecting the states of the targets that
it no longer has. -/
theorem Slot.retains_of_closeAgent {agent : Agent} {targets : List Target}
    (closed : (slot.closeAgent agent targets).Ends exchanges collected) :
    ∃ answer, (⟨.states (.retain agent.id (targets.map Target.key)), answer⟩ : Exchange) ∈
      exchanges := by
  obtain ⟨count, later, early, rfl, collects, -⟩ := Program.ends_bind_iff.1 closed
  obtain ⟨answer, last, rfl, -⟩ := Program.ends_ask_iff.1 collects
  exact ⟨answer, List.mem_append_right later (List.mem_append_right last
    (List.mem_singleton_self _))⟩

theorem Slot.clears_of_closeAgent {agent : Agent} {targets : List Target}
    (closed : (slot.closeAgent agent targets).Ends exchanges collected)
    (succeeds : ∀ exchange ∈ exchanges, exchange.isLapse = false) {target : TargetKey}
    (isNone : target ∉ targets.map Target.key) :
    ∃ exchange ∈ exchanges, exchange.Clears ⟨agent.id, target⟩ := by
  obtain ⟨answer, found⟩ := retains_of_closeAgent closed
  cases answer with
  | error failure => cases succeeds _ found
  | ok removed => exact ⟨_, found, StateQuery.drops_retain.2 ⟨rfl, isNone⟩⟩

section Parts

variable {admits : Reaction outside → Prop} {first after : Shared outside}
  (evolves : Shared.Evolves admits first history after) (keyed : first.agents.IsKeyed)
  (belongs : ∀ entry ∈ history, entry.Belongs settings slot index history)
  (succeeds : ∀ entry ∈ history, entry.exchange.isLapse = false)

include evolves keyed belongs

/-- Nothing happens to the states of an agent for which nothing is saved or collected. -/
theorem get?_of_untouched {key : StateKey} {stored : Agent}
    (isStored : Table.get? first.agents key.agent = some stored)
    (unsaved : history.saves key = [])
    (uncollected : stored.isActive = true → ∀ entry ∈ history,
      entry.actor = .agent index key.agent → ¬ entry.exchange.Drops key) :
    Table.get? after.states key = Table.get? first.states key := by
  rw [evolves.get?_eq_lastSaved, History.lastSaved, unsaved]
  · rfl
  · intro entry logged drops
    rcases evolves.gone_of_drops keyed belongs logged drops with
      isNone | ⟨own, isOwn, isActive, -, isActor⟩
    · cases isStored.symm.trans isNone
    · cases isStored.symm.trans isOwn
      exact uncollected isActive entry logged isActor drops

theorem get?_of_paused {key : StateKey} {stored : Agent}
    (isStored : Table.get? first.agents key.agent = some stored)
    (isPaused : stored.isActive = false) :
    Table.get? after.states key = Table.get? first.states key := by
  refine get?_of_untouched evolves keyed belongs isStored
    (evolves.saves_eq_nil keyed belongs fun watches => ?_) fun isActive => ?_
  · cases isPaused.symm.trans ((Shared.watches_iff isStored).1 watches).1
  · cases isPaused.symm.trans isActive

theorem get?_of_failed [UrlParser] {agent stored : Agent} {failure : Failure} {target : TargetKey}
    (isStored : Table.get? first.agents agent.id = some stored)
    (opened : (slot.openAgent settings agent).Ends (history.ofJob (.agent index agent.id))
      (.error failure))
    (unvisited : ∀ target, history.ofJob (.visit ⟨index, ⟨agent.id, target⟩⟩) = []) :
    Table.get? after.states ⟨agent.id, target⟩ = Table.get? first.states ⟨agent.id, target⟩ := by
  refine get?_of_untouched evolves keyed belongs isStored
    (History.saves_eq_nil fun entry logged state saved => ?_) ?_
  · obtain ⟨own, -, -, -, visit, isVisit, isKey⟩ := (belongs entry logged).saved_cases saved
    refine List.not_mem_nil (unvisited target ▸ History.mem_ofJob.2 ⟨entry.actor, logged, ?_⟩)
    rw [isVisit, Actor.job?, isKey]
  · intro isActive entry logged isActor drops
    obtain ⟨query, isQuery, -⟩ := drops
    have found := History.mem_ofJob.2 ⟨entry.actor, logged, congrArg Actor.job? isActor⟩
    have isOpening := ((slot.openAgent_uses settings agent).leads opened).1 _ found
    rw [isQuery] at isOpening
    cases isOpening

include succeeds

/-- Of the states of an agent that could be checked, those of its targets remain. -/
theorem isSome_of_finished [UrlParser] {agent stored : Agent} {targets : List Target}
    {later early : List Exchange} {target : TargetKey}
    (isStored : Table.get? first.agents agent.id = some stored) (isActive : stored.isActive = true)
    (same : agent.unmarked = stored.unmarked)
    (parts : history.ofJob (.agent index agent.id) = later ++ early)
    (opened : (slot.openAgent settings agent).Ends early (.ok targets))
    (closed : (slot.closeAgent agent targets).Ends later collected) :
    (Table.get? after.states ⟨agent.id, target⟩).isSome = true ↔
      target ∈ targets.map Target.key ∧
        ((Table.get? first.states ⟨agent.id, target⟩).isSome = true ∨
          history.saves ⟨agent.id, target⟩ ≠ []) := by
  have watches_iff : first.Watches ⟨agent.id, target⟩ ↔ target ∈ targets.map Target.key := by
    rw [Slot.keys_of_opened opened, (Agent.eq_of_unmarked same).2, Shared.watches_iff isStored]
    exact and_iff_right isActive
  by_cases isTarget : target ∈ targets.map Target.key
  · rw [evolves.get?_eq_lastSaved fun _ => evolves.not_drops keyed belongs (watches_iff.2 isTarget),
      History.lastSaved]
    cases history.saves ⟨agent.id, target⟩ <;> simp [isTarget]
  · have unsaved := evolves.saves_eq_nil keyed belongs (mt watches_iff.1 isTarget)
    have areOwn : ∀ exchange ∈ later, ∃ actor, ⟨actor, exchange⟩ ∈ history := by
      intro exchange found
      obtain ⟨actor, logged, -⟩ := History.mem_ofJob.1 (parts ▸ List.mem_append_left early found)
      exact ⟨actor, logged⟩
    obtain ⟨exchange, found, clears⟩ := Slot.clears_of_closeAgent closed
      (fun exchange found => (areOwn exchange found).elim fun _ logged => succeeds _ logged)
      isTarget
    obtain ⟨actor, logged⟩ := areOwn exchange found
    rw [evolves.get?_eq_none unsaved ⟨_, logged, Or.inl clears⟩]
    simp [isTarget]

/-- No state of an agent that is not stored remains. -/
theorem get?_of_absent {key : StateKey} (isAbsent : Table.get? first.agents key.agent = none)
    {later early : List Exchange} (parts : history.ofJob (.tick index) = later ++ early)
    {startedAt : Instant} {outcomes : List AgentOutcome}
    (closed : (slot.closeTick startedAt outcomes).Ends later report) :
    Table.get? after.states key = none := by
  have unsaved : history.saves key = [] := by
    refine evolves.saves_eq_nil keyed belongs ?_
    rintro ⟨own, isOwn, -⟩
    cases isAbsent.symm.trans isOwn
  obtain ⟨collected, deleting, finishedAt, deleted, rfl, rfl⟩ := Slot.ends_closeTick closed
  have areOwn : ∀ exchange ∈ deleting, ∃ actor, ⟨actor, exchange⟩ ∈ history := by
    intro exchange found
    obtain ⟨actor, logged, -⟩ := History.mem_ofJob.1
      (parts ▸ List.mem_append_left early (List.mem_append_right _ found))
    exact ⟨actor, logged⟩
  obtain ⟨known, listed, clears⟩ := Slot.clears_of_collectDeleted deleted
    fun exchange found => (areOwn exchange found).elim fun _ logged => succeeds _ logged
  obtain ⟨actor, listed⟩ := areOwn _ listed
  obtain ⟨exchange, found, clears⟩ := clears key fun agent isKnown sameId => by
    obtain ⟨stored, isStored⟩ :=
      (evolves.known_told keyed belongs listed).1 ⟨agent, isKnown, sameId⟩
    rw [isAbsent] at isStored
    cases isStored
  obtain ⟨actor, logged⟩ := areOwn _ found
  exact evolves.get?_eq_none unsaved ⟨_, logged, Or.inl clears⟩

/-- The numbers that removals return add up to the number of states that are gone. -/
theorem sum_removed_of_belongs : (history.map fun entry => entry.exchange.removed).sum =
    (first.states.support \ after.states.support).card := by
  refine evolves.sum_removed
    (fun entry logged key state saved => evolves.watches_of_saved keyed belongs logged saved)
    (fun entry logged key drops watches => evolves.not_drops keyed belongs watches logged drops)
    fun entry logged isLoss => ?_
  cases isLoss.isLapse.symm.trans (succeeds entry logged)

end Parts

theorem nodup_jobs (index : Nat) {agents : List Agent} (nodup : (agents.map Agent.id).Nodup) :
    (JobId.tick index :: agents.map fun agent => JobId.agent index agent.id).Nodup := by
  refine List.nodup_cons.2 ⟨by simp, ?_⟩
  have inj : Function.Injective (JobId.agent index) := fun _ _ same => (JobId.agent.inj same).2
  have areNodup := nodup.map inj
  rwa [List.map_map] at areNodup

/-- All removals of a tick are counted in its report. -/
theorem Pool.Traced.sum_removed [UrlParser] {agents : List Agent} {pool : Pool Program}
    (worked : pool.Traced settings slot index history agents) (isDone : pool.isDone = true)
    (belongs : ∀ entry ∈ history, entry.Belongs settings slot index history) :
    (history.map fun entry => entry.exchange.removed).sum =
      ((history.ofJob (.tick index)).map Exchange.removed).sum +
        (pool.outcomes.map AgentOutcome.collected).sum := by
  let jobs := JobId.tick index :: agents.map fun agent => .agent index agent.id
  have nodup : jobs.Nodup := nodup_jobs index worked.nodup
  have covers : ∀ entry ∈ history, entry.exchange.removed = 0 ∨
      ∃ job ∈ jobs.toFinset, entry.actor.job? = some job := by
    intro entry logged
    have known : ∀ {agent : Agent}, entry.actor = .agent index agent.id →
        JobId.agent index agent.id ∈ jobs.toFinset := by
      intro agent isActor
      have isAgent : agent.id ∈ agents.map Agent.id := by
        by_contra isNone
        refine worked.others _ isNone entry logged ?_
        rw [Entry.owner?, isActor]
        rfl
      obtain ⟨own, isOwn, same⟩ := List.mem_map.1 isAgent
      exact List.mem_toFinset.2 (List.mem_cons_of_mem _ (List.mem_map.2 ⟨own, isOwn, by rw [same]⟩))
    cases belongs entry logged with
    | tick exchange before after step isTold =>
        exact Or.inr ⟨_, List.mem_toFinset.2 List.mem_cons_self, rfl⟩
    | opening agent isTold exchange isOpening => exact Or.inr ⟨_, known rfl, rfl⟩
    | closing agent isTold exchange isClosing => exact Or.inr ⟨_, known rfl, rfl⟩
    | visit agent isTold target isTarget exchange before after step =>
        refine Or.inl ?_
        rcases exchange.removed_cases with isNone | ⟨id, keep, isQuery⟩ | ⟨id, isQuery⟩
        · exact isNone
        · rcases step.states_cases isQuery with wrong | ⟨state, wrong⟩ <;> cases wrong
        · rcases step.states_cases isQuery with wrong | ⟨state, wrong⟩ <;> cases wrong
  obtain ⟨finished, isPerm, yields⟩ := worked.yields isDone
  rw [History.sum_ofJob Exchange.removed jobs.toFinset covers, List.sum_toFinset _ nodup,
    List.map_cons, List.sum_cons, List.map_map,
    ← map_eq_of_forall₂ (yields.imp fun _ _ => Agent.Yields.sum_removed), (isPerm.map _).sum_eq]
  rfl

/--
A tick that nothing overlaps, in which no listing and no removal fails, leaves
no state of an agent that is not stored.  Of the states of an active agent whose
targets were found, those of its targets remain that were there before or were
saved; those of an agent for which they were not found, or that is paused, are
as before.  The tick reports as collected how many keys have lost their states.
-/
theorem System.solo_collects [UrlParser] (settings : Settings) (shared : Shared outside)
    (keyed : shared.agents.IsKeyed) (now : Instant) {turns : List (Turn outside)}
    (alone : ∀ turn ∈ turns, turn.begins = false) {report : TickReport}
    (isOver : (((solo settings shared now).run settings turns).ticks[0]?.bind TickRun.report?) =
      some report)
    (succeeds : ∀ entry ∈ ((solo settings shared now).run settings turns).log,
      entry.exchange.isLapse = false) :
    let system := (solo settings shared now).run settings turns
    let slot := settings.slot now
    (∀ key, Table.get? shared.agents key.agent = none →
      Table.get? system.shared.states key = none) ∧
    (∀ id stored, Table.get? shared.agents id = some stored → stored.isActive = true →
      (∃ targets, History.Opens settings slot 0 stored (.ok targets) system.log ∧ ∀ target,
        (Table.get? system.shared.states ⟨id, target⟩).isSome = true ↔
          target ∈ targets.map Target.key ∧
            ((Table.get? shared.states ⟨id, target⟩).isSome = true ∨
              History.saves ⟨id, target⟩ system.log ≠ [])) ∨
      ∃ failure, History.Opens settings slot 0 stored (.error failure) system.log ∧
        ⟨id, failure.message⟩ ∈ report.failures ∧ ∀ target,
          Table.get? system.shared.states ⟨id, target⟩ =
            Table.get? shared.states ⟨id, target⟩) ∧
    (∀ id stored, Table.get? shared.agents id = some stored → stored.isActive = false →
      ∀ target, Table.get? system.shared.states ⟨id, target⟩ =
        Table.get? shared.states ⟨id, target⟩) ∧
    report.collected = (shared.states.support \ system.shared.states.support).card := by
  intro system slot
  have isSolo : system.IsSolo settings now := (solo_isSolo keyed now).run alone
  obtain ⟨run, isTick, isOver⟩ := Option.bind_eq_some_iff.1 isOver
  have yields : slot.Yields settings 0 system.log report := isSolo.yields isTick isOver
  have belongs : ∀ entry ∈ system.log, entry.Belongs settings slot 0 system.log :=
    yields.allBelong isSolo.jobs
  have evolves : Shared.Evolves (fun _ => True) shared system.log system.shared := by
    refine System.run_evolves .start fun turn _ => ?_
    cases turn <;> trivial
  cases yields with
  | failed startedAt report opened leaves =>
      obtain ⟨failure, found, -⟩ := Slot.report_of_openTick opened
      obtain ⟨actor, logged, -⟩ := History.mem_ofJob.1 found
      cases succeeds _ logged
  | finished agents pool report later early parts opened worked isDone closed =>
      refine ⟨fun key isAbsent => ?_, fun id stored isStored isActive => ?_,
        fun id stored isStored isPaused target => ?_, ?_⟩
      · exact get?_of_absent evolves keyed belongs succeeds isAbsent parts closed
      · have told := Slot.told_of_opened opened
        obtain ⟨actor, told, -⟩ := History.mem_ofJob.1 (parts ▸ List.mem_append_right later told)
        obtain ⟨agent, isAgent, same⟩ := evolves.active_told belongs told isStored isActive
        obtain rfl : agent.id = id :=
          (Agent.eq_of_unmarked same).1.trans (keyed id stored isStored)
        obtain ⟨finished, isPerm, yields⟩ := worked.yields isDone
        obtain ⟨outcome, isOutcome, yields⟩ := forall₂_left yields (isPerm.symm.subset isAgent)
        cases yields with
        | failed failure opened unvisited =>
            refine Or.inr ⟨failure, History.Opens.congr ⟨[], _, rfl, opened⟩ same, ?_, ?_⟩
            · obtain ⟨collected, _, finishedAt, -, rfl, -⟩ := Slot.ends_closeTick closed
              refine (List.mergeSort_perm ..).mem_iff.2 (List.mem_filterMap.2 ⟨_, isOutcome, ?_⟩)
              rfl
            · exact fun target => get?_of_failed evolves keyed belongs isStored opened unvisited
        | finished targets reports collected last first parts opened visited closed =>
            refine Or.inl ⟨targets, History.Opens.congr ⟨last, first, parts, opened⟩ same, ?_⟩
            exact fun target => isSome_of_finished evolves keyed belongs succeeds isStored isActive
              same parts opened closed
      · exact get?_of_paused evolves keyed belongs isStored isPaused
      · rw [← sum_removed_of_belongs evolves keyed belongs succeeds,
          worked.sum_removed isDone belongs, parts, List.map_append, List.sum_append,
          Slot.openTick_counts.sum opened, Slot.closeTick_counts closed, Nat.add_zero, Nat.add_comm]

namespace System

def blankState : TargetState := ⟨.streak 0, .none, none, default⟩

/-- States of an active agent, also for a target that it no longer has, of a paused one and of one
that is gone. -/
def exampleShared : Shared Outside.silent where
  agents := .ofAgents [.watcher, { Agent.watcher with id := "p", status := .paused }]
  states := .ofList [(⟨"a", "x"⟩, blankState), (⟨"a", "old"⟩, blankState),
    (⟨"gone", "x"⟩, blankState), (⟨"p", "x"⟩, blankState)]
  locks := .empty
  world := ()

/-- A tick in which the state of the only target cannot be loaded. -/
def exampleTurns : List (Turn Outside.silent) :=
  let next (spot : Spot) : Turn Outside.silent := .proceed 0 spot ⟨(), none, fun _ => false⟩
  let fail (spot : Spot) : Turn Outside.silent :=
    .proceed 0 spot ⟨(), some (.storage "unreadable"), fun _ => false⟩
  List.replicate 3 (next .tick) ++ [.settle 0 none, .settle 0 (some 0), next (.visit 0 0),
      next (.visit 0 0), fail (.visit 0 0), next (.visit 0 0), next (.visit 0 0),
      .settle 0 (some 0)] ++
    List.replicate 4 (next (.agent 0)) ++ [.settle 0 (some 0), .settle 0 none] ++
    List.replicate 7 (next .tick) ++ [.settle 0 none]

attribute [local instance] UrlParser.refusing

/-- The states of the target that is gone and of the agent that is gone are collected. -/
theorem solo_collects_exampleTurns :
    let system := (solo .standard exampleShared default).run .standard exampleTurns
    ∃ report, system.ticks[0]?.bind TickRun.report? = some report ∧ report.collected = 2 ∧
      Table.get? system.shared.states ⟨"gone", "x"⟩ = none ∧
      Table.get? system.shared.states ⟨"p", "x"⟩ = some blankState := by
  intro system
  obtain ⟨report, isOver⟩ := Option.isSome_iff_exists.1
    (by decide +kernel : (system.ticks[0]?.bind TickRun.report?).isSome = true)
  obtain ⟨absent, -, paused, collected⟩ :=
    solo_collects .standard exampleShared (AgentStore.ofAgents_keyed _) default
      (by decide +kernel) isOver (by decide +kernel)
  refine ⟨report, isOver, ?_, absent _ (by decide +kernel), ?_⟩
  · rw [collected]
    decide +kernel
  · rw [paused "p" { Agent.watcher with id := "p", status := .paused } rfl rfl]
    decide +kernel

end System

end AdMonitor
