import AdMonitor.Proofs.Interleaving.History
import AdMonitor.Proofs.Program.Trace
import AdMonitor.Proofs.Interleaving.Soundness
import Mathlib.Data.List.Forall2
import Mathlib.Data.List.Perm.Basic

/-!
# What the programs of ticks have done

The log of a system, taken apart by programs: every program of a tick has made
exactly the exchanges that the log has of it, in that order.  So what a tick
reports is the value of programs whose exchanges are in the log
(`System.performAll_traced`).
-/

namespace AdMonitor

inductive JobId where
  | tick (index : Nat)
  | agent (index : Nat) (agent : AgentId)
  | visit (id : VisitId)
  deriving DecidableEq

namespace JobId

def index : JobId → Nat
  | .tick index | .agent index _ => index
  | .visit id => id.index

def owner? : JobId → Option (Nat × AgentId)
  | .tick _ => none
  | .agent index own => some (index, own)
  | .visit id => some (id.index, id.key.agent)

/-- A program that works for an agent does so in its own tick. -/
theorem index_eq_of_owner? {job : JobId} {index : Nat} {id : AgentId}
    (isOwn : job.owner? = some (index, id)) : job.index = index := by
  cases job with
  | tick index => cases isOwn
  | agent | visit =>
      cases isOwn
      rfl

end JobId

/-- The program of a tick that makes a call, unless it is made for a request. -/
def Actor.job? : Actor → Option JobId
  | .tick index => some (.tick index)
  | .agent index own => some (.agent index own)
  | .visit index own => some (.visit ⟨index, own.key⟩)
  | .request _ => none

theorem Actor.key_of_job? {index other : Nat} {visit : Visit} {key : StateKey}
    (isJob : (Actor.visit index visit).job? = some (.visit ⟨other, key⟩)) : visit.key = key :=
  (VisitId.mk.inj (JobId.visit.inj (Option.some.inj isJob))).2

def Entry.owner? (entry : Entry) : Option (Nat × AgentId) :=
  entry.actor.job?.bind JobId.owner?

namespace History

/-- What a program has done so far, the newest exchange first. -/
def ofJob (job : JobId) (history : History) : List Exchange :=
  history.filterMap fun entry =>
    if entry.actor.job? = some job then some entry.exchange else none

variable {history : History} {entry : Entry} {job : JobId} {index : Nat} {id : AgentId}

theorem ofJob_cons_own (isOwn : entry.actor.job? = some job) :
    ofJob job (entry :: history) = entry.exchange :: ofJob job history := by
  simp [ofJob, isOwn]

theorem ofJob_cons_other (isOther : entry.actor.job? ≠ some job) :
    ofJob job (entry :: history) = ofJob job history := by
  simp [ofJob, isOther]

theorem mem_ofJob {exchange : Exchange} : exchange ∈ ofJob job history ↔
    ∃ actor, ⟨actor, exchange⟩ ∈ history ∧ actor.job? = some job := by
  rw [ofJob, List.mem_filterMap]
  constructor
  · rintro ⟨⟨actor, other⟩, found, same⟩
    obtain ⟨isJob, same⟩ := Option.ite_none_right_eq_some.1 same
    cases same
    exact ⟨actor, found, isJob⟩
  · rintro ⟨actor, found, isJob⟩
    exact ⟨_, found, by simp [isJob]⟩

/-- What a program had done before an entry of it is the past of that entry. -/
theorem ofJob_suffix {past : History} (isPast : entry :: past <:+ history)
    (isOwn : entry.actor.job? = some job) :
    entry.exchange :: ofJob job past <:+ ofJob job history := by
  obtain ⟨later, rfl⟩ := isPast
  rw [← ofJob_cons_own isOwn, ofJob, ofJob, List.filterMap_append]
  exact List.suffix_append ..

theorem ofJob_visit (visit : VisitId) (history : History) :
    history.ofJob (.visit visit) = history.ofVisit visit := by
  refine List.filterMap_congr fun entry _ => ?_
  obtain ⟨actor, exchange⟩ := entry
  cases actor with
  | visit index own =>
      obtain ⟨other, key⟩ := visit
      simp [Actor.job?]
  | tick | agent | request => simp [Actor.job?]

/-- Whether nothing has been done for an agent in a tick. -/
def Leaves (index : Nat) (id : AgentId) (history : History) : Prop :=
  ∀ entry ∈ history, entry.owner? ≠ some (index, id)

theorem Leaves.cons (leaves : history.Leaves index id)
    (isOther : entry.owner? ≠ some (index, id)) : Leaves index id (entry :: history) :=
  List.forall_mem_cons.2 ⟨isOther, leaves⟩

/-- Where nothing was done for an agent, none of its programs has done anything. -/
theorem Leaves.ofJob_eq_nil (leaves : history.Leaves index id)
    (isOwn : job.owner? = some (index, id)) : ofJob job history = [] := by
  refine List.eq_nil_iff_forall_not_mem.2 fun exchange found => ?_
  obtain ⟨actor, logged, isJob⟩ := mem_ofJob.1 found
  refine leaves _ logged ?_
  rw [Entry.owner?, isJob]
  exact isOwn

theorem ofJob_cons_owner (isOther : entry.owner? ≠ some (index, id))
    (isOwn : job.owner? = some (index, id)) :
    ofJob job (entry :: history) = ofJob job history := by
  refine ofJob_cons_other fun isJob => isOther ?_
  rw [Entry.owner?, isJob]
  exact isOwn

end History

variable {outside : Outside} {settings : Settings} {slot : Slot} {index : Nat}
  {history : History} {entry : Entry}

/-- Whether a visit has come to a program, and is the only one under its key in its tick. -/
structure Visit.Traced (index : Nat) (history : History) (visit : Visit)
    (job : Program (Option TargetReport)) : Prop where
  leads : visit.run.Leads (history.ofJob (.visit ⟨index, visit.key⟩)) job
  alone : ∀ other exchange, ⟨.visit index other, exchange⟩ ∈ history →
    other.key = visit.key → other = visit

/-- Whether the targets of an agent have been visited as far as some programs say. -/
structure Agent.Visited (settings : Settings) (slot : Slot) (index : Nat) (history : History)
    (agent : Agent) (targets : List Target)
    (visits : List (Program (Option TargetReport))) : Prop where
  nodup : (targets.map Target.key).Nodup
  each : List.Forall₂ (fun target job =>
    Visit.Traced index history { settings, slot, agent, target } job) targets visits
  others : ∀ target, target ∉ targets.map Target.key →
    history.ofJob (.visit ⟨index, ⟨agent.id, target⟩⟩) = []

inductive Agent.Yields [UrlParser] (settings : Settings) (slot : Slot) (index : Nat)
    (history : History) (agent : Agent) : AgentOutcome → Prop where
  | failed (failure : Failure)
      (opened : (slot.openAgent settings agent).Ends
        (history.ofJob (.agent index agent.id)) (.error failure))
      (unvisited : ∀ target, history.ofJob (.visit ⟨index, ⟨agent.id, target⟩⟩) = []) :
      Yields settings slot index history agent ⟨[], some ⟨agent.id, failure.message⟩, 0⟩
  | finished (targets : List Target) (reports : List TargetReport) (collected : Nat)
      (later early : List Exchange)
      (parts : history.ofJob (.agent index agent.id) = later ++ early)
      (opened : (slot.openAgent settings agent).Ends early (.ok targets))
      (visited : agent.Visited settings slot index history targets (reports.map (.done ∘ some)))
      (closed : (slot.closeAgent agent targets).Ends later collected) :
      Yields settings slot index history agent ⟨reports, none, collected⟩

def AgentRun.Traced [UrlParser] (settings : Settings) (slot : Slot) (index : Nat)
    (history : History) (run : AgentRun Program) : Prop :=
  match run.phase with
  | .opening job =>
      (slot.openAgent settings run.agent).Leads (history.ofJob (.agent index run.agent.id)) job ∧
        ∀ target, history.ofJob (.visit ⟨index, ⟨run.agent.id, target⟩⟩) = []
  | .visiting targets visits =>
      (slot.openAgent settings run.agent).Ends (history.ofJob (.agent index run.agent.id))
          (.ok targets) ∧
        run.agent.Visited settings slot index history targets visits
  | .closing reports job => ∃ targets later early,
      history.ofJob (.agent index run.agent.id) = later ++ early ∧
        (slot.openAgent settings run.agent).Ends early (.ok targets) ∧
        run.agent.Visited settings slot index history targets (reports.map (.done ∘ some)) ∧
        (slot.closeAgent run.agent targets).Leads later job
  | .closed outcome => run.agent.Yields settings slot index history outcome

/-- Whether the work on the agents of a tick has come as far as the log says. -/
structure Pool.Traced [UrlParser] (settings : Settings) (slot : Slot) (index : Nat)
    (history : History) (agents : List Agent) (pool : Pool Program) : Prop where
  nodup : (agents.map Agent.id).Nodup
  others : ∀ id ∉ agents.map Agent.id, history.Leaves index id
  running : ∀ run ∈ pool.running, run.Traced settings slot index history
  waiting : ∀ agent ∈ pool.waiting, history.Leaves index agent.id
  finished : ∃ finished,
    List.Forall₂ (Agent.Yields settings slot index history) finished pool.outcomes ∧
      (finished ++ (pool.running.map AgentRun.agent ++ pool.waiting)).Perm agents

inductive Slot.Yields [UrlParser] (settings : Settings) (slot : Slot) (index : Nat)
    (history : History) : TickReport → Prop where
  | failed (startedAt : Instant) (report : TickReport)
      (opened : slot.openTick.Ends (history.ofJob (.tick index)) ⟨startedAt, .error report⟩)
      (leaves : ∀ id, history.Leaves index id) : Yields settings slot index history report
  | finished (agents : List Agent) (pool : Pool Program) (report : TickReport)
      (later early : List Exchange)
      (parts : history.ofJob (.tick index) = later ++ early)
      (opened : slot.openTick.Ends early ⟨pool.startedAt, .ok agents⟩)
      (worked : pool.Traced settings slot index history agents) (isDone : pool.isDone = true)
      (closed : (slot.closeTick pool.startedAt pool.outcomes).Ends later report) :
      Yields settings slot index history report

def TickRun.Traced [UrlParser] (settings : Settings) (index : Nat) (history : History)
    (run : TickRun Program) : Prop :=
  match run.phase with
  | .opening job =>
      run.slot.openTick.Leads (history.ofJob (.tick index)) job ∧ ∀ id, history.Leaves index id
  | .working pool => ∃ agents,
      run.slot.openTick.Ends (history.ofJob (.tick index)) ⟨pool.startedAt, .ok agents⟩ ∧
        pool.Traced settings run.slot index history agents
  | .closing job => ∃ agents, ∃ pool : Pool Program, ∃ later early,
      history.ofJob (.tick index) = later ++ early ∧
        run.slot.openTick.Ends early ⟨pool.startedAt, .ok agents⟩ ∧
        pool.Traced settings run.slot index history agents ∧ pool.isDone = true ∧
        (run.slot.closeTick pool.startedAt pool.outcomes).Leads later job
  | .closed report => run.slot.Yields settings index history report

section Foreign

variable {agent : Agent}

/-! ## Entries of others -/

theorem Visit.Traced.cons {visit : Visit} {job : Program (Option TargetReport)}
    (traced : visit.Traced index history job)
    (isOther : entry.actor.job? ≠ some (.visit ⟨index, visit.key⟩)) :
    visit.Traced index (entry :: history) job := by
  refine ⟨?_, fun other exchange found sameKey => ?_⟩
  · rw [History.ofJob_cons_other isOther]
    exact traced.leads
  · rcases List.mem_cons.1 found with isNew | older
    · refine absurd ?_ isOther
      rw [← isNew, Actor.job?, sameKey]
    · exact traced.alone other exchange older sameKey

theorem Agent.Visited.cons {targets : List Target} {visits : List (Program (Option TargetReport))}
    (visited : agent.Visited settings slot index history targets visits)
    (isOther : entry.owner? ≠ some (index, agent.id)) :
    agent.Visited settings slot index (entry :: history) targets visits where
  nodup := visited.nodup
  each := by
    refine visited.each.imp fun target job traced => traced.cons fun isJob => isOther ?_
    rw [Entry.owner?, isJob]
    rfl
  others target isNone := by
    rw [History.ofJob_cons_owner isOther rfl]
    exact visited.others target isNone

theorem Agent.Yields.cons [UrlParser] {outcome : AgentOutcome}
    (yields : agent.Yields settings slot index history outcome)
    (isOther : entry.owner? ≠ some (index, agent.id)) :
    agent.Yields settings slot index (entry :: history) outcome := by
  cases yields with
  | failed failure opened unvisited =>
      refine .failed failure ?_ fun target => ?_
      · rwa [History.ofJob_cons_owner isOther rfl]
      · rw [History.ofJob_cons_owner isOther rfl]
        exact unvisited target
  | finished targets reports collected later early parts opened visited closed =>
      refine .finished targets reports collected later early ?_ opened (visited.cons isOther) closed
      rwa [History.ofJob_cons_owner isOther rfl]

theorem AgentRun.Traced.cons [UrlParser] {run : AgentRun Program}
    (traced : run.Traced settings slot index history)
    (isOther : entry.owner? ≠ some (index, run.agent.id)) :
    run.Traced settings slot index (entry :: history) := by
  obtain ⟨agent, phase⟩ := run
  cases phase with
  | opening job =>
      refine ⟨?_, fun target => ?_⟩
      · rw [History.ofJob_cons_owner isOther rfl]
        exact traced.1
      · rw [History.ofJob_cons_owner isOther rfl]
        exact traced.2 target
  | visiting targets visits =>
      refine ⟨?_, traced.2.cons isOther⟩
      rw [History.ofJob_cons_owner isOther rfl]
      exact traced.1
  | closing reports job =>
      obtain ⟨targets, later, early, parts, opened, visited, leads⟩ := traced
      refine ⟨targets, later, early, ?_, opened, visited.cons isOther, leads⟩
      rwa [History.ofJob_cons_owner isOther rfl]
  | closed outcome => exact Agent.Yields.cons traced isOther

theorem Pool.Traced.cons [UrlParser] {agents : List Agent} {pool : Pool Program}
    (traced : pool.Traced settings slot index history agents)
    (isOther : ∀ id, entry.owner? ≠ some (index, id)) :
    pool.Traced settings slot index (entry :: history) agents := by
  obtain ⟨nodup, others, running, waiting, finished, yields, isPerm⟩ := traced
  exact {
    nodup
    others := fun id isNone => (others id isNone).cons (isOther id)
    running := fun run isRunning => (running run isRunning).cons (isOther _)
    waiting := fun agent waits => (waiting agent waits).cons (isOther _)
    finished := ⟨finished, yields.imp fun agent outcome yields => yields.cons (isOther _), isPerm⟩ }

/-- Whether an entry is that of a program of another tick, or of none. -/
def Entry.IsBeyond (index : Nat) (entry : Entry) : Prop :=
  ∀ job, entry.actor.job? = some job → job.index ≠ index

theorem Entry.IsBeyond.owner?_ne (isBeyond : entry.IsBeyond index) (id : AgentId) :
    entry.owner? ≠ some (index, id) := by
  intro isOwn
  obtain ⟨job, isJob, isOwn⟩ := Option.bind_eq_some_iff.1 isOwn
  exact isBeyond job isJob (JobId.index_eq_of_owner? isOwn)

theorem Entry.IsBeyond.ofJob_cons (isBeyond : entry.IsBeyond index) :
    History.ofJob (.tick index) (entry :: history) = history.ofJob (.tick index) :=
  History.ofJob_cons_other fun isJob => isBeyond _ isJob rfl

theorem Slot.Yields.cons [UrlParser] {report : TickReport}
    (yields : slot.Yields settings index history report) (isBeyond : entry.IsBeyond index) :
    slot.Yields settings index (entry :: history) report := by
  cases yields with
  | failed startedAt report opened leaves =>
      refine .failed startedAt report ?_ fun id => (leaves id).cons (isBeyond.owner?_ne id)
      rwa [isBeyond.ofJob_cons]
  | finished agents pool report later early parts opened worked isDone closed =>
      refine .finished agents pool report later early ?_ opened ?_ isDone closed
      · rwa [isBeyond.ofJob_cons]
      · exact worked.cons isBeyond.owner?_ne

theorem TickRun.Traced.cons [UrlParser] {run : TickRun Program}
    (traced : run.Traced settings index history) (isBeyond : entry.IsBeyond index) :
    run.Traced settings index (entry :: history) := by
  obtain ⟨slot, phase⟩ := run
  cases phase with
  | opening job =>
      refine ⟨?_, fun id => (traced.2 id).cons (isBeyond.owner?_ne id)⟩
      rw [isBeyond.ofJob_cons]
      exact traced.1
  | working pool =>
      obtain ⟨agents, opened, worked⟩ := traced
      refine ⟨agents, ?_, worked.cons isBeyond.owner?_ne⟩
      rwa [isBeyond.ofJob_cons]
  | closing job =>
      obtain ⟨agents, pool, later, early, parts, opened, worked, isDone, leads⟩ := traced
      refine ⟨agents, pool, later, early, ?_, opened, worked.cons isBeyond.owner?_ne, isDone, leads⟩
      rwa [isBeyond.ofJob_cons]
  | closed report => exact Slot.Yields.cons traced isBeyond

end Foreign

/-! ## Moving on -/

section Settle

/-- How the work on an agent before its visits comes to its targets, or to a failure. -/
inductive Slot.OpensTo [UrlParser] (settings : Settings) (slot : Slot) (agent : Agent) :
    List Exchange → Except Failure (List Target) → Prop where
  | invalid (failure : Failure)
      (isInvalid : agent.validate settings.maxConditionDepth = .error failure) :
      OpensTo settings slot agent
        [⟨.publish (.agentFailed slot.tick agent.id failure.message), ()⟩] (.error failure)
  | unresolved (failure : Failure) (lookup : List Exchange)
      (resolves : (agent.resolve settings.fetchLimit).Ends lookup (.error failure)) :
      OpensTo settings slot agent
        (⟨.publish (.agentFailed slot.tick agent.id failure.message), ()⟩ :: lookup)
        (.error failure)
  | resolved (targets : List Target) (lookup : List Exchange)
      (isValid : agent.validate settings.maxConditionDepth = .ok ())
      (resolves : (agent.resolve settings.fetchLimit).Ends lookup (.ok targets)) :
      OpensTo settings slot agent lookup (.ok targets)

theorem Slot.opensTo [UrlParser] {agent : Agent} {exchanges : List Exchange}
    {found : Except Failure (List Target)}
    (opened : (slot.openAgent settings agent).Ends exchanges found) :
    slot.OpensTo settings agent exchanges found := by
  unfold openAgent at opened
  cases validated : agent.validate settings.maxConditionDepth with
  | error failure =>
      simp only [validated] at opened
      obtain ⟨_, none, rfl, returns⟩ := Program.ends_ask_iff.1 opened
      obtain ⟨rfl, rfl⟩ := Program.ends_done_iff.1 returns
      exact .invalid failure validated
  | ok done =>
      simp only [validated] at opened
      obtain ⟨resolved, later, early, rfl, resolves, tells⟩ := Program.ends_bind_iff.1 opened
      cases resolved with
      | ok targets =>
          obtain ⟨rfl, rfl⟩ := Program.ends_done_iff.1 tells
          exact .resolved targets early validated resolves
      | error failure =>
          obtain ⟨_, none, rfl, returns⟩ := Program.ends_ask_iff.1 tells
          obtain ⟨rfl, rfl⟩ := Program.ends_done_iff.1 returns
          exact .unresolved failure early resolves

theorem Slot.keys_of_opened [UrlParser] {agent : Agent} {exchanges : List Exchange}
    {targets : List Target}
    (opened : (slot.openAgent settings agent).Ends exchanges (.ok targets)) :
    targets.map Target.key = agent.scope.targetKeys :=
  ((slot.openAgent_uses settings agent).leads opened).2 targets rfl

def TickView.IsTold (history : List Exchange) : TickView → Prop
  | .nothing => True
  | .active agents => ⟨.agents .listActive, .ok agents⟩ ∈ history
  | .known agents => ⟨.agents .list, .ok agents⟩ ∈ history

/-- A tick knows nothing of the stored agents but what it was told. -/
theorem TickStep.isTold {history : List Exchange} {view : TickView}
    (path : Program.Path TickStep .nothing history view) : view.IsTold history := by
  induction path with
  | start => trivial
  | @step past before after exchange path taken ih =>
      cases taken with
      | load | list => exact List.mem_cons_self
      | remove | forget => exact List.mem_cons_of_mem _ ih
      | note =>
          cases before with
          | nothing => trivial
          | active | known => exact List.mem_cons_of_mem _ ih

/-- The agents of a tick are those that it was told. -/
theorem Slot.told_of_opened {exchanges : List Exchange} {startedAt : Instant}
    {agents : List Agent} (opened : slot.openTick.Ends exchanges ⟨startedAt, .ok agents⟩) :
    ⟨.agents .listActive, .ok agents⟩ ∈ exchanges := by
  obtain ⟨view, path, isActive⟩ := slot.openTick_follows.path opened
  have told := TickStep.isTold path
  rw [isActive agents rfl] at told
  exact told

/-- Programs that all come to a report have ended with it. -/
theorem eq_map_done {α : Type} {jobs : List (Program (Option α))} {values : List α}
    (found : jobs.mapM (fun job => (Running.value? job).join) = some values) :
    jobs = values.map (.done ∘ some) := by
  induction jobs generalizing values with
  | nil =>
      cases found
      rfl
  | cons job rest ih =>
      rw [List.mapM_cons] at found
      obtain ⟨value, isValue, found⟩ := Option.bind_eq_some_iff.1 found
      obtain ⟨others, areOthers, same⟩ := Option.bind_eq_some_iff.1 found
      cases same
      cases job with
      | call request next => cases isValue
      | done ended =>
          cases Option.join_eq_some_iff.1 isValue
          rw [ih areOthers, List.map_cons]
          rfl

/-- Visits that begin have done nothing. -/
theorem Agent.Visited.start [UrlParser] {agent : Agent} {exchanges : List Exchange}
    {targets : List Target} (opened : (slot.openAgent settings agent).Ends exchanges (.ok targets))
    (unvisited : ∀ target, history.ofJob (.visit ⟨index, ⟨agent.id, target⟩⟩) = []) :
    agent.Visited settings slot index history targets
      (targets.map fun target => Visit.run { settings, slot, agent, target }) where
  nodup := by
    rw [Slot.keys_of_opened opened]
    exact agent.scope.targetKeys_nodup
  each := by
    refine List.forall₂_map_right_iff.2 (List.forall₂_same.2 fun target found => ?_)
    have nothing := unvisited target.key
    refine ⟨?_, fun other exchange logged sameKey => ?_⟩
    · exact nothing.symm ▸ .start
    · refine absurd (History.mem_ofJob.2 ⟨_, logged, ?_⟩) (nothing ▸ List.not_mem_nil)
      rw [Actor.job?, sameKey]
      rfl
  others target isNone := unvisited target

theorem AgentRun.Traced.settle [UrlParser] {run : AgentRun Program}
    (traced : run.Traced settings slot index history) :
    (run.settle settings slot).Traced settings slot index history := by
  obtain ⟨agent, phase⟩ := run
  cases phase with
  | opening job =>
      cases job with
      | call request next => exact traced
      | done found =>
          obtain ⟨opened, unvisited⟩ := traced
          cases found with
          | error failure => exact .failed failure opened unvisited
          | ok targets => exact ⟨opened, .start opened unvisited⟩
  | visiting targets visits =>
      simp only [AgentRun.settle]
      split
      · exact traced
      · rename_i reports found
        obtain rfl := eq_map_done found
        exact ⟨targets, [], _, rfl, traced.1, traced.2, .start⟩
  | closing reports job =>
      cases job with
      | call request next => exact traced
      | done collected =>
          obtain ⟨targets, later, early, parts, opened, visited, closed⟩ := traced
          exact .finished targets reports collected later early parts opened visited closed
  | closed outcome => exact traced

theorem AgentRun.Traced.yields [UrlParser] {run : AgentRun Program}
    (traced : run.Traced settings slot index history) {outcome : AgentOutcome}
    (isDone : run.outcome? = some outcome) :
    run.agent.Yields settings slot index history outcome := by
  obtain ⟨agent, phase⟩ := run
  cases phase with
  | closed own =>
      cases isDone
      exact traced
  | opening | visiting | closing => cases isDone

theorem AgentRun.start_traced [UrlParser] {agent : Agent} (leaves : history.Leaves index agent.id) :
    (AgentRun.start settings slot agent : AgentRun Program).Traced settings slot index history := by
  refine ⟨?_, fun target => leaves.ofJob_eq_nil rfl⟩
  rw [leaves.ofJob_eq_nil rfl]
  exact .start

namespace Pool

variable {agents : List Agent} {pool : Pool Program}

theorem Traced.fill [UrlParser] (traced : pool.Traced settings slot index history agents) :
    (pool.fill settings slot).Traced settings slot index history agents := by
  unfold Pool.fill
  generalize max settings.maxConcurrentAgents 1 - pool.running.length = room
  obtain ⟨nodup, others, running, waiting, finished, yields, isPerm⟩ := traced
  refine ⟨nodup, others, fun run found => ?_, fun agent found => ?_, finished, yields, ?_⟩
  · rcases List.mem_append.1 found with old | new
    · exact running run old
    · obtain ⟨agent, waits, rfl⟩ := List.mem_map.1 new
      exact AgentRun.start_traced (waiting agent (List.mem_of_mem_take waits))
  · exact waiting agent (List.mem_of_mem_drop found)
  · have started : (pool.waiting.take room).map (AgentRun.agent ∘
        (AgentRun.start settings slot : Agent → AgentRun Program)) = pool.waiting.take room :=
      List.map_id _
    rwa [List.map_append, List.map_map, started, List.append_assoc, List.take_append_drop]

theorem start_traced [UrlParser] (startedAt : Instant) (nodup : (agents.map Agent.id).Nodup)
    (leaves : ∀ id, history.Leaves index id) :
    (Pool.start settings slot startedAt agents : Pool Program).Traced settings slot index history
      agents := by
  have waiting : Pool.Traced settings slot index history agents ⟨startedAt, [], agents, []⟩ := {
    nodup
    others := fun id _ => leaves id
    running := fun _ => nofun
    waiting := fun agent _ => leaves agent.id
    finished := ⟨[], .nil, .refl _⟩ }
  exact waiting.fill

/-- An agent that is done goes from those worked on to those that have an outcome. -/
theorem Traced.retire [UrlParser] (traced : pool.Traced settings slot index history agents)
    {position : Nat} {run : AgentRun Program} (found : pool.running[position]? = some run)
    {outcome : AgentOutcome} (isDone : run.agent.Yields settings slot index history outcome) :
    (pool.retire settings slot position outcome).Traced settings slot index history agents := by
  obtain ⟨nodup, others, running, waiting, finished, yields, isPerm⟩ := traced
  refine Traced.fill ⟨nodup, others, fun run found => ?_, waiting, finished ++ [run.agent], ?_, ?_⟩
  · exact running run ((List.eraseIdx_sublist ..).subset found)
  · exact List.rel_append yields (.cons isDone .nil)
  · refine .trans ?_ isPerm
    obtain ⟨inside, rfl⟩ := List.getElem?_eq_some_iff.1 found
    have moved := (List.getElem_cons_eraseIdx_perm inside).map AgentRun.agent
    rw [List.append_assoc]
    exact (moved.append_right pool.waiting).append_left finished

theorem map_agent_set {position : Nat} {run next : AgentRun Program}
    (found : pool.running[position]? = some run) (same : next.agent = run.agent) :
    (pool.running.set position next).map AgentRun.agent = pool.running.map AgentRun.agent := by
  rw [List.map_set, same]
  obtain ⟨inside, rfl⟩ := List.getElem?_eq_some_iff.1 found
  rw [← List.getElem_map AgentRun.agent (h := by simpa using inside), List.set_getElem_self]

/-- Moving one agent on concerns no other agent. -/
theorem Traced.settle [UrlParser] (traced : pool.Traced settings slot index history agents)
    {position : Nat} {run next : AgentRun Program} (found : pool.running[position]? = some run)
    (same : next.agent = run.agent) (isTraced : next.Traced settings slot index history) :
    Pool.Traced settings slot index history agents
      { pool with running := pool.running.set position next } := by
  obtain ⟨nodup, others, running, waiting, finished, yields, isPerm⟩ := traced
  refine ⟨nodup, others, fun run isRunning => ?_, waiting, finished, yields, ?_⟩
  · rcases List.mem_or_eq_of_mem_set isRunning with old | rfl
    · exact running run old
    · exact isTraced
  · rwa [map_agent_set found same]

/-- A call for one agent concerns no other agent. -/
theorem Traced.proceed [UrlParser] (traced : pool.Traced settings slot index history agents)
    {position : Nat} {run next : AgentRun Program} (found : pool.running[position]? = some run)
    (same : next.agent = run.agent) (isOwn : entry.owner? = some (index, run.agent.id))
    (isTraced : next.Traced settings slot index (entry :: history)) :
    Pool.Traced settings slot index (entry :: history) agents
      { pool with running := pool.running.set position next } := by
  obtain ⟨nodup, others, running, waiting, finished, yields, isPerm⟩ := traced
  have isAgent : run.agent ∈ agents := by
    refine isPerm.subset (List.mem_append_right _ (List.mem_append_left _ ?_))
    exact List.mem_map_of_mem (List.mem_of_getElem? found)
  have distinct : ((finished ++ (pool.running.map AgentRun.agent ++ pool.waiting)).map
      Agent.id).Nodup := (isPerm.map Agent.id).nodup_iff.2 nodup
  rw [List.map_append, List.map_append, List.map_map, List.nodup_append, List.nodup_append]
    at distinct
  obtain ⟨-, ⟨nodupRunning, -, notWaiting⟩, notFinished⟩ := distinct
  have isRunning : run.agent.id ∈ pool.running.map (Agent.id ∘ AgentRun.agent) :=
    List.mem_map_of_mem (List.mem_of_getElem? found)
  have foreign : ∀ id, id ≠ run.agent.id → entry.owner? ≠ some (index, id) := by
    intro id differs same
    rw [isOwn] at same
    cases same
    exact differs rfl
  refine ⟨nodup, fun id isNone => ?_, fun other isOther => ?_, fun agent waits => ?_, finished,
    ?_, ?_⟩
  · refine (others id isNone).cons (foreign id ?_)
    rintro rfl
    exact isNone (List.mem_map_of_mem isAgent)
  · obtain ⟨place, isAt⟩ := List.mem_iff_getElem?.1 isOther
    by_cases isPosition : position = place
    · subst isPosition
      rw [List.getElem?_set_self', found] at isAt
      cases isAt
      exact isTraced
    · rw [List.getElem?_set_ne isPosition] at isAt
      refine (running other (List.mem_of_getElem? isAt)).cons (foreign _ fun sameId => ?_)
      have inside : position < (pool.running.map (Agent.id ∘ AgentRun.agent)).length := by
        rw [List.length_map]
        exact (List.getElem?_eq_some_iff.1 found).1
      refine isPosition ((List.getElem?_inj inside nodupRunning).1 ?_)
      rw [List.getElem?_map, List.getElem?_map, found, isAt]
      exact congrArg some sameId.symm
  · refine (waiting agent waits).cons (foreign _ ?_)
    exact (notWaiting _ isRunning _ (List.mem_map_of_mem waits)).symm
  · have others : ∀ agent ∈ finished, agent.id ≠ run.agent.id := fun agent isDone =>
      notFinished _ (List.mem_map_of_mem isDone) _ (List.mem_append_left _ isRunning)
    exact ((List.forall₂_and_left _ _).2 ⟨others, yields⟩).imp fun agent outcome found =>
      found.2.cons (foreign _ found.1)
  · rwa [map_agent_set found same]

end Pool

namespace TickRun

variable {run : TickRun Program}

theorem Traced.settleAgent [UrlParser] (traced : run.Traced settings index history)
    (position : Nat) : (run.settleAgent settings position).Traced settings index history := by
  obtain ⟨slot, phase⟩ := run
  cases phase with
  | working pool =>
      obtain ⟨agents, opened, worked⟩ := traced
      unfold TickRun.settleAgent
      cases found : pool.running[position]? with
      | none =>
          simp only [found]
          exact ⟨agents, opened, worked⟩
      | some agent =>
          have isTraced := (worked.running agent (List.mem_of_getElem? found)).settle
          simp only [found]
          cases isDone : (agent.settle settings slot).outcome? with
          | none => exact ⟨agents, opened, worked.settle found agent.agent_settle isTraced⟩
          | some outcome =>
              refine ⟨agents, opened, worked.retire found ?_⟩
              rw [← agent.agent_settle]
              exact isTraced.yields isDone
  | opening | closing | closed => exact traced

theorem Traced.settle [UrlParser] (traced : run.Traced settings index history)
    (told : ∀ agents, ⟨.agents .listActive, .ok agents⟩ ∈ history.ofJob (.tick index) →
      (agents.map Agent.id).Nodup) :
    (run.settle settings).Traced settings index history := by
  obtain ⟨slot, phase⟩ := run
  cases phase with
  | opening job =>
      obtain ⟨leads, leaves⟩ := traced
      cases job with
      | call request next => exact ⟨leads, leaves⟩
      | done opening =>
          obtain ⟨startedAt, agents⟩ := opening
          cases agents with
          | error report => exact .failed startedAt report leads leaves
          | ok agents =>
              have nodup := told agents (Slot.told_of_opened leads)
              exact ⟨agents, leads, Pool.start_traced startedAt nodup leaves⟩
  | working pool =>
      obtain ⟨agents, opened, worked⟩ := traced
      simp only [TickRun.settle]
      split
      · exact ⟨agents, pool, [], _, rfl, opened, worked, ‹_›, .start⟩
      · exact ⟨agents, opened, worked⟩
  | closing job =>
      cases job with
      | call request next => exact traced
      | done report =>
          obtain ⟨agents, pool, later, early, parts, opened, worked, isDone, leads⟩ := traced
          exact .finished agents pool report later early parts opened worked isDone leads
  | closed report => exact traced

end TickRun

end Settle

/-! ## Calls -/

section Proceed

variable {shared after : Shared outside} {reaction : Reaction outside}

theorem forall₂_set {α β : Type} {R S : α → β → Prop} {left : List α} {right : List β}
    {position : Nat} {a : α} {b : β} (all : List.Forall₂ R left right)
    (isAt : left[position]? = some a) (own : S a b)
    (others : ∀ (place : Nat) x y, place ≠ position → left[place]? = some x → R x y → S x y) :
    List.Forall₂ S left (right.set position b) := by
  induction all generalizing position with
  | nil => cases isAt
  | cons related rest ih =>
      cases position with
      | zero =>
          cases isAt
          refine .cons own (List.forall₂_iff_zip.2 ⟨rest.length_eq, fun {x y} found => ?_⟩)
          obtain ⟨place, isPlace⟩ := List.mem_iff_getElem?.1 found
          have isX := (List.getElem?_zip_eq_some.1 isPlace).1
          exact others (place + 1) x y (by simp) isX ((List.forall₂_iff_zip.1 rest).2 found)
      | succ position =>
          refine .cons (others 0 _ _ (by simp) rfl related) ?_
          refine ih isAt fun place x y differs isX => ?_
          exact others (place + 1) x y (by simpa using differs) isX

namespace Agent.Visited

variable {agent : Agent} {targets : List Target} {visits : List (Program (Option TargetReport))}

theorem proceed (visited : agent.Visited settings slot index history targets visits)
    {position : Nat} {target : Target} {job next : Program (Option TargetReport)}
    {exchange : Exchange}
    (isTarget : targets[position]? = some target) (isJob : visits[position]? = some job)
    (found : shared.proceed reaction job = some (exchange, next, after)) :
    agent.Visited settings slot index
      (⟨.visit index { settings, slot, agent, target }, exchange⟩ :: history) targets
      (visits.set position next) := by
  obtain ⟨nodup, each, others⟩ := visited
  have isOwn : Visit.Traced index history { settings, slot, agent, target } job := by
    refine (List.forall₂_iff_zip.1 each).2 (List.mem_of_getElem? (i := position) ?_)
    exact List.getElem?_zip_eq_some.2 ⟨isTarget, isJob⟩
  refine ⟨nodup, forall₂_set each isTarget ?_ ?_, fun other isNone => ?_⟩
  · refine ⟨?_, fun other own logged sameKey => ?_⟩
    · rw [History.ofJob_cons_own rfl]
      exact isOwn.leads.proceed found
    · rcases List.mem_cons.1 logged with isNew | older
      · cases isNew
        rfl
      · exact isOwn.alone other own older sameKey
  · intro place other job' differs isOther traced
    refine traced.cons fun isJob => differs ?_
    have sameKey : target.key = other.key := congrArg StateKey.target (Actor.key_of_job? isJob)
    have inside := (List.getElem?_eq_some_iff.1 isTarget).1
    refine ((List.getElem?_inj (by simpa using inside) nodup).1 ?_).symm
    rw [List.getElem?_map, List.getElem?_map, isTarget, isOther]
    exact congrArg some sameKey
  · rw [History.ofJob_cons_other]
    · exact others other isNone
    · intro isJob
      have sameKey : target.key = other := congrArg StateKey.target (Actor.key_of_job? isJob)
      exact isNone (sameKey ▸ List.mem_map_of_mem (List.mem_of_getElem? isTarget))

/-- The programs of an agent before and after its visits are none of them. -/
theorem work (visited : agent.Visited settings slot index history targets visits)
    {exchange : Exchange} :
    agent.Visited settings slot index (⟨.agent index agent.id, exchange⟩ :: history) targets
      visits where
  nodup := visited.nodup
  each := visited.each.imp fun target job traced => traced.cons (by simp [Actor.job?])
  others target isNone := by
    rw [History.ofJob_cons_other (by simp [Actor.job?])]
    exact visited.others target isNone

end Agent.Visited

theorem AgentRun.Traced.proceed [UrlParser] {run next : AgentRun Program} {target : Option Nat}
    (traced : run.Traced settings slot index history)
    (found : run.proceed settings slot index shared reaction target = some (entry, next, after)) :
    next.agent = run.agent ∧ entry.owner? = some (index, run.agent.id) ∧
      next.Traced settings slot index (entry :: history) := by
  obtain ⟨agent, phase⟩ := run
  cases phase with
  | opening job =>
      cases target with
      | some position => cases found
      | none =>
          obtain ⟨⟨exchange, job', shared'⟩, proceeds, same⟩ := Option.bind_eq_some_iff.1 found
          cases same
          refine ⟨rfl, rfl, ?_, fun target => ?_⟩
          · rw [History.ofJob_cons_own rfl]
            exact traced.1.proceed proceeds
          · rw [History.ofJob_cons_other (by simp [Actor.job?])]
            exact traced.2 target
  | visiting targets visits =>
      cases target with
      | none => cases found
      | some position =>
          obtain ⟨target, isTarget, found⟩ := Option.bind_eq_some_iff.1 found
          obtain ⟨job, isJob, found⟩ := Option.bind_eq_some_iff.1 found
          obtain ⟨⟨exchange, job', shared'⟩, proceeds, same⟩ := Option.bind_eq_some_iff.1 found
          cases same
          refine ⟨rfl, rfl, ?_, traced.2.proceed isTarget isJob proceeds⟩
          rw [History.ofJob_cons_other (by simp [Actor.job?])]
          exact traced.1
  | closing reports job =>
      cases target with
      | some position => cases found
      | none =>
          obtain ⟨⟨exchange, job', shared'⟩, proceeds, same⟩ := Option.bind_eq_some_iff.1 found
          cases same
          obtain ⟨targets, later, early, parts, opened, visited, leads⟩ := traced
          refine ⟨rfl, rfl, targets, exchange :: later, early, ?_, opened, ?_,
            leads.proceed proceeds⟩
          · rw [History.ofJob_cons_own rfl, parts]
            rfl
          · exact visited.work
  | closed outcome => cases target <;> cases found

theorem AgentRun.answered_of_proceed {run next : AgentRun Program} {target : Option Nat}
    (found : run.proceed settings slot index shared reaction target = some (entry, next, after)) :
    shared.answer reaction entry.exchange.call = some (entry.exchange.answer, after) := by
  unfold AgentRun.proceed at found
  split at found
  · obtain ⟨⟨exchange, job', shared'⟩, proceeds, same⟩ := Option.bind_eq_some_iff.1 found
    cases same
    exact (Shared.proceed_eq_some proceeds).1
  · obtain ⟨target, -, found⟩ := Option.bind_eq_some_iff.1 found
    obtain ⟨job, -, found⟩ := Option.bind_eq_some_iff.1 found
    obtain ⟨⟨exchange, job', shared'⟩, proceeds, same⟩ := Option.bind_eq_some_iff.1 found
    cases same
    exact (Shared.proceed_eq_some proceeds).1
  · obtain ⟨⟨exchange, job', shared'⟩, proceeds, same⟩ := Option.bind_eq_some_iff.1 found
    cases same
    exact (Shared.proceed_eq_some proceeds).1
  · cases found

namespace TickRun

variable {run next : TickRun Program}

theorem answered_of_proceedAgent {position : Nat} {target : Option Nat}
    (found : run.proceedAgent settings index shared reaction position target =
      some (entry, next, after)) :
    shared.answer reaction entry.exchange.call = some (entry.exchange.answer, after) := by
  unfold TickRun.proceedAgent at found
  split at found
  · obtain ⟨agent, -, found⟩ := Option.bind_eq_some_iff.1 found
    obtain ⟨⟨entry', agent', shared'⟩, proceeds, same⟩ := Option.bind_eq_some_iff.1 found
    cases same
    exact AgentRun.answered_of_proceed proceeds
  · cases found

/-- Every entry of the log is a call that was answered. -/
theorem answered_of_proceed {spot : Spot}
    (found : run.proceed settings index shared reaction spot = some (entry, next, after)) :
    shared.answer reaction entry.exchange.call = some (entry.exchange.answer, after) := by
  cases spot with
  | agent position => exact answered_of_proceedAgent found
  | visit position target => exact answered_of_proceedAgent found
  | tick =>
      simp only [TickRun.proceed] at found
      split at found
      · obtain ⟨⟨exchange, job', shared'⟩, proceeds, same⟩ := Option.bind_eq_some_iff.1 found
        cases same
        exact (Shared.proceed_eq_some proceeds).1
      · obtain ⟨⟨exchange, job', shared'⟩, proceeds, same⟩ := Option.bind_eq_some_iff.1 found
        cases same
        exact (Shared.proceed_eq_some proceeds).1
      · cases found

theorem slot_proceedAgent {position : Nat} {target : Option Nat}
    (found : run.proceedAgent settings index shared reaction position target =
      some (entry, next, after)) : next.slot = run.slot := by
  unfold TickRun.proceedAgent at found
  split at found
  · obtain ⟨agent, -, found⟩ := Option.bind_eq_some_iff.1 found
    obtain ⟨⟨entry', agent', shared'⟩, -, same⟩ := Option.bind_eq_some_iff.1 found
    cases same
    rfl
  · cases found

theorem slot_proceed {spot : Spot}
    (found : run.proceed settings index shared reaction spot = some (entry, next, after)) :
    next.slot = run.slot := by
  cases spot with
  | agent position => exact slot_proceedAgent found
  | visit position target => exact slot_proceedAgent found
  | tick =>
      simp only [TickRun.proceed] at found
      split at found
      · obtain ⟨⟨exchange, job', shared'⟩, -, same⟩ := Option.bind_eq_some_iff.1 found
        cases same
        rfl
      · obtain ⟨⟨exchange, job', shared'⟩, -, same⟩ := Option.bind_eq_some_iff.1 found
        cases same
        rfl
      · cases found

theorem Traced.proceedAgent [UrlParser] {position : Nat} {target : Option Nat}
    (traced : run.Traced settings index history)
    (found : run.proceedAgent settings index shared reaction position target =
      some (entry, next, after)) :
    (∃ job, entry.actor.job? = some job ∧ job.index = index) ∧
      next.Traced settings index (entry :: history) := by
  obtain ⟨slot, phase⟩ := run
  cases phase with
  | working pool =>
      obtain ⟨agent, isAgent, found⟩ := Option.bind_eq_some_iff.1 found
      obtain ⟨⟨entry', agent', shared'⟩, proceeds, same⟩ := Option.bind_eq_some_iff.1 found
      cases same
      obtain ⟨agents, opened, worked⟩ := traced
      obtain ⟨sameAgent, isOwn, isTraced⟩ :=
        (worked.running agent (List.mem_of_getElem? isAgent)).proceed proceeds
      obtain ⟨job, isJob, isOwner⟩ := Option.bind_eq_some_iff.1 isOwn
      refine ⟨⟨job, isJob, JobId.index_eq_of_owner? isOwner⟩, agents, ?_,
        worked.proceed isAgent sameAgent isOwn isTraced⟩
      rw [History.ofJob_cons_other]
      · exact opened
      · intro isTick
        rw [isJob] at isTick
        cases isTick
        cases isOwner
  | opening | closing | closed => cases found

theorem Traced.proceed [UrlParser] {spot : Spot} (traced : run.Traced settings index history)
    (found : run.proceed settings index shared reaction spot = some (entry, next, after)) :
    (∃ job, entry.actor.job? = some job ∧ job.index = index) ∧
      next.Traced settings index (entry :: history) := by
  cases spot with
  | agent position => exact traced.proceedAgent found
  | visit position target => exact traced.proceedAgent found
  | tick =>
      obtain ⟨slot, phase⟩ := run
      cases phase with
      | opening job =>
          obtain ⟨⟨exchange, job', shared'⟩, proceeds, same⟩ := Option.bind_eq_some_iff.1 found
          cases same
          refine ⟨⟨_, rfl, rfl⟩, ?_, fun id => (traced.2 id).cons nofun⟩
          rw [History.ofJob_cons_own rfl]
          exact traced.1.proceed proceeds
      | closing job =>
          obtain ⟨⟨exchange, job', shared'⟩, proceeds, same⟩ := Option.bind_eq_some_iff.1 found
          cases same
          obtain ⟨agents, pool, later, early, parts, opened, worked, isDone, leads⟩ := traced
          refine ⟨⟨_, rfl, rfl⟩, agents, pool, exchange :: later, early, ?_, opened,
            worked.cons fun id => nofun, isDone, leads.proceed proceeds⟩
          rw [History.ofJob_cons_own rfl, parts]
          rfl
      | working | closed => cases found

end TickRun

end Proceed

/-! ## Whole systems -/

/-- Whether agents that a tick was told to be active are, and have ids of their own. -/
def Entry.IsTruthful (entry : Entry) : Prop :=
  ∀ agents, entry.exchange = ⟨.agents .listActive, .ok agents⟩ →
    (agents.map Agent.id).Nodup ∧ ∀ agent ∈ agents, agent.isActive = true

/-- A call leaves agents under their own ids, and what it tells of them is true. -/
theorem Shared.keyed_of_answer {shared after : Shared outside} {reaction : Reaction outside}
    (entry : Entry) (keyed : shared.agents.IsKeyed)
    (answered : shared.answer reaction entry.exchange.call = some (entry.exchange.answer, after)) :
    after.agents.IsKeyed ∧ entry.IsTruthful := by
  obtain ⟨actor, ⟨call, answer⟩⟩ := entry
  cases call with
  | agents query =>
      rcases Shared.answer_agents answered with ⟨⟨failure, rfl⟩, rfl⟩ | ⟨agents, isAnswer, rfl⟩
      · refine ⟨keyed, fun agents same => ?_⟩
        cases query <;> cases same
      · refine ⟨?_, fun told same => ?_⟩
        · have kept := query.answer_keyed keyed
          rw [isAnswer] at kept
          exact kept
        · cases same
          cases isAnswer
          refine ⟨(AgentStore.IsKeyed.nodup_ids keyed).sublist (List.filter_sublist.map _), ?_⟩
          exact fun agent found => (List.mem_filter.1 found).2
  | _ =>
      refine ⟨?_, fun agents same => by cases same⟩
      rw [Shared.agents_of_answer (fun _ => by simp) answered]
      exact keyed

namespace System

/-- Whether all ticks of a system have come as far as its log says. -/
structure Traced [UrlParser] (settings : Settings) (system : System outside) : Prop where
  keyed : system.shared.agents.IsKeyed
  truthful : ∀ entry ∈ system.log, entry.IsTruthful
  ticks : ∀ (index : Nat) (run : TickRun Program), system.ticks[index]? = some run →
    run.Traced settings index system.log
  begun : ∀ entry ∈ system.log, ∀ index, system.ticks.length ≤ index → entry.IsBeyond index

variable {system : System outside}

theorem start_traced [UrlParser] {agents : AgentStore} (keyed : agents.IsKeyed)
    {states : StateStore} {world : outside.World} :
    (start agents states world).Traced settings where
  keyed := keyed
  truthful := List.forall_mem_nil _
  ticks _ _ := nofun
  begun := List.forall_mem_nil _

namespace Traced

theorem begin [UrlParser] (traced : system.Traced settings) (slot : Slot) :
    Traced settings { system with ticks := system.ticks ++ [.start slot] } where
  keyed := traced.keyed
  truthful := traced.truthful
  ticks index run found := by
    by_cases inside : index < system.ticks.length
    · rw [List.getElem?_append_left inside] at found
      exact traced.ticks index run found
    · have beyond := Nat.le_of_not_lt inside
      rw [List.getElem?_append_right beyond] at found
      cases List.mem_singleton.1 (List.mem_of_getElem? found)
      have areBeyond : ∀ entry ∈ system.log, entry.IsBeyond index :=
        fun entry logged => traced.begun entry logged index beyond
      refine ⟨?_, fun id entry logged => (areBeyond entry logged).owner?_ne id⟩
      have nothing : History.ofJob (.tick index) system.log = [] := by
        refine List.eq_nil_iff_forall_not_mem.2 fun exchange logged => ?_
        obtain ⟨actor, logged, isJob⟩ := History.mem_ofJob.1 logged
        exact areBeyond _ logged _ isJob rfl
      rw [nothing]
      exact .start
  begun entry logged index beyond := by
    rw [List.length_append] at beyond
    exact traced.begun entry logged index (Nat.le_of_succ_le beyond)

theorem modify [UrlParser] (traced : system.Traced settings) {index : Nat}
    {change : TickRun Program → TickRun Program}
    (keeps : ∀ run, run.Traced settings index system.log →
      (change run).Traced settings index system.log) :
    Traced settings { system with ticks := system.ticks.modify index change } where
  keyed := traced.keyed
  truthful := traced.truthful
  ticks other run found := by
    rw [List.getElem?_modify] at found
    obtain ⟨before, isBefore, rfl⟩ := Option.map_eq_some_iff.1 found
    have isTraced := traced.ticks other before isBefore
    by_cases isIndex : index = other
    · subst isIndex
      rw [if_pos rfl]
      exact keeps before isTraced
    · rw [if_neg isIndex]
      exact isTraced
  begun entry logged other beyond := by
    rw [List.length_modify] at beyond
    exact traced.begun entry logged other beyond

theorem proceed [UrlParser] (traced : system.Traced settings) {index : Nat}
    {run next : TickRun Program} {spot : Spot} {reaction : Reaction outside} {entry : Entry}
    {shared : Shared outside}
    (isTick : system.ticks[index]? = some run)
    (found : run.proceed settings index system.shared reaction spot =
      some (entry, next, shared)) :
    Traced settings
      { system with ticks := system.ticks.set index next, shared, log := entry :: system.log } := by
  obtain ⟨⟨job, isJob, isIndex⟩, isTraced⟩ := (traced.ticks index run isTick).proceed found
  have inside := (List.getElem?_eq_some_iff.1 isTick).1
  obtain ⟨keyed, isTruthful⟩ :=
    Shared.keyed_of_answer entry traced.keyed (run.answered_of_proceed found)
  refine ⟨keyed, List.forall_mem_cons.2 ⟨isTruthful, traced.truthful⟩, fun other own isOwn => ?_,
    List.forall_mem_cons.2 ⟨fun other beyond own isOwn sameIndex => ?_, fun e logged other beyond =>
      ?_⟩⟩
  · by_cases same : index = other
    · subst same
      rw [List.getElem?_set_self inside] at isOwn
      cases isOwn
      exact isTraced
    · rw [List.getElem?_set_ne same] at isOwn
      refine (traced.ticks other own isOwn).cons fun job' isJob' sameIndex => same ?_
      rw [isJob] at isJob'
      cases isJob'
      exact isIndex.symm.trans sameIndex
  · rw [isJob] at isOwn
    cases isOwn
    rw [List.length_set, ← sameIndex, isIndex] at beyond
    exact absurd inside (Nat.not_lt.2 beyond)
  · rw [List.length_set] at beyond
    exact traced.begun e logged other beyond

/-- Calls of requests are none of the ticks. -/
theorem serve [UrlParser] (traced : system.Traced settings) {requests : List (Program Unit)}
    {index : Nat} {reaction : Reaction outside} {exchange : Exchange} {shared : Shared outside}
    (answered : system.shared.answer reaction exchange.call = some (exchange.answer, shared)) :
    Traced settings
      { system with requests, shared, log := ⟨.request index, exchange⟩ :: system.log } := by
  obtain ⟨keyed, isTruthful⟩ :=
    Shared.keyed_of_answer ⟨.request index, exchange⟩ traced.keyed answered
  refine ⟨keyed, List.forall_mem_cons.2 ⟨isTruthful, traced.truthful⟩, fun other own isOwn => ?_,
    List.forall_mem_cons.2 ⟨fun _ _ _ => nofun, traced.begun⟩⟩
  exact (traced.ticks other own isOwn).cons fun _ => nofun

theorem take [UrlParser] (traced : system.Traced settings) (turn : Turn outside) :
    (system.take settings turn).Traced settings := by
  cases turn with
  | begin now => exact traced.begin (settings.slot now)
  | settle index position =>
      cases position with
      | none =>
          refine traced.modify fun run isTraced => isTraced.settle fun agents told => ?_
          obtain ⟨actor, logged, -⟩ := History.mem_ofJob.1 told
          exact (traced.truthful _ logged agents rfl).1
      | some position => exact traced.modify fun run isTraced => isTraced.settleAgent position
  | proceed index spot reaction =>
      simp only [System.take]
      split
      · exact traced
      · rename_i entry next shared found
        obtain ⟨run, isTick, proceeds⟩ := Option.bind_eq_some_iff.1 found
        exact traced.proceed isTick proceeds

theorem perform [UrlParser] (traced : system.Traced settings) (deed : Deed outside) :
    (system.perform settings deed).Traced settings := by
  cases deed with
  | turn turn => exact traced.take turn
  | submit request => exact ⟨traced.keyed, traced.truthful, traced.ticks, traced.begun⟩
  | serve index reaction =>
      simp only [System.perform]
      split
      · exact traced
      · rename_i exchange next shared found
        obtain ⟨job, -, proceeds⟩ := Option.bind_eq_some_iff.1 found
        exact traced.serve (Shared.proceed_eq_some proceeds).1
  | update agent now =>
      simp only [System.perform]
      split
      · exact traced
      · exact ⟨traced.keyed.update ‹_›, traced.truthful, traced.ticks, traced.begun⟩

end Traced

/-- Whatever happens, the log tells what the programs of all ticks have done. -/
theorem performAll_traced [UrlParser] (traced : system.Traced settings)
    (deeds : List (Deed outside)) : (system.performAll settings deeds).Traced settings := by
  induction deeds generalizing system with
  | nil => exact traced
  | cons deed rest ih => exact ih (traced.perform deed)

theorem Traced.run [UrlParser] (traced : system.Traced settings) (turns : List (Turn outside)) :
    (system.run settings turns).Traced settings :=
  performAll_turns settings system turns ▸ performAll_traced traced (turns.map .turn)

end System

end AdMonitor
