import AdMonitor.Proofs.Interleaving.Shared
import AdMonitor.Proofs.Store.Agents
import AdMonitor.Proofs.Visit.Stage

/-!
# Regimes

Ticks collect states by what they were told of the agents some time ago.  A
regime says what stays true of the agents in the meantime, and so which states
and locks are never collected.  Under `Regime.fixed` nobody but ticks touches
the agents, and the states of all their targets are spared.
-/

namespace AdMonitor

/-- Calls of jobs that are no visits and leave alone the states and locks of certain keys. -/
def Call.Spares (spared : StateKey → Prop) : Call → Prop
  | .states (.retain agent keep) | .lock (.forget agent keep) =>
      ∀ key, spared key → LockTable.isForgotten agent keep (.target key) = false
  | .states (.remove agent) =>
      ∀ key, spared key → LockTable.isForgotten agent [] (.target key) = false
  | .states (.put ..) | .lock _ | .publish (.targetFired ..) => False
  | _ => True

structure Regime where
  /-- What is true of the store of agents at all times. -/
  lawful : AgentStore → Prop
  /-- What is true of every agent that ticks work on. -/
  serves : Agent → Prop
  /-- The keys whose states and locks are never collected. -/
  spared : StateKey → Prop
  serves_of_stored : ∀ {store id agent}, lawful store → Table.get? store id = some agent →
    agent.id = id ∧ serves agent
  keeps_spared : ∀ {agent key}, serves agent → spared key → key.agent = agent.id →
    key.target ∈ agent.scope.targetKeys
  stored_of_spared : ∀ {store key}, lawful store → spared key →
    ∃ agent, Table.get? store key.agent = some agent
  lawful_mark : ∀ {store after id time}, lawful store → store.mark id time = .ok after →
    lawful after

namespace Regime

def Covers (regime : Regime) : Prop :=
  ∀ agent, regime.serves agent → ∀ target ∈ agent.scope.targetKeys,
    regime.spared ⟨agent.id, target⟩

/-- Whether the lock of a name is never forgotten; that of a campaign never is. -/
def Protects (regime : Regime) (name : LockName) : Prop :=
  ∀ key, name = .target key → regime.spared key

def Keeps (regime : Regime) : Call → Prop
  | .agents query => ∀ store, regime.lawful store → regime.lawful (query.answer store).2
  | _ => True

def Allows (regime : Regime) (call : Call) : Prop :=
  call.Spares regime.spared ∧ regime.Keeps call

end Regime

variable {outside : Outside} {shared after : Shared outside} {reaction : Reaction outside}
  {regime : Regime} {exchange : Exchange}

theorem Regime.Keeps.lawful (keeps : regime.Keeps exchange.call)
    (lawful : regime.lawful shared.agents)
    (answered : shared.answer reaction exchange.call = some (exchange.answer, after)) :
    regime.lawful after.agents := by
  obtain ⟨call, answer⟩ := exchange
  cases call with
  | agents query =>
      rcases Shared.answer_agents answered with ⟨-, rfl⟩ | ⟨agents, isAnswer, rfl⟩
      · exact lawful
      · have kept := keeps shared.agents lawful
        rw [isAnswer] at kept
        exact kept
  | _ =>
      rw [Shared.agents_of_answer (fun _ => by simp) answered]
      exact lawful

theorem Regime.keeps_mark (regime : Regime) (id : AgentId) (time : Instant) :
    regime.Keeps (.agents (.mark id time)) := by
  intro store lawful
  rcases AgentQuery.commit_cases store (store.mark id time) with same | marked
  · exact (congrArg regime.lawful same).mpr lawful
  · exact regime.lawful_mark lawful marked

namespace Call

variable {call : Call} {agent : Agent}

theorem IsReading.allowed (isReading : call.IsReading) : regime.Allows call := by
  cases call with
  | metrics | snapshots => exact ⟨trivial, trivial⟩
  | _ => cases isReading

theorem IsOpening.allowed (isOpening : call.IsOpening) : regime.Allows call := by
  cases call with
  | metrics => exact ⟨trivial, trivial⟩
  | publish event =>
      cases event with
      | agentFailed => exact ⟨trivial, trivial⟩
      | _ => cases isOpening
  | _ => cases isOpening

/-- What the work on an agent collects at its end is nothing that is spared. -/
theorem IsClosing.allowed (serves : regime.serves agent)
    (isClosing : call.IsClosing agent.id agent.scope.targetKeys) : regime.Allows call := by
  have kept : ∀ key, regime.spared key →
      LockTable.isForgotten agent.id agent.scope.targetKeys (.target key) = false := by
    intro key isSpared
    by_cases isOwn : key.agent = agent.id
    · simp [LockTable.isForgotten, regime.keeps_spared serves isSpared isOwn]
    · simp [LockTable.isForgotten, isOwn]
  cases call with
  | states query =>
      cases query with
      | retain owner keep =>
          obtain ⟨rfl, rfl⟩ := isClosing
          exact ⟨kept, trivial⟩
      | _ => cases isClosing
  | lock query =>
      cases query with
      | forget owner keep =>
          obtain ⟨rfl, rfl⟩ := isClosing
          exact ⟨kept, trivial⟩
      | _ => cases isClosing
  | agents query =>
      cases query with
      | mark id time => exact ⟨trivial, regime.keeps_mark id time⟩
      | _ => cases isClosing
  | publish event =>
      cases event with
      | stateCollected => exact ⟨trivial, trivial⟩
      | _ => cases isClosing
  | _ => cases isClosing

theorem IsNote.allowed (isNote : call.IsNote) : regime.Allows call := by
  cases call with
  | agents query =>
      cases query with
      | list | listActive => exact ⟨trivial, fun _ lawful => lawful⟩
      | _ => cases isNote
  | states query =>
      cases query with
      | owners => exact ⟨trivial, trivial⟩
      | _ => cases isNote
  | clock => exact ⟨trivial, trivial⟩
  | publish event =>
      cases event with
      | tickStarted | tickCompleted | stateCollected => exact ⟨trivial, trivial⟩
      | _ => cases isNote
  | _ => cases isNote

end Call

namespace TickView

def Holds (regime : Regime) : TickView → Prop
  | .nothing => True
  | .active agents =>
      (∀ agent ∈ agents, regime.serves agent) ∧ (agents.map Agent.id).Nodup
  | .known agents =>
      ∀ key, regime.spared key → ∃ agent ∈ agents, agent.id = key.agent

end TickView

namespace TickStep

variable {view next : TickView}

/-- A tick collects nothing that is spared. -/
theorem allowed (step : TickStep view exchange next) (holds : view.Holds regime) :
    regime.Allows exchange.call := by
  have kept : ∀ {agents : List Agent} {owner}, (∀ agent ∈ agents, agent.id ≠ owner) →
      (TickView.known agents).Holds regime → ∀ key, regime.spared key →
      LockTable.isForgotten owner [] (.target key) = false := by
    intro agents owner isGone holds key isSpared
    obtain ⟨agent, isKnown, same⟩ := holds key isSpared
    have differs : key.agent ≠ owner := same ▸ isGone agent isKnown
    simp [LockTable.isForgotten, differs]
  cases step with
  | load agents | list agents => exact ⟨trivial, fun _ lawful => lawful⟩
  | remove agents owner answer isGone => exact ⟨kept isGone holds, trivial⟩
  | forget agents owner isGone => exact ⟨kept isGone holds, trivial⟩
  | note view exchange isNote => exact isNote.allowed

/-- What a tick is told is true, and stays so. -/
theorem holds (step : TickStep view exchange next) (holds : view.Holds regime)
    (lawful : regime.lawful shared.agents)
    (answered : shared.answer reaction exchange.call = some (exchange.answer, after)) :
    next.Holds regime := by
  have keyed : shared.agents.IsKeyed :=
    fun id agent found => (regime.serves_of_stored lawful found).1
  cases step with
  | load agents =>
      rcases Shared.answer_agents answered with ⟨⟨failure, isError⟩, -⟩ | ⟨_, isAnswer, -⟩
      · cases isError
      · cases isAnswer
        refine ⟨fun agent found => ?_, ?_⟩
        · obtain ⟨id, stored⟩ := AgentStore.mem_agents.1 ((List.mem_filter.1 found).1)
          exact (regime.serves_of_stored lawful stored).2
        · exact (AgentStore.IsKeyed.nodup_ids keyed).sublist (List.filter_sublist.map _)
  | list agents =>
      rcases Shared.answer_agents answered with ⟨⟨failure, isError⟩, -⟩ | ⟨_, isAnswer, -⟩
      · cases isError
      · cases isAnswer
        intro key isSpared
        obtain ⟨agent, stored⟩ := regime.stored_of_spared lawful isSpared
        exact ⟨agent, AgentStore.mem_agents.2 ⟨_, stored⟩, keyed _ _ stored⟩
  | remove | forget | note => exact holds

end TickStep

/-- Only ticks touch the agents, so these stay what they are but for their times. -/
def Regime.fixed (agents : AgentStore) (keyed : agents.IsKeyed) : Regime where
  lawful store := store.Resembles agents
  serves := agents.Knows
  spared := agents.HasTarget
  serves_of_stored := by
    intro store id agent resembles found
    obtain ⟨stored, isStored, same⟩ := resembles.stored found
    have isKeyed : agent.id = id := by
      rw [← keyed id stored isStored]
      exact (Agent.eq_of_unmarked same).1
    subst isKeyed
    exact ⟨rfl, stored, isStored, same⟩
  keeps_spared := by
    rintro agent key ⟨stored, isStored, same⟩ ⟨owner, isOwner, isTarget⟩ isOwn
    rw [isOwn, isStored] at isOwner
    cases isOwner
    rwa [(Agent.eq_of_unmarked same).2]
  stored_of_spared := by
    rintro store key resembles ⟨owner, isOwner, -⟩
    have same := resembles key.agent
    rw [isOwner, Option.map_some] at same
    obtain ⟨agent, isStored, -⟩ := Option.map_eq_some_iff.1 same
    exact ⟨agent, isStored⟩
  lawful_mark := AgentStore.Resembles.mark

theorem Regime.fixed_covers {agents : AgentStore} {keyed : agents.IsKeyed} :
    (Regime.fixed agents keyed).Covers := by
  rintro agent ⟨stored, isStored, same⟩ target isTarget
  refine ⟨stored, isStored, ?_⟩
  rwa [← (Agent.eq_of_unmarked same).2]

end AdMonitor
