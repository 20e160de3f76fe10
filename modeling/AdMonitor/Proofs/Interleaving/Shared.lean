import AdMonitor.Proofs.Program.Follows
import AdMonitor.Simulation.Locks

/-!
# What concurrent programs share

The stores, the locks and the outside world, as one call after the other finds
them.  The outside is a parameter: collaborators may answer anything at any
time.  A store answers like an in-memory store or fails.
-/

namespace AdMonitor

/-- Collaborators: how they answer a call in a mood, and what that does to their world. -/
structure Outside where
  World : Type
  Mood : Type
  answer : Mood → World → (call : Call) → call.Answer × World

def Call.unheard : (call : Call) → call.Answer
  | .metrics .. | .platform .. | .enqueue .. => .timedOut
  | .snapshots _ _ ids _ => ⟨ids.map fun _ => .timedOut, List.length_map _⟩
  | .post .. => .ok 504
  | .agents _ | .states _ => .error (.storage "unheard")
  | .lock (.find _) => (0 : Nat)
  | .lock (.acquire _) | .lock (.release _) | .lock (.forget ..) | .publish _ | .sleep _ => ()
  | .jitter _ => 0
  | .clock => default

def Outside.silent : Outside where
  World := Unit
  Mood := Unit
  answer _ _ call := (call.unheard, ())

structure Reaction (outside : Outside) where
  mood : outside.Mood
  /-- The failure of a store. -/
  failure : Option Failure
  /-- The states that a removal which fails has removed nevertheless. -/
  lost : StateKey → Bool

namespace LockTable

def isFree (table : LockTable) (lock : LockId) : Bool :=
  match table.locks[lock]? with
  | some l => l.holder.isNone
  | none => false

def lookup (table : LockTable) (name : LockName) : Option LockId :=
  (table.names.find? fun e => e.1 == name).map (·.2)

/-- Answer a request; a lock that is held cannot be taken for the time being. -/
def answer (table : LockTable) : (query : LockQuery) → Option (query.Answer × LockTable)
  | .find name => some (table.find name)
  | .acquire lock => if table.isFree lock then some ((), table.enter lock 0) else none
  | .release lock => some ((), table.release lock 0)
  | .forget agent keep => some ((), table.forget agent keep)

end LockTable

namespace StateQuery

/-- The store after a request that failed: a removal may have removed a part. -/
def afterFailure (store : StateStore) (lost : StateKey → Bool) : StateQuery → StateStore
  | .retain agent keep =>
      (store.keepOnly fun key => !lost key || key.agent != agent || keep.contains key.target).2
  | .remove agent => (store.keepOnly fun key => !lost key || key.agent != agent).2
  | .get _ | .put .. | .owners => store

end StateQuery

structure Shared (outside : Outside) where
  agents : AgentStore
  states : StateStore
  locks : LockTable
  world : outside.World

namespace Shared

variable {outside : Outside}

/-- Answer a call, unless it has to wait for a lock. -/
def answer (shared : Shared outside) (reaction : Reaction outside) :
    (call : Call) → Option (call.Answer × Shared outside)
  | .agents query =>
      match reaction.failure with
      | some failure => some (.error failure, shared)
      | none =>
          let (answer, agents) := query.answer shared.agents
          some (answer, { shared with agents })
  | .states query =>
      match reaction.failure with
      | some failure =>
          let states := query.afterFailure shared.states reaction.lost
          some (.error failure, { shared with states })
      | none =>
          let (answer, states) := query.answer shared.states
          some (.ok answer, { shared with states })
  | .lock query =>
      (shared.locks.answer query).map fun (answer, locks) => (answer, { shared with locks })
  | call =>
      let (answer, world) := outside.answer reaction.mood shared.world call
      some (answer, { shared with world })

/-- Make the next call of a program, unless it has ended or has to wait. -/
def proceed {α : Type} (shared : Shared outside) (reaction : Reaction outside) :
    Program α → Option (Exchange × Program α × Shared outside)
  | .done _ => none
  | .call request next =>
      (shared.answer reaction request).map fun (answer, shared) =>
        (⟨request, answer⟩, next answer, shared)

section Answers

variable {shared after : Shared outside} {reaction : Reaction outside}

/-- A request to the store of agents fails, or it is answered and touches nothing else. -/
theorem answer_agents {query : AgentQuery} {answer : Except Failure query.Answer}
    (answered : shared.answer reaction (.agents query) = some (answer, after)) :
    ((∃ failure, answer = .error failure) ∧ after = shared) ∨
      ∃ agents, query.answer shared.agents = (answer, agents) ∧ after = { shared with agents } := by
  unfold Shared.answer at answered
  cases failed : reaction.failure with
  | some failure =>
      rw [failed] at answered
      cases answered
      exact Or.inl ⟨⟨failure, rfl⟩, rfl⟩
  | none =>
      rw [failed] at answered
      cases answered
      exact Or.inr ⟨_, rfl, rfl⟩

theorem answer_states {query : StateQuery} {answer : Except Failure query.Answer}
    (answered : shared.answer reaction (.states query) = some (answer, after)) :
    ((∃ failure, answer = .error failure) ∧
        after = { shared with states := query.afterFailure shared.states reaction.lost }) ∨
      answer = .ok (query.answer shared.states).1 ∧
        after = { shared with states := (query.answer shared.states).2 } := by
  unfold Shared.answer at answered
  cases failed : reaction.failure with
  | some failure =>
      rw [failed] at answered
      cases answered
      exact Or.inl ⟨⟨failure, rfl⟩, rfl⟩
  | none =>
      rw [failed] at answered
      cases answered
      exact Or.inr ⟨rfl, rfl⟩

theorem answer_lock {query : LockQuery} {answer : query.Answer}
    (answered : shared.answer reaction (.lock query) = some (answer, after)) :
    ∃ locks, shared.locks.answer query = some (answer, locks) ∧
      after = { shared with locks } := by
  obtain ⟨⟨found, locks⟩, moved, same⟩ := Option.map_eq_some_iff.1 answered
  cases same
  exact ⟨locks, moved, rfl⟩

theorem locks_of_answer {call : Call} {answer : call.Answer}
    (noLock : ∀ query, call ≠ .lock query)
    (answered : shared.answer reaction call = some (answer, after)) :
    after.locks = shared.locks := by
  cases call with
  | lock query => exact absurd rfl (noLock query)
  | agents query => rcases answer_agents answered with ⟨-, rfl⟩ | ⟨_, -, rfl⟩ <;> rfl
  | states query => rcases answer_states answered with ⟨-, rfl⟩ | ⟨-, rfl⟩ <;> rfl
  | _ =>
      cases answered
      rfl

theorem states_of_answer {call : Call} {answer : call.Answer}
    (noStates : ∀ query, call ≠ .states query)
    (answered : shared.answer reaction call = some (answer, after)) :
    after.states = shared.states := by
  cases call with
  | states query => exact absurd rfl (noStates query)
  | agents query => rcases answer_agents answered with ⟨-, rfl⟩ | ⟨_, -, rfl⟩ <;> rfl
  | lock query =>
      obtain ⟨locks, -, rfl⟩ := answer_lock answered
      rfl
  | _ =>
      cases answered
      rfl

theorem agents_of_answer {call : Call} {answer : call.Answer}
    (noAgents : ∀ query, call ≠ .agents query)
    (answered : shared.answer reaction call = some (answer, after)) :
    after.agents = shared.agents := by
  cases call with
  | agents query => exact absurd rfl (noAgents query)
  | states query => rcases answer_states answered with ⟨-, rfl⟩ | ⟨-, rfl⟩ <;> rfl
  | lock query =>
      obtain ⟨locks, -, rfl⟩ := answer_lock answered
      rfl
  | _ =>
      cases answered
      rfl

end Answers

theorem proceed_eq_some {α : Type} {shared after : Shared outside}
    {reaction : Reaction outside} {program rest : Program α} {exchange : Exchange}
    (found : shared.proceed reaction program = some (exchange, rest, after)) :
    shared.answer reaction exchange.call = some (exchange.answer, after) ∧
      ∃ next, program = .call exchange.call next ∧ rest = next exchange.answer := by
  cases program with
  | done value => simp [proceed] at found
  | call request next =>
      obtain ⟨⟨answer, changed⟩, answered, same⟩ := Option.map_eq_some_iff.1 found
      cases same
      exact ⟨answered, next, rfl, rfl⟩

end Shared

namespace Program

variable {outside : Outside} {α σ : Type} {shared after : Shared outside}
  {reaction : Reaction outside} {program rest : Program α} {exchange : Exchange}

theorem Follows.proceed {step : σ → Exchange → σ → Prop} {post : σ → α → Prop} {stage : σ}
    (follows : program.Follows step post stage)
    (found : shared.proceed reaction program = some (exchange, rest, after)) :
    ∃ next, step stage exchange next ∧ rest.Follows step post next := by
  obtain ⟨-, next, rfl, rfl⟩ := Shared.proceed_eq_some found
  exact follows exchange.answer

theorem Uses.proceed {allowed : Call → Prop} {post : α → Prop}
    (uses : program.Uses allowed post)
    (found : shared.proceed reaction program = some (exchange, rest, after)) :
    allowed exchange.call ∧ rest.Uses allowed post := by
  obtain ⟨-, next, rfl, rfl⟩ := Shared.proceed_eq_some found
  exact ⟨uses.1, uses.2 exchange.answer⟩

end Program

end AdMonitor
