import AdMonitor.Proofs.Instant.Order
import AdMonitor.Proofs.Metric.Requirement
import AdMonitor.Proofs.Store.Agents
import Mathlib.Data.List.Induction
import Mathlib.Data.String.Basic
import Mathlib.Order.Basic

/-!
# Calls of the store of agents

Whatever has been asked of a store of agents, they stand under their own ids
and are listed in the order of these, and a call that fails has changed
nothing.  When an agent was last evaluated is the latest of the times that were
recorded for it, whatever the order in which they were, as long as the agent is
not edited or deleted.
-/

namespace AdMonitor

namespace AgentStore

/-- The later of a time and the latest one so far is the latest. -/
theorem isLatest_latest {times : List Instant} {last : Option Instant}
    (isLatest : Instant.IsLatest times last) (time : Instant) :
    Instant.IsLatest (times ++ [time]) (some (latest last time)) := by
  cases last with
  | none =>
      obtain rfl : times = [] := isLatest
      exact .toList (some time)
  | some previous =>
      obtain ⟨found, isLast⟩ := isLatest
      by_cases isLater : previous < time
      · simp only [latest, if_pos isLater]
        refine ⟨by simp, fun other isOne => ?_⟩
        rcases List.mem_append.1 isOne with earlier | isTime
        · exact (isLast other earlier).trans isLater.le
        · exact (List.mem_singleton.1 isTime).le
      · simp only [latest, if_neg isLater]
        refine ⟨List.mem_append_left _ found, fun other isOne => ?_⟩
        rcases List.mem_append.1 isOne with earlier | isTime
        · exact isLast other earlier
        · exact (List.mem_singleton.1 isTime).le.trans (le_of_not_gt isLater)

end AgentStore

/-- What a store of agents is called for: a request, or to replace an agent by one that was
changed at the given time. -/
inductive AgentCall where
  | ask (query : AgentQuery)
  | update (agent : Agent) (now : Instant)

namespace AgentCall

abbrev Answer : AgentCall → Type
  | .ask query => query.Answer
  | .update .. => Unit

def answer (store : AgentStore) : (call : AgentCall) → Except Failure call.Answer × AgentStore
  | .ask query => query.answer store
  | .update agent now => AgentQuery.commit store (store.update agent now)

/-- The store after some calls, the earliest first. -/
def after (store : AgentStore) (calls : List AgentCall) : AgentStore :=
  calls.foldl (fun store call => (call.answer store).2) store

def Replaces (id : AgentId) : AgentCall → Prop
  | .update agent _ => agent.id = id
  | .ask (.delete own) => own = id
  | _ => False

def marked? (id : AgentId) : AgentCall → Option Instant
  | .ask (.mark own time) => if own = id then some time else none
  | _ => none

variable {store : AgentStore} {call : AgentCall} {id : AgentId}

theorem answer_keyed (call : AgentCall) (keyed : store.IsKeyed) :
    (call.answer store).2.IsKeyed := by
  cases call with
  | ask query => exact query.answer_keyed keyed
  | update agent now =>
      rcases AgentQuery.commit_cases store (store.update agent now) with same | updated
      · exact (congrArg AgentStore.IsKeyed same).mpr keyed
      · exact keyed.update updated

theorem after_keyed (calls : List AgentCall) (keyed : store.IsKeyed) :
    (after store calls).IsKeyed := by
  induction calls generalizing store with
  | nil => exact keyed
  | cons call rest ih => exact ih (call.answer_keyed keyed)

theorem commit_of_error {result : Except Failure AgentStore} {failure : Failure}
    (fails : (AgentQuery.commit store result).1 = .error failure) :
    (AgentQuery.commit store result).2 = store := by
  cases result with
  | error failure => rfl
  | ok changed => cases fails

/-- A call that fails changes nothing. -/
theorem answer_of_error {failure : Failure} (fails : (call.answer store).1 = .error failure) :
    (call.answer store).2 = store := by
  cases call with
  | update agent now => exact commit_of_error fails
  | ask query =>
      cases query with
      | get | list | listActive => rfl
      | create | mark => exact commit_of_error fails
      | delete id => cases fails

/-- A call that neither edits nor deletes an agent changes at most when it was last evaluated. -/
theorem get?_answer {stored : Agent} (found : Table.get? store id = some stored)
    (keeps : ¬ call.Replaces id) :
    Table.get? (call.answer store).2 id = some { stored with
      lastEvaluatedAt := (call.marked? id).elim stored.lastEvaluatedAt fun time =>
        some (AgentStore.latest stored.lastEvaluatedAt time) } := by
  cases call with
  | update agent now =>
      rcases AgentQuery.commit_cases store (store.update agent now) with same | updated
      · exact (congrArg (Table.get? · id) same).trans found
      · obtain ⟨changed, -, -, isAfter⟩ := AgentStore.update_cases updated
        refine (congrArg (Table.get? · id) isAfter).trans (Table.get?_insert.trans ?_)
        rw [if_neg (Ne.symm keeps), found]
        rfl
  | ask query =>
      cases query with
      | get | list | listActive => exact found
      | create agent =>
          rcases AgentQuery.commit_cases store (store.create agent) with same | created
          · exact (congrArg (Table.get? · id) same).trans found
          · obtain ⟨isFree, isAfter⟩ := AgentStore.create_cases created
            refine (congrArg (Table.get? · id) isAfter).trans (Table.get?_insert.trans ?_)
            have isOther : id ≠ agent.id := by
              rintro rfl
              rw [isFree] at found
              cases found
            rw [if_neg isOther, found]
            rfl
      | mark own time =>
          by_cases isOwn : own = id
          · subst isOwn
            have marks : store.mark own time = .ok (Table.insert store own { stored with
                lastEvaluatedAt := some (AgentStore.latest stored.lastEvaluatedAt time) }) := by
              simp only [AgentStore.mark, found]
            simp only [answer, AgentQuery.answer, marks, AgentQuery.commit, marked?]
            refine Table.get?_insert.trans ?_
            simp
          · rcases AgentQuery.commit_cases store (store.mark own time) with same | marked
            · refine (congrArg (Table.get? · id) same).trans ?_
              simp [marked?, isOwn, found]
            · obtain ⟨-, changed, -, -, isAfter⟩ := AgentStore.mark_cases marked
              refine (congrArg (Table.get? · id) isAfter).trans (Table.get?_insert.trans ?_)
              simp [marked?, isOwn, Ne.symm isOwn, found]
      | delete own => exact (Table.get?_erase.trans (if_neg (Ne.symm keeps))).trans found

/-- The times recorded for an agent leave the latest of them, and change nothing else of it. -/
theorem get?_after {stored : Agent} (found : Table.get? store id = some stored)
    {calls : List AgentCall} (keeps : ∀ call ∈ calls, ¬ call.Replaces id) :
    ∃ last, Table.get? (after store calls) id = some { stored with lastEvaluatedAt := last } ∧
      Instant.IsLatest (stored.lastEvaluatedAt.toList ++ calls.filterMap (marked? id)) last := by
  induction calls using List.reverseRecOn with
  | nil => exact ⟨_, found, by simpa using Instant.IsLatest.toList stored.lastEvaluatedAt⟩
  | append_singleton earlier call ih =>
      obtain ⟨last, isStored, isLatest⟩ := ih fun other isOne =>
        keeps other (List.mem_append_left _ isOne)
      have step := get?_answer isStored (keeps call (by simp))
      have isAfter : after store (earlier ++ [call]) =
          (call.answer (after store earlier)).2 := by
        rw [after, List.foldl_append]
        rfl
      refine ⟨_, isAfter ▸ step, ?_⟩
      rw [List.filterMap_append, ← List.append_assoc]
      cases isMarked : call.marked? id with
      | none => simpa [isMarked] using isLatest
      | some time => simpa [isMarked] using AgentStore.isLatest_latest isLatest time

end AgentCall

namespace AgentStore

variable {store : AgentStore} {agent : Agent}

theorem agents_sorted (keyed : store.IsKeyed) :
    store.agents.Pairwise fun agent other => agent.id < other.id := by
  refine List.pairwise_map.2 (store.sorted.imp_of_mem fun first second less => ?_)
  rw [keyed _ _ (Table.get?_eq_some_iff.2 first), keyed _ _ (Table.get?_eq_some_iff.2 second)]
  exact compare_lt_iff_lt.1 less

theorem mem_agents_iff (keyed : store.IsKeyed) :
    agent ∈ store.agents ↔ Table.get? store agent.id = some agent := by
  rw [mem_agents]
  constructor
  · rintro ⟨id, found⟩
    rwa [keyed id agent found]
  · exact fun found => ⟨agent.id, found⟩

/-- A store that was built of some agents keeps its order over any calls, and of the times recorded
for an agent the latest, in whatever order they come in. -/
theorem lasts_over_calls (agents : List Agent) (calls : List AgentCall) :
    let store := AgentCall.after (.ofAgents agents) calls
    store.IsKeyed ∧ (store.agents.Pairwise fun agent other => agent.id < other.id) ∧
      (∀ agent, agent ∈ store.agents ↔ Table.get? store agent.id = some agent) ∧
      store.activeAgents.Sublist store.agents ∧
      (∀ agent, agent ∈ store.activeAgents ↔ agent ∈ store.agents ∧ agent.isActive = true) ∧
      (∀ (call : AgentCall) failure, (call.answer store).1 = .error failure →
        (call.answer store).2 = store) ∧
      ∀ id stored, Table.get? store id = some stored → ∀ later : List AgentCall,
        (∀ call ∈ later, ¬ call.Replaces id) →
        (∃ last, Table.get? (AgentCall.after store later) id =
            some { stored with lastEvaluatedAt := last } ∧
          Instant.IsLatest
            (stored.lastEvaluatedAt.toList ++ later.filterMap (AgentCall.marked? id)) last) ∧
        ∀ other : List AgentCall, (∀ call ∈ other, ¬ call.Replaces id) →
          (other.filterMap (AgentCall.marked? id)).Perm (later.filterMap (AgentCall.marked? id)) →
          Table.get? (AgentCall.after store other) id =
            Table.get? (AgentCall.after store later) id := by
  intro store
  have keyed : store.IsKeyed := AgentCall.after_keyed calls (ofAgents_keyed agents)
  refine ⟨keyed, agents_sorted keyed, fun agent => mem_agents_iff keyed, List.filter_sublist,
    fun agent => List.mem_filter, fun call failure fails => AgentCall.answer_of_error fails, ?_⟩
  intro id stored found later keeps
  obtain ⟨last, isStored, isLatest⟩ := AgentCall.get?_after found keeps
  refine ⟨⟨last, isStored, isLatest⟩, fun other spares same => ?_⟩
  obtain ⟨otherLast, isOther, isOtherLatest⟩ := AgentCall.get?_after found spares
  rw [isStored, isOther, isOtherLatest.eq_of_perm isLatest (same.append_left _)]

/-- Of two times the later one counts, also where it is the one recorded first. -/
theorem lasts_over_calls_exampleAgent :
    let store := AgentCall.after (.ofAgents [.exampleAgent]) []
    let first : AgentCall := .ask (.mark "a" ⟨10, 0⟩)
    let second : AgentCall := .ask (.mark "a" ⟨20, 0⟩)
    Table.get? (AgentCall.after store [second, first]) "a" =
        some { Agent.exampleAgent with lastEvaluatedAt := some ⟨20, 0⟩ } ∧
      Table.get? (AgentCall.after store [first, second]) "a" =
        Table.get? (AgentCall.after store [second, first]) "a" := by
  intro store first second
  obtain ⟨-, -, -, -, -, -, marks⟩ := lasts_over_calls [.exampleAgent] []
  have found : Table.get? store "a" = some Agent.exampleAgent := rfl
  have keeps : ∀ call ∈ [second, first], ¬ call.Replaces "a" := by
    simp [first, second, AgentCall.Replaces]
  have spares : ∀ call ∈ [first, second], ¬ call.Replaces "a" := by
    simp [first, second, AgentCall.Replaces]
  obtain ⟨⟨last, isStored, isLatest⟩, sameForAll⟩ := marks "a" .exampleAgent found _ keeps
  have isLast : Instant.IsLatest [⟨20, 0⟩, ⟨10, 0⟩] (some ⟨20, 0⟩) := by
    refine ⟨by simp, ?_⟩
    decide
  obtain rfl : last = some ⟨20, 0⟩ := isLatest.eq_of_perm isLast (.refl _)
  exact ⟨isStored, sameForAll _ spares (.swap _ _ _)⟩

end AgentStore

end AdMonitor
