import AdMonitor.Proofs.Tick.Stage
import AdMonitor.Query

/-!
# Agents in their store

What operations on the store of agents leave true: agents are stored under
their own ids, and a target that an agent has stays its target until the agent
is edited or deleted.
-/

namespace AdMonitor

theorem AgentQuery.commit_cases (store : AgentStore) (result : Except Failure AgentStore) :
    (commit store result).2 = store ∨ result = .ok (commit store result).2 := by
  cases result with
  | error failure => exact Or.inl rfl
  | ok changed => exact Or.inr rfl

/-- An agent without the time at which it was last evaluated. -/
def Agent.unmarked (agent : Agent) : Agent := { agent with lastEvaluatedAt := none }

theorem Agent.eq_of_unmarked {agent stored : Agent} (same : agent.unmarked = stored.unmarked) :
    agent.id = stored.id ∧ agent.scope = stored.scope := by
  have sameId := congrArg Agent.id same
  have sameScope := congrArg Agent.scope same
  exact ⟨sameId, sameScope⟩

namespace AgentStore

variable {store after agents : AgentStore} {agent : Agent} {id : AgentId} {time : Instant}

section Cases

theorem mark_cases (marked : store.mark id time = .ok after) :
    ∃ agent changed, Table.get? store id = some agent ∧ changed.unmarked = agent.unmarked ∧
      after = Table.insert store id changed := by
  unfold AgentStore.mark at marked
  cases found : Table.get? store id with
  | none =>
      rw [found] at marked
      cases marked
  | some agent =>
      rw [found] at marked
      cases marked
      let changed := { agent with lastEvaluatedAt := some (latest agent.lastEvaluatedAt time) }
      exact ⟨agent, changed, rfl, rfl, rfl⟩

theorem create_cases (created : store.create agent = .ok after) :
    Table.get? store agent.id = none ∧ after = Table.insert store agent.id agent := by
  unfold AgentStore.create at created
  split at created
  · cases created
  · rename_i absent
    cases created
    exact ⟨by simpa [Table.contains] using absent, rfl⟩

theorem update_cases (updated : store.update agent time = .ok after) :
    ∃ changed, changed.id = agent.id ∧ changed.scope = agent.scope ∧
      after = Table.insert store agent.id changed := by
  unfold AgentStore.update at updated
  split at updated
  · cases updated
    exact ⟨{ agent with updatedAt := time }, rfl, rfl, rfl⟩
  · cases updated

/-- What is edited was stored. -/
theorem stored_of_update (updated : store.update agent time = .ok after) :
    ∃ stored, Table.get? store agent.id = some stored := by
  unfold AgentStore.update at updated
  split at updated
  · exact Option.isSome_iff_exists.1 ‹_›
  · cases updated

end Cases

theorem mem_agents : agent ∈ store.agents ↔ ∃ id, Table.get? store id = some agent := by
  rw [AgentStore.agents, Table.values, List.mem_map]
  constructor
  · rintro ⟨⟨id, agent⟩, found, rfl⟩
    exact ⟨id, Table.get?_eq_some_iff.2 found⟩
  · rintro ⟨id, found⟩
    exact ⟨(id, agent), Table.get?_eq_some_iff.1 found, rfl⟩

def IsKeyed (store : AgentStore) : Prop :=
  ∀ id agent, Table.get? store id = some agent → agent.id = id

namespace IsKeyed

theorem nodup_ids (keyed : store.IsKeyed) : (store.agents.map Agent.id).Nodup := by
  have areKeys : store.agents.map Agent.id = Table.keys store := by
    rw [AgentStore.agents, Table.values, Table.keys, List.map_map]
    refine List.map_congr_left fun entry found => ?_
    exact keyed entry.1 entry.2 (Table.get?_eq_some_iff.2 found)
  rw [areKeys]
  exact Table.nodup_keys

theorem insert (keyed : store.IsKeyed) (isOwn : agent.id = id) :
    IsKeyed (Table.insert store id agent) :=
  Table.IsKeyed.insert keyed isOwn

theorem mark (keyed : store.IsKeyed) (marked : store.mark id time = .ok after) :
    after.IsKeyed := by
  obtain ⟨agent, changed, found, same, rfl⟩ := mark_cases marked
  exact keyed.insert ((Agent.eq_of_unmarked same).1.trans (keyed id agent found))

theorem create (keyed : store.IsKeyed) (created : store.create agent = .ok after) :
    after.IsKeyed := by
  obtain ⟨-, rfl⟩ := create_cases created
  exact keyed.insert rfl

theorem update (keyed : store.IsKeyed) (updated : store.update agent time = .ok after) :
    after.IsKeyed := by
  obtain ⟨changed, isOwn, -, rfl⟩ := update_cases updated
  exact keyed.insert isOwn

theorem erase (keyed : store.IsKeyed) (id : AgentId) : IsKeyed (Table.erase store id) :=
  Table.IsKeyed.erase keyed id

end IsKeyed

theorem ofAgents_keyed (agents : List Agent) : (ofAgents agents).IsKeyed := by
  refine Table.forall_ofList fun entry found => ?_
  obtain ⟨agent, -, rfl⟩ := List.mem_map.1 found
  rfl

def HasTarget (agents : AgentStore) (key : StateKey) : Prop :=
  ∃ agent, Table.get? agents key.agent = some agent ∧ key.target ∈ agent.scope.targetKeys

namespace HasTarget

variable {key : StateKey}

theorem insert (hasTarget : store.HasTarget key)
    (keeps : id = key.agent → key.target ∈ agent.scope.targetKeys) :
    HasTarget (Table.insert store id agent) key := by
  obtain ⟨owner, isOwner, isTarget⟩ := hasTarget
  unfold HasTarget
  rw [Table.get?_insert]
  by_cases isOwn : key.agent = id
  · rw [if_pos isOwn]
    exact ⟨agent, rfl, keeps isOwn.symm⟩
  · rw [if_neg isOwn]
    exact ⟨owner, isOwner, isTarget⟩

theorem mark (hasTarget : store.HasTarget key) (marked : store.mark id time = .ok after) :
    after.HasTarget key := by
  obtain ⟨agent, changed, found, same, rfl⟩ := mark_cases marked
  refine hasTarget.insert ?_
  rintro rfl
  obtain ⟨owner, isOwner, isTarget⟩ := hasTarget
  rw [found] at isOwner
  cases isOwner
  rwa [(Agent.eq_of_unmarked same).2]

/-- A new agent takes no target from another one, for its id was free. -/
theorem create (hasTarget : store.HasTarget key) (created : store.create agent = .ok after) :
    after.HasTarget key := by
  obtain ⟨isFree, rfl⟩ := create_cases created
  refine hasTarget.insert fun isOwn => ?_
  obtain ⟨owner, isOwner, -⟩ := hasTarget
  rw [isOwn, isOwner] at isFree
  cases isFree

theorem update (hasTarget : store.HasTarget key) (updated : store.update agent time = .ok after)
    (keeps : agent.id = key.agent → key.target ∈ agent.scope.targetKeys) :
    after.HasTarget key := by
  obtain ⟨changed, -, sameScope, rfl⟩ := update_cases updated
  refine hasTarget.insert fun isOwn => ?_
  rw [sameScope]
  exact keeps isOwn

theorem erase (hasTarget : store.HasTarget key) (isOther : id ≠ key.agent) :
    HasTarget (Table.erase store id) key := by
  obtain ⟨owner, isOwner, isTarget⟩ := hasTarget
  unfold HasTarget
  rw [Table.get?_erase, if_neg isOther.symm]
  exact ⟨owner, isOwner, isTarget⟩

end HasTarget

/-- Whether an agent is one of those stored, whenever it was last evaluated. -/
def Knows (agents : AgentStore) (agent : Agent) : Prop :=
  ∃ stored, Table.get? agents agent.id = some stored ∧ agent.unmarked = stored.unmarked

/-- Whether two stores hold the same agents, whenever these were last evaluated. -/
def Resembles (store agents : AgentStore) : Prop :=
  ∀ id, (Table.get? store id).map Agent.unmarked = (Table.get? agents id).map Agent.unmarked

theorem Resembles.stored (resembles : store.Resembles agents)
    (found : Table.get? store id = some agent) :
    ∃ stored, Table.get? agents id = some stored ∧ agent.unmarked = stored.unmarked := by
  have same := resembles id
  rw [found, Option.map_some] at same
  obtain ⟨stored, isStored, same⟩ := Option.map_eq_some_iff.1 same.symm
  exact ⟨stored, isStored, same.symm⟩

theorem Resembles.symm (resembles : store.Resembles agents) : agents.Resembles store :=
  fun id => (resembles id).symm

/-- What is stored in one store is stored under the same id in another one that resembles it. -/
theorem Resembles.mem_agents (resembles : store.Resembles agents) (keyed : agents.IsKeyed)
    (found : agent ∈ store.agents) :
    ∃ stored, Table.get? agents agent.id = some stored ∧ agent.unmarked = stored.unmarked := by
  obtain ⟨id, isStored⟩ := AgentStore.mem_agents.1 found
  obtain ⟨stored, isOther, same⟩ := resembles.stored isStored
  have sameId : agent.id = id := (Agent.eq_of_unmarked same).1.trans (keyed id stored isOther)
  exact ⟨stored, sameId ▸ isOther, same⟩

theorem Resembles.mark (resembles : store.Resembles agents)
    (marked : store.mark id time = .ok after) : after.Resembles agents := by
  obtain ⟨agent, changed, found, unchanged, rfl⟩ := mark_cases marked
  intro other
  rw [Table.get?_insert, ← resembles other]
  by_cases same : other = id
  · rw [if_pos same, same, found, Option.map_some, Option.map_some, unchanged]
  · rw [if_neg same]

end AgentStore

/-- Whatever is asked of a store, its agents stay under their own ids. -/
theorem AgentQuery.answer_keyed (query : AgentQuery) {store : AgentStore}
    (keyed : store.IsKeyed) : (query.answer store).2.IsKeyed := by
  cases query with
  | get | list | listActive => exact keyed
  | create agent =>
      rcases AgentQuery.commit_cases store (store.create agent) with same | created
      · exact (congrArg AgentStore.IsKeyed same).mpr keyed
      · exact keyed.create created
  | mark id time =>
      rcases AgentQuery.commit_cases store (store.mark id time) with same | marked
      · exact (congrArg AgentStore.IsKeyed same).mpr keyed
      · exact keyed.mark marked
  | delete id => exact keyed.erase id

end AdMonitor
