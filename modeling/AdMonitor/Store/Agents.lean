import AdMonitor.Agent
import AdMonitor.Failure

/-!
# The store of agents

Agents under their ids.  An operation that fails leaves the store as it is.
-/

namespace AdMonitor

abbrev AgentStore := Table AgentId Agent

namespace AgentStore

/-- A store of some agents; of several with one id the last is kept. -/
def ofAgents (agents : List Agent) : AgentStore :=
  .ofList (agents.map fun agent => (agent.id, agent))

def agents (store : AgentStore) : List Agent := store.values

def activeAgents (store : AgentStore) : List Agent :=
  store.agents.filter Agent.isActive

def create (store : AgentStore) (agent : Agent) : Except Failure AgentStore :=
  if Table.contains store agent.id then
    .error (.invalidAgent ("agent " ++ agent.id ++ " already exists"))
  else .ok (Table.insert store agent.id agent)

def unknown (id : AgentId) : Failure := .notFound ("agent " ++ id)

def update (store : AgentStore) (agent : Agent) (now : Instant) :
    Except Failure AgentStore :=
  if Table.contains store agent.id then
    .ok (Table.insert store agent.id { agent with updatedAt := now })
  else .error (unknown agent.id)

def latest (earlier : Option Instant) (time : Instant) : Instant :=
  match earlier with
  | none => time
  | some previous => if previous < time then time else previous

/-- Record an evaluation; the latest one counts, in whatever order they are recorded. -/
def mark (store : AgentStore) (id : AgentId) (time : Instant) : Except Failure AgentStore :=
  match Table.get? store id with
  | none => .error (unknown id)
  | some agent =>
      .ok (Table.insert store id
        { agent with lastEvaluatedAt := some (latest agent.lastEvaluatedAt time) })

/-- Remove an agent; the flag says whether there was one. -/
def delete (store : AgentStore) (id : AgentId) : Bool × AgentStore :=
  (Table.contains store id, Table.erase store id)

end AgentStore

end AdMonitor
