import AdMonitor.Account
import AdMonitor.Store.Agents
import AdMonitor.Store.States

/-!
# Queries

What the monitor asks its metrics provider, its ad platform and its two stores,
and how an account and in-memory stores answer.
-/

namespace AdMonitor

/-- Questions to the provider of entities and metrics, one entity at a time. -/
inductive MetricsQuery where
  | list (workspace : WorkspaceId) (filter : EntityFilter)
  | entity (key : EntityKey)
  | snapshot (key : EntityKey) (names : NameSet)

namespace MetricsQuery

abbrev Answer : MetricsQuery → Type
  | .list .. => List Entity
  | .entity _ => Option Entity
  | .snapshot .. => Option Snapshot

def answer (account : Account) : (query : MetricsQuery) → query.Answer
  | .list workspace filter => account.list workspace filter
  | .entity key => account.entity? key
  | .snapshot key names => account.snapshot? key names

end MetricsQuery

inductive PlatformQuery where
  | currentBudget (campaign : CampaignId)
  | updateBudget (campaign : CampaignId) (budget : Float)
  | setPaused (campaign : CampaignId) (paused : Bool)

namespace PlatformQuery

abbrev Answer : PlatformQuery → Type
  | .currentBudget _ => Option Float
  | .updateBudget .. | .setPaused .. => Unit

/-- The answer with the account after it; a failure leaves the account as it is. -/
def commit (account : Account) (result : Except Failure Account) :
    Except Failure Unit × Account :=
  match result with
  | .ok changed => (.ok (), changed)
  | .error failure => (.error failure, account)

def answer (account : Account) :
    (query : PlatformQuery) → Except Failure query.Answer × Account
  | .currentBudget campaign => (.ok (account.budget campaign), account)
  | .updateBudget campaign budget => commit account (account.updateBudget campaign budget)
  | .setPaused campaign paused => commit account (account.setPaused campaign paused)

end PlatformQuery

inductive AgentQuery where
  | get (id : AgentId)
  | list
  | listActive
  | create (agent : Agent)
  | mark (id : AgentId) (time : Instant)
  | delete (id : AgentId)

namespace AgentQuery

abbrev Answer : AgentQuery → Type
  | .get _ => Option Agent
  | .list | .listActive => List Agent
  | .create _ | .mark .. => Unit
  | .delete _ => Bool

/-- The answer with the store after it; a failure leaves the store as it is. -/
def commit (store : AgentStore) (result : Except Failure AgentStore) :
    Except Failure Unit × AgentStore :=
  match result with
  | .ok changed => (.ok (), changed)
  | .error failure => (.error failure, store)

def answer (store : AgentStore) : (query : AgentQuery) → Except Failure query.Answer × AgentStore
  | .get id => (.ok (Table.get? store id), store)
  | .list => (.ok store.agents, store)
  | .listActive => (.ok store.activeAgents, store)
  | .create agent => commit store (store.create agent)
  | .mark id time => commit store (store.mark id time)
  | .delete id => let (existed, rest) := store.delete id; (.ok existed, rest)

end AgentQuery

inductive StateQuery where
  | get (key : StateKey)
  | put (key : StateKey) (state : TargetState)
  /-- Of the states of an agent, keep those of some targets. -/
  | retain (agent : AgentId) (keep : List TargetKey)
  | remove (agent : AgentId)
  /-- The agents that own a state. -/
  | owners

namespace StateQuery

abbrev Answer : StateQuery → Type
  | .get _ => Option TargetState
  | .put .. => Unit
  | .retain .. | .remove _ => Nat
  | .owners => List AgentId

def answer (store : StateStore) : (query : StateQuery) → query.Answer × StateStore
  | .get key => (Table.get? store key, store)
  | .put key state => ((), store.put key state)
  | .retain agent keep => store.retain agent keep
  | .remove agent => store.removeAgent agent
  | .owners => (store.owners, store)

end StateQuery

end AdMonitor
