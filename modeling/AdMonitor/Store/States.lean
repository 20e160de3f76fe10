import AdMonitor.Table
import AdMonitor.Target

/-!
# The store of target states

States under agent and target.  What is removed is counted.
-/

namespace AdMonitor

abbrev StateStore := Table StateKey TargetState

namespace StateStore

def put (store : StateStore) (key : StateKey) (state : TargetState) : StateStore :=
  Table.insert store key state

/-- The states of an agent in the order of their targets. -/
def ofAgent (store : StateStore) (agent : AgentId) : List (TargetKey × TargetState) :=
  (store.entries.filter (fun e => e.1.agent == agent)).map fun e => (e.1.target, e.2)

/-- Keep some of the entries; the number says how many went. -/
def keepOnly (store : StateStore) (test : StateKey → Bool) : Nat × StateStore :=
  let kept := Table.filter store (fun key _ => test key)
  (store.size - kept.size, kept)

def retain (store : StateStore) (agent : AgentId) (keep : List TargetKey) :
    Nat × StateStore :=
  store.keepOnly fun key => key.agent != agent || keep.contains key.target

def removeAgent (store : StateStore) (agent : AgentId) : Nat × StateStore :=
  store.keepOnly fun key => key.agent != agent

/-- The agents that own at least one state, in order. -/
def owners (store : StateStore) : List AgentId :=
  (NameSet.ofNames (store.keys.map StateKey.agent)).keys

end StateStore

end AdMonitor
