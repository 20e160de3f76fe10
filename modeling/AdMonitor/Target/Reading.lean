import AdMonitor.Agent.Check
import AdMonitor.Program

/-!
# Reading targets

Which targets an agent has at the moment, and the metrics of one of them.
Missing data make a reading unavailable; no entity is ever counted as zero.
-/

namespace AdMonitor

structure Member where
  entity : Entity
  snapshot : Snapshot

inductive Reading where
  | available (snapshot : Snapshot) (members : List Member)
  | unavailable (reason : String)

namespace Agent

/-- The targets of an agent; all entities together are one target even when there are none. -/
def resolve (limit : Span) (agent : Agent) : Program (Except Failure (List Target)) :=
  match agent.scope.selection with
  | .all true => do
      let reply ← Program.ask (.metrics limit (.list agent.workspace agent.scope.filter))
      match Reply.metrics limit reply with
      | .error failure => return .error failure
      | .ok entities => return .ok [.aggregate (entities.filter agent.scope.filter.admits)]
  | .all false => return .error (AgentFault.separateEntities.toFailure agent.id)
  | .listed _ => return .ok (agent.scope.distinctIds.map .entity)

end Agent

namespace Member

/-- The members whose fetch found metrics, or the first failure of a fetch. -/
def collect (limit : Span) :
    List (Entity × Reply (Option Snapshot)) → Except Failure (List Member)
  | [] => .ok []
  | (entity, reply) :: rest =>
      match reply.metrics limit with
      | .error failure => .error failure
      | .ok none => collect limit rest
      | .ok (some snapshot) =>
          (collect limit rest).map (⟨entity, snapshot.deriveRatios⟩ :: ·)

def fetch (limit : Span) (workspace : WorkspaceId) (names : NameSet) (entities : List Entity) :
    Program (Except Failure (List Member)) := do
  let replies ← Program.ask (.snapshots limit workspace (entities.map Entity.id) names)
  return collect limit (entities.zip replies.val)

end Member

namespace Reading

def ofEntity (id : EntityId) : Except Failure (List Member) → Reading
  | .error failure => .unavailable failure.message
  | .ok (member :: rest) => .available member.snapshot (member :: rest)
  | .ok [] => .unavailable ("no metrics for entity " ++ id)

/-- The reading of several entities together, from their fetches. -/
def ofMembers : Except Failure (List Member) → Reading
  | .error failure => .unavailable failure.message
  | .ok [] => .unavailable "no metrics for any matched entity"
  | .ok members => .available (Snapshot.aggregate (members.map Member.snapshot)) members

end Reading

namespace Agent

def readEntity (limit : Span) (agent : Agent) (id : EntityId) : Program Reading := do
  let reply ← Program.ask (.metrics limit (.entity ⟨agent.workspace, id⟩))
  match Reply.metrics limit reply with
  | .error failure => return .unavailable failure.message
  | .ok none => return .unavailable ("entity " ++ id ++ " not found in account")
  | .ok (some entity) =>
      if agent.scope.filter.admits entity then
        return .ofEntity id (← Member.fetch limit agent.workspace agent.requiredMetrics [entity])
      else
        return .unavailable ("entity " ++ id ++ " no longer matches the agent scope")

def readAggregate (limit : Span) (agent : Agent) (entities : List Entity) : Program Reading :=
  match entities with
  | [] => return .unavailable "no entities match the agent scope"
  | _ => return .ofMembers (← Member.fetch limit agent.workspace agent.requiredMetrics entities)

def read (limit : Span) (agent : Agent) : Target → Program Reading
  | .aggregate members => readAggregate limit agent members
  | .entity id => readEntity limit agent id

end Agent

end AdMonitor
