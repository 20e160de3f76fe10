import AdMonitor.Event
import AdMonitor.Query
import AdMonitor.Webhook

/-!
# Calls

The single steps in which the monitor touches the world: its collaborators and
stores, its locks, its observers and the clock.  Between two calls nothing
else happens, so calls are the only points where concurrent work can
interleave.
-/

namespace AdMonitor

inductive Reply (α : Type) where
  | answered (result : Except Failure α)
  | timedOut

inductive LockName where
  | target (key : StateKey)
  | campaign (id : CampaignId)
  deriving Repr, DecidableEq

/-- Locks are told apart by number: one that was forgotten is never the lock of its name again. -/
abbrev LockId := Nat

inductive LockQuery where
  /-- The lock of a name, made if there is none. -/
  | find (name : LockName)
  /-- Wait until the lock is free, and take it. -/
  | acquire (lock : LockId)
  | release (lock : LockId)
  /-- Forget the target locks of an agent, except those of some targets. -/
  | forget (agent : AgentId) (keep : List TargetKey)

abbrev LockQuery.Answer : LockQuery → Type
  | .find _ => LockId
  | .acquire _ | .release _ | .forget .. => Unit

inductive Call where
  | metrics (limit : Span) (query : MetricsQuery)
  /-- Fetch the metrics of several entities at the same time. -/
  | snapshots (limit : Span) (workspace : WorkspaceId) (ids : List EntityId) (names : NameSet)
  | platform (limit : Span) (query : PlatformQuery)
  /-- Hand a notification to the recipients of a workspace. -/
  | enqueue (limit : Span) (workspace : WorkspaceId) (payload : Json)
  /-- Post a payload to an address. -/
  | post (limit : Span) (url : String) (payload : Json)
  | agents (query : AgentQuery)
  | states (query : StateQuery)
  | lock (query : LockQuery)
  | publish (event : Event)
  | sleep (span : Span)
  /-- A random number up to a limit. -/
  | jitter (limit : Nat)
  | clock

abbrev Call.Answer : Call → Type
  | .metrics _ query => Reply query.Answer
  | .snapshots _ _ ids _ =>
      { replies : List (Reply (Option Snapshot)) // replies.length = ids.length }
  | .platform _ query => Reply query.Answer
  | .enqueue .. => Reply Unit
  | .post .. => Except Webhook.Fault UInt16
  | .agents query => Except Failure query.Answer
  | .states query => Except Failure query.Answer
  | .lock query => query.Answer
  | .publish _ | .sleep _ => Unit
  | .jitter limit => Fin (limit + 1)
  | .clock => Instant

namespace Reply

variable {α : Type}

/-- The result of a fetch: whatever fails, the metrics are unavailable. -/
def metrics (limit : Span) : Reply α → Except Failure α
  | .answered (.ok value) => .ok value
  | .answered (.error (.metricsUnavailable detail)) => .error (.metricsUnavailable detail)
  | .answered (.error failure) => .error (.metricsUnavailable failure.message)
  | .timedOut => .error (.metricsUnavailable ("metrics fetch timed out after " ++ limit.write))

def result (limit : Span) : Reply α → Except Failure α
  | .answered result => result
  | .timedOut => .error (.collaborator ("call timed out after " ++ limit.write))

end Reply

end AdMonitor
