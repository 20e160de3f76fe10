import AdMonitor.Action.Record
import AdMonitor.Condition.Report
import AdMonitor.Target

/-!
# Events

What the monitor tells its observers while it works.
-/

namespace AdMonitor

inductive Event where
  | tickStarted (tick : TickNumber) (time : Instant) (agents : Nat)
  /-- A target without data, of a tick that is not new, or whose state failed to load or save. -/
  | targetSkipped (tick : TickNumber) (key : StateKey) (reason : String)
  | targetEvaluated (tick : TickNumber) (key : StateKey) (verdict : Verdict)
      (satisfied : Bool) (decision : Decision)
  | targetFired (tick : TickNumber) (key : StateKey) (count : UInt64)
  | actionCompleted (tick : TickNumber) (key : StateKey) (record : ActionRecord)
  /-- An agent that failed before any of its targets was looked at. -/
  | agentFailed (tick : TickNumber) (agent : AgentId) (error : String)
  | tickCompleted (tick : TickNumber) (evaluated fired skipped : Nat)
  /-- States of an agent that were removed because nothing uses them any more. -/
  | stateCollected (agent : AgentId) (removed : Nat)

namespace Event

def name : Event → String
  | .tickStarted .. => "tick_started"
  | .targetSkipped .. => "target_skipped"
  | .targetEvaluated .. => "target_evaluated"
  | .targetFired .. => "target_fired"
  | .actionCompleted .. => "action_completed"
  | .agentFailed .. => "agent_failed"
  | .tickCompleted .. => "tick_completed"
  | .stateCollected .. => "state_collected"

def tick? : Event → Option TickNumber
  | .tickStarted tick .. | .targetSkipped tick .. | .targetEvaluated tick ..
  | .targetFired tick .. | .actionCompleted tick .. | .agentFailed tick ..
  | .tickCompleted tick .. => some tick
  | .stateCollected .. => none

def agent? : Event → Option AgentId
  | .targetSkipped _ key _ | .targetEvaluated _ key .. | .targetFired _ key _
  | .actionCompleted _ key _ => some key.agent
  | .agentFailed _ agent _ | .stateCollected agent _ => some agent
  | .tickStarted .. | .tickCompleted .. => none

def target? : Event → Option TargetKey
  | .targetSkipped _ key _ | .targetEvaluated _ key .. | .targetFired _ key _
  | .actionCompleted _ key _ => some key.target
  | _ => none

/-- The members of an event that only its kind has. -/
def details : Event → List (String × Json)
  | .tickStarted _ time agents => [("at", time.toJson), ("agents", .int agents)]
  | .targetSkipped _ _ reason => [("reason", .str reason)]
  | .targetEvaluated _ _ verdict satisfied decision =>
      [("result", verdict.toJson), ("satisfied", .bool satisfied),
        ("decision", decision.toJson)]
  | .targetFired _ _ count => [("fire_count", .int count.toNat)]
  | .actionCompleted _ _ record => [("record", record.toJson)]
  | .agentFailed _ _ error => [("error", .str error)]
  | .tickCompleted _ evaluated fired skipped =>
      [("evaluated", .int evaluated), ("fired", .int fired), ("skipped", .int skipped)]
  | .stateCollected _ removed => [("removed", .int removed)]

def toJson (event : Event) : Json :=
  .obj ([("event", .str event.name)] ++
    Json.optional "tick" (fun (n : Nat) => .int n) event.tick? ++
    Json.optional "agent_id" .str event.agent? ++
    Json.optional "target" .str event.target? ++ event.details)

end Event

end AdMonitor
