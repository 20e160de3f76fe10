import AdMonitor.Call

/-!
# Scripts

A script says how collaborators and stores misbehave in a simulation: which
calls fail, hang or take their time, and how posts are answered.
-/

namespace AdMonitor

structure Disturbance where
  failure : Option Failure
  /-- The call never returns. -/
  hangs : Bool
  /-- The wait before the call. -/
  delay : Span
  /-- The wait after metrics were read. -/
  lag : Span

namespace Disturbance

def none : Disturbance := ⟨.none, false, ⟨0⟩, ⟨0⟩⟩

end Disturbance

/-- A call as a script names it: its kind, and what it is about. -/
structure CallLabel where
  kind : String
  subject : Option String
  deriving Repr, DecidableEq

namespace MetricsQuery

def label : MetricsQuery → CallLabel
  | .list .. => ⟨"list_entities", none⟩
  | .entity key => ⟨"get_entity", some key.entity⟩
  | .snapshot key _ => ⟨"get_snapshot", some key.entity⟩

end MetricsQuery

namespace PlatformQuery

def label : PlatformQuery → CallLabel
  | .currentBudget campaign => ⟨"current_budget", some campaign⟩
  | .updateBudget campaign _ => ⟨"update_budget", some campaign⟩
  | .setPaused campaign _ => ⟨"set_paused", some campaign⟩

end PlatformQuery

namespace AgentQuery

def label : AgentQuery → CallLabel
  | .get id => ⟨"get_agent", some id⟩
  | .list => ⟨"list_agents", none⟩
  | .listActive => ⟨"list_active_agents", none⟩
  | .create agent => ⟨"create_agent", some agent.id⟩
  | .mark id _ => ⟨"mark_evaluated", some id⟩
  | .delete id => ⟨"delete_agent", some id⟩

end AgentQuery

namespace StateQuery

def label : StateQuery → CallLabel
  | .get key => ⟨"get_state", some key.write⟩
  | .put key _ => ⟨"put_state", some key.write⟩
  | .retain agent _ => ⟨"retain_targets", some agent⟩
  | .remove agent => ⟨"remove_agent", some agent⟩
  | .owners => ⟨"list_agent_ids", none⟩

end StateQuery

abbrev PostOutcome := Except Webhook.Fault UInt16

structure Script where
  /-- Disturbances under `kind` or `kind:subject`. -/
  disturbances : Table String Disturbance
  /-- Answers to successive posts to an address. -/
  posts : Table String (List PostOutcome)
  /-- The answer to every post for which none of these is left. -/
  fallback : PostOutcome
  /-- Listings ignore the filter of the scope. -/
  unfiltered : Bool

namespace Script

def none : Script := ⟨.empty, .empty, .ok 200, false⟩

def offline : Script :=
  { none with fallback := .error (.connection "no network") }

/-- The disturbance of a call; the one of its subject comes first. -/
def disturbance (script : Script) (label : CallLabel) : Disturbance :=
  let special := label.subject.bind fun subject =>
    script.disturbances.get? (label.kind ++ ":" ++ subject)
  (special.or (script.disturbances.get? label.kind)).getD .none

def post (script : Script) (url : String) : PostOutcome × Script :=
  match script.posts.get? url with
  | some (outcome :: rest) =>
      (outcome, { script with posts := script.posts.insert url rest })
  | _ => (script.fallback, script)

end Script

end AdMonitor
