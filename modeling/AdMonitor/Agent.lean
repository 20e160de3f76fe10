import AdMonitor.Accumulation
import AdMonitor.Action
import AdMonitor.Condition.Form
import AdMonitor.Target

/-!
# Agents

An agent watches the entities of its scope.  When its condition has held long
enough for a target and its trigger allows it, its actions are run.
-/

namespace AdMonitor

inductive Status where
  | active | paused
  deriving Repr, DecidableEq

namespace Status

def name : Status → String
  | .active => "active"
  | .paused => "paused"

def all : List Status := [.active, .paused]

def ofJson? (json : Json) : Option Status := do
  let word ← json.toWord?
  all.find? (fun s => s.name == word)

end Status

/-- The entities of a scope: all that pass its filter, or some by id. -/
inductive Selection where
  /-- All entities; unless they are taken together, no agent may use this. -/
  | all (aggregate : Bool)
  | listed (ids : List EntityId)
  deriving Repr, DecidableEq

namespace Selection

def toJson : Selection → Json
  | .all aggregate => .obj [("type", .str "all"), ("aggregate", .bool aggregate)]
  | .listed ids => .obj [("type", .str "specific"), ("entity_ids", .ofStrings ids)]

def ofJson? (json : Json) : Option Selection := do
  let (kind, content) ← json.variant? "type"
  match kind with
  | "all" =>
      let fields ← content.fields? ["aggregate"]
      return .all (← fields.withDefault "aggregate" true Json.toBool?)
  | "specific" =>
      let fields ← content.fields? ["entity_ids"]
      return .listed (← fields.required "entity_ids" (Json.toList? Json.toText?))
  | _ => none

end Selection

structure Scope where
  filter : EntityFilter
  selection : Selection
  deriving Repr, DecidableEq

namespace Scope

/-- The listed ids, each at its first occurrence only. -/
def distinctIds (scope : Scope) : List EntityId :=
  match scope.selection with
  | .all _ => []
  | .listed ids => ids.eraseDups

def toJson (scope : Scope) : Json :=
  .obj [("platform", .ofOption Platform.toJson scope.filter.platform),
    ("level", scope.filter.level.toJson), ("selection", scope.selection.toJson)]

def ofJson? (json : Json) : Option Scope := do
  let fields ← json.fields? ["platform", "level", "selection"]
  let platform ← fields.optional "platform" Platform.ofJson?
  let level ← fields.required "level" Level.ofJson?
  let selection ← fields.required "selection" Selection.ofJson?
  return ⟨⟨platform, level⟩, selection⟩

end Scope

structure Agent where
  id : AgentId
  workspace : WorkspaceId
  name : String
  status : Status
  scope : Scope
  condition : Condition
  accumulation : AccumulationRule
  trigger : TriggerRule
  actions : List Action
  createdAt : Instant
  updatedAt : Instant
  lastEvaluatedAt : Option Instant
  deriving BEq

namespace Agent

def isActive (agent : Agent) : Bool := agent.status == .active

def requiredMetrics (agent : Agent) : NameSet :=
  let base := Metric.base agent.condition.mentions
  if agent.actions.any Action.scalesBudget then base.insert "budget" () else base

def toJson (agent : Agent) : Json :=
  .obj [("id", .str agent.id), ("workspace_id", .str agent.workspace),
    ("name", .str agent.name), ("status", .str agent.status.name),
    ("scope", agent.scope.toJson), ("condition", agent.condition.toJson),
    ("accumulation", agent.accumulation.toJson), ("trigger", agent.trigger.toJson),
    ("actions", .arr (agent.actions.map Action.toJson)),
    ("created_at", agent.createdAt.toJson), ("updated_at", agent.updatedAt.toJson),
    ("last_evaluated_at", .ofOption Instant.toJson agent.lastEvaluatedAt)]

def fieldNames : List String :=
  ["id", "workspace_id", "name", "status", "scope", "condition", "accumulation",
    "trigger", "actions", "created_at", "updated_at", "last_evaluated_at"]

/-- An agent that does not say when it was made or changed was made and changed now. -/
def ofJson? (now : Instant) (json : Json) : Option Agent := do
  let fields ← json.fields? fieldNames
  let id ← fields.required "id" Json.toText?
  let workspace ← fields.required "workspace_id" Json.toText?
  let name ← fields.required "name" Json.toText?
  let status ← fields.required "status" Status.ofJson?
  let scope ← fields.required "scope" Scope.ofJson?
  let condition ← fields.required "condition" Condition.ofJson?
  let accumulation ← fields.required "accumulation" AccumulationRule.ofJson?
  let trigger ← fields.required "trigger" TriggerRule.ofJson?
  let actions ← fields.required "actions" (Json.toList? Action.ofJson?)
  let createdAt ← fields.withDefault "created_at" now Instant.ofJson?
  let updatedAt ← fields.withDefault "updated_at" now Instant.ofJson?
  let lastEvaluatedAt ← fields.optional "last_evaluated_at" Instant.ofJson?
  return {
    id, workspace, name, status, scope, condition, accumulation, trigger, actions
    createdAt, updatedAt, lastEvaluatedAt }

end Agent

end AdMonitor
