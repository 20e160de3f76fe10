import AdMonitor.Agent
import AdMonitor.Condition.Check
import AdMonitor.Decimal.Text
import AdMonitor.Failure
import AdMonitor.Url

/-!
# Checking agents

An agent is accepted when it has something to do, requires at least one
evaluation, selects entities in a supported way, and when all its actions and
its condition are sound.
-/

namespace AdMonitor

inductive ActionFault where
  | percent (percent : Float)
  | budgetBound (bound : Float)
  | crossedBounds (min max : Float)
  | url (url : String) (fault : String)
  | scheme (scheme : String)

namespace ActionFault

def message : ActionFault → String
  | .percent given => "scale_percent must be in (0, 100], got " ++ Decimal.plain given
  | .budgetBound given => "budget bounds must be non-negative, got " ++ Decimal.plain given
  | .crossedBounds min max =>
      "min_budget " ++ Decimal.plain min ++ " exceeds max_budget " ++ Decimal.plain max
  | .url text fault => "invalid webhook url '" ++ text ++ "': " ++ fault
  | .scheme word => "unsupported webhook scheme '" ++ word ++ "'"

end ActionFault

namespace BudgetPlan

def isBound (bound : Float) : Bool :=
  bound.isFinite && !(bound < 0.0)

def checkBounds (bounds : List Float) : Except ActionFault Unit :=
  match bounds.find? (fun b => !isBound b) with
  | some bound => .error (.budgetBound bound)
  | none => .ok ()

def check (plan : BudgetPlan) : Except ActionFault Unit := do
  if !(plan.percent.isFinite && plan.percent > 0.0 && plan.percent ≤ 100.0) then
    throw (.percent plan.percent)
  checkBounds (plan.min.toList ++ plan.max.toList)
  match plan.min, plan.max with
  | some min, some max => if min > max then throw (.crossedBounds min max)
  | _, _ => return ()

end BudgetPlan

namespace Action

def check [UrlParser] : Action → Except ActionFault Unit
  | .email | .pauseCampaign => .ok ()
  | .scaleBudget plan => plan.check
  | .webhook url =>
      match UrlParser.scheme url with
      | .error fault => .error (.url url fault)
      | .ok scheme => if UrlParser.isPostable scheme then .ok () else .error (.scheme scheme)

end Action

inductive AgentFault where
  | noActions
  | noRequirement
  | noWindow
  | separateEntities
  | noEntities
  | action (index : Nat) (fault : ActionFault)
  | condition (fault : ConditionFault)

namespace AgentFault

/-- The fault of an agent in words; a faulty action is named by its position alone. -/
def message (id : AgentId) : AgentFault → String
  | .noActions => "agent " ++ id ++ " has no actions"
  | .noRequirement => "agent " ++ id ++ ": accumulation.required must be at least 1"
  | .noWindow => "agent " ++ id ++ ": accumulation.window must be at least 1"
  | .separateEntities => "agent " ++ id ++ ": non-aggregate 'all' scope is not supported"
  | .noEntities => "agent " ++ id ++ ": specific scope lists no entities"
  | .action index fault => "action " ++ toString index ++ ": " ++ fault.message
  | .condition fault => "agent " ++ id ++ ": " ++ fault.message

def toFailure (id : AgentId) (fault : AgentFault) : Failure :=
  .invalidAgent (fault.message id)

end AgentFault

namespace Selection

def check : Selection → Except AgentFault Unit
  | .all true => .ok ()
  | .all false => .error .separateEntities
  | .listed [] => .error .noEntities
  | .listed (_ :: _) => .ok ()

end Selection

namespace Agent

/-- The first faulty action, counted from a position. -/
def checkActions [UrlParser] (index : Nat) : List Action → Except AgentFault Unit
  | [] => .ok ()
  | action :: rest =>
      match action.check with
      | .error fault => .error (.action index fault)
      | .ok () => checkActions (index + 1) rest

def checkFrame [UrlParser] (agent : Agent) : Except AgentFault Unit := do
  if agent.actions.isEmpty then throw .noActions
  if agent.accumulation.required == 0 then throw .noRequirement
  if agent.accumulation.window == some 0 then throw .noWindow
  agent.scope.selection.check
  checkActions 0 agent.actions

/-- Check an agent whose condition may have at most `limit` levels. -/
def check [UrlParser] (limit : Nat) (agent : Agent) : Except AgentFault Unit := do
  agent.checkFrame
  match agent.condition.check limit with
  | .error fault => throw (.condition fault)
  | .ok () => return ()

def validate [UrlParser] (limit : Nat) (agent : Agent) : Except Failure Unit :=
  (agent.check limit).mapError (AgentFault.toFailure agent.id)

end Agent

end AdMonitor
