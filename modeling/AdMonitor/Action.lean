import AdMonitor.Budget

/-!
# Actions

What an agent does to a target for which it fires.
-/

namespace AdMonitor

inductive Action where
  /-- Notify the recipients of the workspace. -/
  | email
  /-- Change the budgets of the campaigns of the target. -/
  | scaleBudget (plan : BudgetPlan)
  | pauseCampaign
  /-- Post a description of the firing to an address. -/
  | webhook (url : String)
  deriving BEq

namespace Action

def kind : Action → String
  | .email => "email"
  | .scaleBudget _ => "scale_budget"
  | .pauseCampaign => "pause_campaign"
  | .webhook _ => "webhook"

def scalesBudget : Action → Bool
  | .scaleBudget _ => true
  | _ => false

def toMembers : Action → List (String × Json)
  | .email | .pauseCampaign => []
  | .scaleBudget plan =>
      [("direction", .str plan.direction.name), ("scale_percent", .ofFloat plan.percent)] ++
        Json.optional "min_budget" .ofFloat plan.min ++
        Json.optional "max_budget" .ofFloat plan.max
  | .webhook url => [("url", .str url)]

def toJson (action : Action) : Json :=
  .obj (("type", .str action.kind) :: action.toMembers)

def ofJson? (json : Json) : Option Action := do
  let (kind, content) ← json.variant? "type"
  match kind with
  | "email" =>
      let _ ← content.fields? []
      return .email
  | "pause_campaign" =>
      let _ ← content.fields? []
      return .pauseCampaign
  | "scale_budget" =>
      let fields ← content.fields? ["direction", "scale_percent", "min_budget", "max_budget"]
      let direction ← fields.required "direction" Direction.ofJson?
      let percent ← fields.required "scale_percent" Json.toFloat?
      let min ← fields.optional "min_budget" Json.toFloat?
      let max ← fields.optional "max_budget" Json.toFloat?
      return .scaleBudget { direction, percent, min, max }
  | "webhook" =>
      let fields ← content.fields? ["url"]
      return .webhook (← fields.required "url" Json.toText?)
  | _ => none

end Action

end AdMonitor
