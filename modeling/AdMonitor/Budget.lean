import AdMonitor.Entity

/-!
# Budget changes

A plan scales the budget of a campaign by a percentage, rounds the product to
cents and keeps it within optional bounds.
-/

namespace AdMonitor

inductive Direction where
  | up | down
  deriving Repr, DecidableEq

namespace Direction

def name : Direction → String
  | .up => "up"
  | .down => "down"

def all : List Direction := [.up, .down]

def ofJson? (json : Json) : Option Direction := do
  let word ← json.toWord?
  all.find? (fun d => d.name == word)

end Direction

structure BudgetPlan where
  direction : Direction
  percent : Float
  min : Option Float
  max : Option Float
  deriving BEq

/-- A budget that was computed for a campaign, and how the platform took it. -/
structure BudgetChange where
  campaign : CampaignId
  previous : Float
  /-- The product before rounding. -/
  raw : Float
  new : Float
  /-- Whether a bound replaced the rounded product. -/
  clamped : Bool
  error : Option String
  deriving BEq

namespace BudgetPlan

def factor (plan : BudgetPlan) : Float :=
  match plan.direction with
  | .up => 1.0 + plan.percent / 100.0
  | .down => 1.0 - plan.percent / 100.0

/-- Rounding to cents; a half goes away from zero. -/
def toCents (x : Float) : Float :=
  (x * 100.0).round / 100.0

/-- The value, or the bound if the value is above it or is no number. -/
def atMost (bound x : Float) : Float :=
  if x.isNaN then bound else if bound < x then bound else x

/-- The value, or the bound if the value is below it or is no number. -/
def atLeast (bound x : Float) : Float :=
  if x.isNaN then bound else if bound > x then bound else x

/-- The upper bound is applied first, so the lower one has the last word. -/
def clamp (plan : BudgetPlan) (x : Float) : Float :=
  let capped := match plan.max with
    | none => x
    | some bound => atMost bound x
  match plan.min with
  | none => capped
  | some bound => atLeast bound capped

def apply (plan : BudgetPlan) (campaign : CampaignId) (previous : Float) : BudgetChange :=
  let raw := previous * plan.factor
  let rounded := toCents raw
  let new := plan.clamp rounded
  { campaign, previous, raw, new, clamped := new != rounded, error := none }

end BudgetPlan

namespace BudgetChange

def toJson (change : BudgetChange) : Json :=
  .obj ([("campaign_id", .str change.campaign), ("previous", .ofFloat change.previous),
      ("raw", .ofFloat change.raw), ("new_budget", .ofFloat change.new),
      ("clamped", .bool change.clamped)] ++
    Json.optional "error" .str change.error)

def ofJson? (json : Json) : Option BudgetChange := do
  let fields ← json.fields?
    ["campaign_id", "previous", "raw", "new_budget", "clamped", "error"]
  let campaign ← fields.required "campaign_id" Json.toText?
  let previous ← fields.required "previous" Json.toFloat?
  let raw ← fields.required "raw" Json.toFloat?
  let new ← fields.required "new_budget" Json.toFloat?
  let clamped ← fields.required "clamped" Json.toBool?
  let error ← fields.optional "error" Json.toText?
  return { campaign, previous, raw, new, clamped, error }

end BudgetChange

end AdMonitor
