import AdMonitor.Firing
import AdMonitor.Settings

/-!
# Running actions

Every action of a firing is run in order and leaves one record; one that fails
does not stop the next.  Changes of one campaign happen under its lock, so a
budget is read, scaled and written without another change in between.
-/

namespace AdMonitor

structure ExecutionRule where
  retry : RetryPolicy
  /-- The limit of one post. -/
  webhookLimit : Span
  /-- The limit of one call to the notifier or the ad platform. -/
  callLimit : Span
  deriving Repr, DecidableEq

def Settings.execution (settings : Settings) : ExecutionRule :=
  ⟨settings.retry, settings.webhookLimit, settings.actionLimit⟩

def ActionRecord.now (index : Nat) (action : Action) (result : ActionResult)
    (detail : Option ActionDetail) : Program ActionRecord := do
  let executedAt ← Program.clock
  return { index, kind := action.kind, result, detail, executedAt }

/-- A result that fails with the given reasons, if there are any. -/
def ActionResult.ofFailures : List String → ActionResult
  | [] => .success
  | reasons => .failed ("; ".intercalate reasons)

inductive Rescale where
  | changed (change : BudgetChange)
  /-- Neither the platform nor the snapshot knows the budget. -/
  | unknown
  | unreadable (failure : Failure)

namespace Rescale

def failure? : Rescale → Option String
  | .changed change => change.error
  | .unknown => none
  | .unreadable failure => some failure.message

def change? : Rescale → Option BudgetChange
  | .changed change => some change
  | _ => none

def isUnknown : Rescale → Bool
  | .unknown => true
  | _ => false

def run (limit : Span) (plan : BudgetPlan) (campaign : CampaignId) (fallback : Option Float) :
    Program Rescale := do
  let reply ← Program.ask (.platform limit (.currentBudget campaign))
  match Reply.result limit reply with
  | .error failure => return .unreadable failure
  | .ok live =>
      match (live.filter Float.isFinite).or fallback with
      | none => return .unknown
      | some previous => do
          let change := plan.apply campaign previous
          let reply ← Program.ask (.platform limit (.updateBudget campaign change.new))
          match Reply.result limit reply with
          | .ok () => return .changed change
          | .error failure => return .changed { change with error := some failure.message }

def runAll (limit : Span) (plan : BudgetPlan) :
    List Member → Program (List (CampaignId × Rescale))
  | [] => return []
  | member :: rest => do
      let campaign := member.entity.campaign
      let fallback := (member.snapshot.get? "budget").filter Float.isFinite
      let outcome ← Program.withLock (.campaign campaign) (run limit plan campaign fallback)
      let others ← runAll limit plan rest
      return (campaign, outcome) :: others

/-- Reasons of the campaigns that failed, each after the name of its campaign. -/
def failures (outcomes : List (CampaignId × Rescale)) : List String :=
  outcomes.filterMap fun (campaign, outcome) =>
    outcome.failure?.map fun reason => campaign ++ ": " ++ reason

def changes (outcomes : List (CampaignId × Rescale)) : List BudgetChange :=
  outcomes.filterMap fun (_, outcome) => outcome.change?

def warnings (plan : BudgetPlan) (outcomes : List (CampaignId × Rescale)) : List String :=
  (if plan.direction == .up && plan.max.isNone then
    ["scaling up without max_budget is unbounded"] else []) ++
  (outcomes.filter fun (_, outcome) => outcome.isUnknown).map fun (campaign, _) =>
    "current budget of " ++ campaign ++ " unknown"

def result (outcomes : List (CampaignId × Rescale)) : ActionResult :=
  if (changes outcomes).isEmpty && (failures outcomes).isEmpty then
    .skipped "current budget unknown for every campaign"
  else .ofFailures (failures outcomes)

def detail (plan : BudgetPlan) (outcomes : List (CampaignId × Rescale)) : ActionDetail :=
  .budget (changes outcomes)
    (match warnings plan outcomes with
      | [] => none
      | texts => some ("; ".intercalate texts))

end Rescale

structure Posted where
  result : ActionResult
  status : Option UInt16
  attempts : UInt32

namespace Posted

/-- Whether an answer ends the attempts with a result, or why another one is worth it. -/
def judge : Except Webhook.Fault UInt16 → ActionResult ⊕ String
  | .ok status =>
      if 200 ≤ status && status ≤ 299 then .inl .success
      else if 500 ≤ status && status ≤ 599 then .inr ("HTTP " ++ toString status)
      else .inl (.failed ("HTTP " ++ toString status))
  | .error fault =>
      if fault.isTransient then .inr fault.message else .inl (.failed fault.message)

/--
Attempt a post until an answer ends it or no retry is left.  `attempts` and
`status` are those of the attempts before.
-/
def run (rule : ExecutionRule) (url : String) (payload : Json) (retries : Nat)
    (attempts : UInt32) (status : Option UInt16) : Program Posted := do
  let answer ← Program.ask (.post rule.webhookLimit url payload)
  let attempts := attempts + 1
  let status := (answer.toOption).or status
  match judge answer with
  | .inl result => return ⟨result, status, attempts⟩
  | .inr reason =>
      match retries with
      | 0 =>
          return ⟨.failed (reason ++ " after " ++ toString attempts ++ " attempts"),
            status, attempts⟩
      | retries + 1 => do
          let jitter ← Program.ask (.jitter rule.retry.jitterLimit)
          Program.ask (.sleep (rule.retry.delay attempts jitter))
          run rule url payload retries attempts status

end Posted

namespace Firing

/-- Pause some campaigns; the reasons of those that could not be paused. -/
def pauseAll (limit : Span) : List CampaignId → Program (List String)
  | [] => return []
  | campaign :: rest => do
      let reply ← Program.withLock (.campaign campaign)
        (Program.ask (.platform limit (.setPaused campaign true)))
      let failures ← pauseAll limit rest
      match Reply.result limit reply with
      | .ok () => return failures
      | .error failure => return (campaign ++ ": " ++ failure.message) :: failures

/-- Run one action: its result, and what its record says beyond it. -/
def act (rule : ExecutionRule) (firing : Firing) :
    Action → Program (ActionResult × Option ActionDetail)
  | .email => do
      let reply ← Program.ask (.enqueue rule.callLimit firing.agent.workspace firing.payload)
      match Reply.result rule.callLimit reply with
      | .ok () => return (.success, some .notification)
      | .error failure => return (.failed failure.message, some .notification)
  | .scaleBudget plan =>
      if firing.agent.scope.filter.level == .campaign then do
        let outcomes ← Rescale.runAll rule.callLimit plan firing.members
        return (Rescale.result outcomes, some (Rescale.detail plan outcomes))
      else return (.skipped "budget scaling needs a campaign-level scope", none)
  | .pauseCampaign =>
      match firing.campaigns with
      | [] => return (.skipped "no campaign to pause", none)
      | campaigns => do
          let failures ← pauseAll rule.callLimit campaigns
          return (.ofFailures failures, some (.pause campaigns))
  | .webhook url => do
      let posted ← Posted.run rule url firing.payload rule.retry.maxRetries.toNat 0 none
      return (posted.result, some (.webhook posted.status posted.attempts))

/-- Run some actions, the first of which has the given position. -/
def runActions (rule : ExecutionRule) (firing : Firing) (index : Nat) :
    List Action → Program (List ActionRecord)
  | [] => return []
  | action :: rest => do
      let (result, detail) ← firing.act rule action
      let record ← ActionRecord.now index action result detail
      let others ← runActions rule firing (index + 1) rest
      return record :: others

def run (rule : ExecutionRule) (firing : Firing) : Program (List ActionRecord) :=
  firing.runActions rule 0 firing.agent.actions

end Firing

end AdMonitor
