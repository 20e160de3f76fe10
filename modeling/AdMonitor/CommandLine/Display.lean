import AdMonitor.Monitor

/-!
# What is shown to people

Reports and explanations as lines of text.
-/

namespace AdMonitor

def headRule : String := "====================================="

namespace TargetStatus

def describe : TargetStatus → String
  | .fired count => "fired (#" ++ toString count.toNat ++ ")"
  | .notSatisfied => "not satisfied"
  | .suppressed why => "suppressed: " ++ why.message
  | .indeterminate metric => "indeterminate: missing " ++ metric
  | .skipped reason => "skipped: " ++ reason
  | .stateError reason => "state error: " ++ reason

end TargetStatus

namespace ActionResult

def mark : ActionResult → String
  | .success => "✓"
  | .failed _ => "✗"
  | .skipped _ => "-"

end ActionResult

namespace ActionRecord

def lines (record : ActionRecord) : List String :=
  ("    " ++ record.result.mark ++ " " ++ record.kind ++ " " ++ record.result.write) ::
    (record.warning.map fun warning => "      ⚠ " ++ warning).toList

end ActionRecord

namespace TargetReport

def lines (report : TargetReport) : List String :=
  (report.key.agent ++ " / " ++ report.key.target ++ ": " ++ report.status.describe) ::
    report.actions.flatMap ActionRecord.lines

end TargetReport

namespace TickReport

def headline (report : TickReport) : String :=
  "⏱  Tick " ++ toString report.tick ++ " (" ++ toString report.evaluated ++ " evaluated, " ++
    toString report.fired ++ " fired, " ++ toString report.skipped ++ " skipped)"

def lines (report : TickReport) : List String :=
  ["", report.headline, headRule] ++
    (report.failures.map fun failure => "✗ " ++ failure.agent ++ ": " ++ failure.error) ++
    report.targets.flatMap TargetReport.lines ++
    (if report.collected = 0 then []
      else ["🧹 " ++ toString report.collected ++ " orphaned target states removed"])

end TickReport

namespace TargetState

def summary (state : TargetState) : String :=
  "progress " ++ toString state.progress.amount.toNat ++ ", fired " ++
    toString state.firings.count.toNat ++ " times"

end TargetState

namespace Explanation

def lines (explanation : Explanation) : List String :=
  ["", "🎯 " ++ explanation.target] ++
    ((match explanation.outcome with
        | .ok report => report.rows
        | .error reason => ["unavailable: " ++ reason]) ++
      (explanation.state.map TargetState.summary).toList).map fun row => "   " ++ row

def linesOf (agent : AgentId) (explanations : List Explanation) : List String :=
  ["", "🔎 Agent " ++ agent, headRule] ++
    (if explanations.isEmpty then ["No targets resolved."]
      else explanations.flatMap Explanation.lines)

end Explanation

namespace Agent

def verdictLine [UrlParser] (limit : Nat) (agent : Agent) : String :=
  let title := agent.id ++ " (" ++ agent.name ++ ")"
  match agent.validate limit with
  | .ok () => "✓ " ++ title
  | .error failure => "✗ " ++ title ++ ": " ++ failure.message

end Agent

end AdMonitor
