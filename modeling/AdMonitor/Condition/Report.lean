import AdMonitor.Condition
import AdMonitor.Decimal.Text
import AdMonitor.Json

/-!
# Condition reports

A report explains the outcome of every node of a condition.  Unlike plain
evaluation it looks at every child, yet each node gets the same verdict.
-/

namespace AdMonitor

namespace Connective

def label : Connective → String
  | .all => "AND"
  | .any => "OR"

end Connective

namespace Verdict

def isTrue : Verdict → Bool
  | .holds => true
  | _ => false

def isUnknown : Verdict → Bool
  | .unknown _ => true
  | _ => false

def toJson : Verdict → Json
  | .holds => .obj [("result", .str "true")]
  | .fails => .obj [("result", .str "false")]
  | .unknown metric => .obj [("result", .str "indeterminate"), ("metric", .str metric)]

def describe : Verdict → String
  | .holds => "true"
  | .fails => "false"
  | .unknown metric => "indeterminate (missing " ++ metric ++ ")"

end Verdict

inductive Report where
  | node (verdict : Verdict) (explanation : String) (children : List Report)

namespace Report

def verdict : Report → Verdict
  | .node verdict _ _ => verdict

def explanation : Report → String
  | .node _ explanation _ => explanation

def children : Report → List Report
  | .node _ _ children => children

mutual

/-- Explanations of all nodes, parents first, with their depth below the root. -/
def lines (level : Nat) : Report → List (Nat × String)
  | .node _ explanation children => (level, explanation) :: linesOf (level + 1) children

def linesOf (level : Nat) : List Report → List (Nat × String)
  | [] => []
  | child :: rest => lines level child ++ linesOf level rest

end

/-- The report as a tree of lines, indented by two blanks a level. -/
def rows (report : Report) : List String :=
  (report.lines 0).map fun (level, text) =>
    String.ofList (List.replicate (2 * level) ' ') ++ text

def render (report : Report) : String :=
  String.join (report.rows.map fun row => row ++ "\n")

def summary (report : Report) : String :=
  "; ".intercalate ((report.lines 0).map (·.2))

mutual

def toJson : Report → Json
  | .node verdict explanation children =>
      .obj ([("result", verdict.toJson), ("explanation", .str explanation)] ++
        (match children with
          | [] => []
          | _ => [("children", .arr (toJsonList children))]))

def toJsonList : List Report → List Json
  | [] => []
  | child :: rest => toJson child :: toJsonList rest

end

end Report

namespace Condition

def comparisonText (metric : String) (comparison : Comparison) (bound : Float) : String :=
  metric ++ " " ++ comparison.symbol ++ " " ++ Decimal.plain bound

def explainThreshold (snapshot : Snapshot) (metric : String) (comparison : Comparison)
    (bound : Float) : String :=
  comparisonText metric comparison bound ++ ": " ++
    match snapshot.get? metric with
    | none => "indeterminate, metric missing"
    | some actual =>
        if actual.isFinite then
          (if comparison.apply actual bound then "true" else "false") ++
            " (actual " ++ Decimal.plain actual ++ ")"
        else
          "indeterminate, value " ++ Decimal.plain actual ++ " is not a finite number"

def explainComposite (connective : Connective) (verdicts : List Verdict) : String :=
  connective.label ++ ": " ++ (Verdict.combine connective verdicts).describe ++
    " (" ++ toString (verdicts.countP Verdict.isTrue) ++ "/" ++
    toString verdicts.length ++ " children true)"

mutual

def explain (snapshot : Snapshot) : Condition → Report
  | .threshold metric comparison bound =>
      .node (compareMetric snapshot metric comparison bound)
        (explainThreshold snapshot metric comparison bound) []
  | .composite connective children =>
      let reports := explainList snapshot children
      let verdicts := reports.map Report.verdict
      .node (Verdict.combine connective verdicts)
        (explainComposite connective verdicts) reports

def explainList (snapshot : Snapshot) : List Condition → List Report
  | [] => []
  | child :: rest => explain snapshot child :: explainList snapshot rest

end

end Condition

end AdMonitor
