import AdMonitor.Condition.Report
import AdMonitor.Proofs.Condition.Evaluation

/-!
# What a report says

A report has one node for each node of the condition, in the same places, and
gives it the verdict of plain evaluation (`Condition.explain_agrees`).  Nodes
are told apart by their paths: the positions of the children on the way from
the root.
-/

namespace AdMonitor

namespace Report

def node? : List Nat → Report → Option Report
  | [], report => some report
  | position :: path, report => report.children[position]?.bind (node? path)

end Report

namespace Condition

variable {snapshot : Snapshot}

def children : Condition → List Condition
  | .threshold .. => []
  | .composite _ children => children

def node? : List Nat → Condition → Option Condition
  | [], condition => some condition
  | position :: path, condition => condition.children[position]?.bind (node? path)

theorem explainList_eq_map (snapshot : Snapshot) (conditions : List Condition) :
    explainList snapshot conditions = conditions.map (explain snapshot) := by
  induction conditions with
  | nil => rfl
  | cons condition rest ih => rw [explainList, ih, List.map_cons]

theorem explain_children (condition : Condition) :
    (condition.explain snapshot).children = condition.children.map (explain snapshot) := by
  cases condition with
  | threshold metric comparison bound => rfl
  | composite connective conditions => exact explainList_eq_map snapshot conditions

/-- Looking at every child comes to the verdict of stopping early. -/
theorem explain_verdict (condition : Condition) :
    (condition.explain snapshot).verdict = condition.evaluate snapshot := by
  induction condition using inductionOn with
  | threshold metric comparison bound => rfl
  | composite connective conditions ih =>
      have verdicts : (explainList snapshot conditions).map Report.verdict =
          conditions.map (evaluate snapshot) := by
        rw [explainList_eq_map, List.map_map]
        exact List.map_congr_left ih
      rw [evaluate_composite, ← verdicts]
      rfl

/-- The report of a condition has the report of each of its nodes at the path of the node. -/
theorem node?_explain (path : List Nat) (condition : Condition) :
    (condition.explain snapshot).node? path = (condition.node? path).map (explain snapshot) := by
  induction path generalizing condition with
  | nil => rfl
  | cons position path ih =>
      rw [Report.node?, node?, explain_children, List.getElem?_map]
      cases condition.children[position]? with
      | none => rfl
      | some child => exact ih child

/--
At every path a report has a node just when the condition has one, with as many
children, and with the verdict of evaluating the condition from there.
-/
theorem explain_agrees (snapshot : Snapshot) (condition : Condition) (path : List Nat) :
    ((condition.explain snapshot).node? path).map
        (fun report => (report.verdict, report.children.length)) =
      (condition.node? path).map
        fun node => (node.evaluate snapshot, node.children.length) := by
  rw [node?_explain, Option.map_map]
  refine Option.map_congr fun node _ => ?_
  rw [Function.comp_apply, explain_verdict, explain_children, List.length_map]

end Condition

end AdMonitor
