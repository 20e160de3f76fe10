import AdMonitor.Condition

/-!
# Checking conditions

A condition is accepted when it is not too deep, every composite has a child,
and every comparison has a metric of the catalogue and a finite bound.  Every
node is checked, also those that evaluation would skip.
-/

namespace AdMonitor

inductive ConditionFault where
  | tooDeep (depth limit : Nat)
  | unknownMetric (metric : String)
  | boundNotFinite (metric : String)
  | noChildren (connective : Connective)
  deriving Repr, DecidableEq

namespace ConditionFault

def message : ConditionFault → String
  | .tooDeep depth limit =>
      "condition depth " ++ toString depth ++ " exceeds the limit of " ++ toString limit
  | .unknownMetric metric => "unknown metric '" ++ metric ++ "'"
  | .boundNotFinite metric => "threshold for '" ++ metric ++ "' is not a finite number"
  | .noChildren .all => "And composite has no children"
  | .noChildren .any => "Or composite has no children"

end ConditionFault

namespace Condition

mutual

/-- The first fault of a node, parents before children. -/
def checkNodes : Condition → Except ConditionFault Unit
  | .threshold metric _ bound =>
      if !Metric.isKnown metric then .error (.unknownMetric metric)
      else if !bound.isFinite then .error (.boundNotFinite metric)
      else .ok ()
  | .composite connective [] => .error (.noChildren connective)
  | .composite _ (child :: rest) => do
      checkNodes child
      checkNodesOf rest

def checkNodesOf : List Condition → Except ConditionFault Unit
  | [] => .ok ()
  | child :: rest => do
      checkNodes child
      checkNodesOf rest

end

/-- The first fault of a condition that may have at most `limit` levels. -/
def check (limit : Nat) (condition : Condition) : Except ConditionFault Unit :=
  if limit < condition.depth then .error (.tooDeep condition.depth limit)
  else condition.checkNodes

end Condition

end AdMonitor
