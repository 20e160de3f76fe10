import AdMonitor.Metric

/-!
# Conditions

A condition compares metrics with constants and combines the outcomes.  A
metric that is missing or not finite makes the outcome unknown; a data gap is
never read as an answer.
-/

namespace AdMonitor

inductive Comparison where
  | above | atLeast | below | atMost | equal
  deriving Repr, DecidableEq

namespace Comparison

def apply : Comparison → (actual bound : Float) → Bool
  | .above, actual, bound => actual > bound
  | .atLeast, actual, bound => actual ≥ bound
  | .below, actual, bound => actual < bound
  | .atMost, actual, bound => actual ≤ bound
  | .equal, actual, bound => actual == bound

def symbol : Comparison → String
  | .above => ">"
  | .atLeast => ">="
  | .below => "<"
  | .atMost => "<="
  | .equal => "="

def all : List Comparison := [.above, .atLeast, .below, .atMost, .equal]

end Comparison

inductive Connective where
  | all | any
  deriving Repr, DecidableEq

inductive Condition where
  | threshold (metric : String) (comparison : Comparison) (bound : Float)
  | composite (connective : Connective) (children : List Condition)
  deriving BEq

/-- The outcome of a condition; an unknown one names a metric without a finite value. -/
inductive Verdict where
  | holds
  | fails
  | unknown (metric : String)
  deriving Repr, DecidableEq

namespace Verdict

def ofBool (held : Bool) : Verdict :=
  if held then .holds else .fails

def firstShortfall : List Verdict → Verdict
  | [] => .holds
  | .holds :: rest => firstShortfall rest
  | verdict :: _ => verdict

/-- A verdict that holds, else the first unknown one, else a failure. -/
def firstSuccess (gap : Option String) : List Verdict → Verdict
  | [] =>
      match gap with
      | none => .fails
      | some metric => .unknown metric
  | .holds :: _ => .holds
  | .fails :: rest => firstSuccess gap rest
  | .unknown metric :: rest => firstSuccess (some (gap.getD metric)) rest

def combine (connective : Connective) (verdicts : List Verdict) : Verdict :=
  match connective with
  | .all => firstShortfall verdicts
  | .any => firstSuccess none verdicts

end Verdict

namespace Condition

def compareMetric (snapshot : Snapshot) (metric : String) (comparison : Comparison)
    (bound : Float) : Verdict :=
  match snapshot.get? metric with
  | some actual =>
      if actual.isFinite then .ofBool (comparison.apply actual bound) else .unknown metric
  | none => .unknown metric

mutual

/-- The outcome of a condition; children after the deciding one are not looked at. -/
def evaluate (snapshot : Snapshot) : Condition → Verdict
  | .threshold metric comparison bound => compareMetric snapshot metric comparison bound
  | .composite .all children => evaluateAll snapshot children
  | .composite .any children => evaluateAny snapshot none children

def evaluateAll (snapshot : Snapshot) : List Condition → Verdict
  | [] => .holds
  | child :: rest =>
      match evaluate snapshot child with
      | .holds => evaluateAll snapshot rest
      | .fails => .fails
      | .unknown metric => .unknown metric

/-- The first child that holds decides; otherwise the first gap wins over a failure. -/
def evaluateAny (snapshot : Snapshot) (gap : Option String) : List Condition → Verdict
  | [] =>
      match gap with
      | none => .fails
      | some metric => .unknown metric
  | child :: rest =>
      match evaluate snapshot child with
      | .holds => .holds
      | .fails => evaluateAny snapshot gap rest
      | .unknown metric => evaluateAny snapshot (some (gap.getD metric)) rest

end

mutual

/-- The number of nodes on the longest path from the root. -/
def depth : Condition → Nat
  | .threshold .. => 1
  | .composite _ children => 1 + deepest children

def deepest : List Condition → Nat
  | [] => 0
  | child :: rest => max (depth child) (deepest rest)

end

mutual

def mentions : Condition → List String
  | .threshold metric _ _ => [metric]
  | .composite _ children => mentionsOf children

def mentionsOf : List Condition → List String
  | [] => []
  | child :: rest => mentions child ++ mentionsOf rest

end

def metrics (condition : Condition) : NameSet :=
  .ofNames condition.mentions

end Condition

end AdMonitor
