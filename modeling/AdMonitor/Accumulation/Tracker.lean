import AdMonitor.Accumulation
import AdMonitor.Condition

/-!
# Tracking accumulation

A tracker folds verdicts into progress.  A verdict that is unknown changes
nothing: it neither extends nor breaks a streak and takes no place in a window.
-/

namespace AdMonitor

inductive Progress where
  /-- The current run of verdicts that hold, capped at the requirement. -/
  | streak (count : UInt32)
  /-- The latest known verdicts, oldest first. -/
  | window (outcomes : List Bool)
  deriving Repr, DecidableEq

namespace Progress

def amount : Progress → UInt32
  | .streak count => count
  | .window outcomes => UInt32.ofNat (min (outcomes.countP id) (UInt32.size - 1))

def toJson : Progress → Json
  | .streak count => .obj [("mode", .str "consecutive"), ("count", .int count.toNat)]
  | .window outcomes =>
      .obj [("mode", .str "window"), ("outcomes", .arr (outcomes.map .bool))]

def ofJson? (json : Json) : Option Progress := do
  let (mode, content) ← json.variant? "mode"
  match mode with
  | "consecutive" =>
      let fields ← content.fields? ["count"]
      let count ← fields.required "count" (Json.toNat? 32)
      return .streak (.ofNat count)
  | "window" =>
      let fields ← content.fields? ["outcomes"]
      return .window (← fields.required "outcomes" (Json.toList? Json.toBool?))
  | _ => none

end Progress

def newest {α : Type} (n : Nat) (items : List α) : List α :=
  items.drop (items.length - n)

namespace Word

def largest : UInt32 := .ofNat (UInt32.size - 1)

/-- One more; the largest word cannot be counted on. -/
def next? (word : UInt32) : Option UInt32 :=
  if word = largest then none else some (word + 1)

end Word

structure Tracker where
  mode : AccumulationMode
  required : UInt32
  window : UInt32
  deriving Repr, DecidableEq

namespace Tracker

def ofRule (rule : AccumulationRule) (tickMinutes : UInt32) : Tracker :=
  ⟨rule.mode, rule.requiredTicks tickMinutes, rule.windowTicks tickMinutes⟩

def initial (tracker : Tracker) : Progress :=
  match tracker.mode with
  | .consecutive => .streak 0
  | .withinWindow => .window []

/--
Fit stored progress to the tracker: progress of the other mode starts over, a
streak is capped, a window keeps its newest outcomes.
-/
def fit (tracker : Tracker) (progress : Progress) : Progress :=
  match tracker.mode, progress with
  | .consecutive, .streak count => .streak (min count tracker.required)
  | .withinWindow, .window outcomes => .window (newest tracker.window.toNat outcomes)
  | _, _ => tracker.initial

/--
Count one more known verdict.  One is added before the streak is capped, so a
streak that is as long as the largest word has no next one.
-/
def record (tracker : Tracker) (held : Bool) : Progress → Option Progress
  | .streak count =>
      if held then (Word.next? count).map fun more => .streak (min more tracker.required)
      else some (.streak 0)
  | .window outcomes => some (.window (newest tracker.window.toNat (outcomes ++ [held])))

def isSatisfied (tracker : Tracker) (progress : Progress) : Bool :=
  tracker.required ≤ progress.amount

/--
Fold one verdict into the progress; the flag says whether it is enough now.
There is no result when the count overflows.
-/
def step (tracker : Tracker) (progress : Progress) (verdict : Verdict) :
    Option (Progress × Bool) :=
  let fitted := tracker.fit progress
  match verdict with
  | .unknown _ => some (fitted, false)
  | .holds => do
      let next ← tracker.record true fitted
      return (next, tracker.isSatisfied next)
  | .fails => do
      let next ← tracker.record false fitted
      return (next, tracker.isSatisfied next)

end Tracker

end AdMonitor
