import AdMonitor.Json.Decoder

/-!
# Accumulation rules

How long a condition has to hold before an agent may act, and how that length
is counted in ticks of the schedule.
-/

namespace AdMonitor

inductive TimeUnit where
  | evaluations | hours | days
  deriving Repr, DecidableEq

namespace TimeUnit

def name : TimeUnit → String
  | .evaluations => "evaluations"
  | .hours => "hours"
  | .days => "days"

def all : List TimeUnit := [.evaluations, .hours, .days]

def ofJson? (json : Json) : Option TimeUnit := do
  let word ← json.toWord?
  all.find? (fun u => u.name == word)

/-- Minutes rounded up to whole ticks, at most `UInt32.size - 1` of them. -/
def ticksFor (minutes tickMinutes : Nat) : UInt32 :=
  let tick := max tickMinutes 1
  UInt32.ofNat (min ((minutes + tick - 1) / tick) (UInt32.size - 1))

def toTicks (unit : TimeUnit) (amount tickMinutes : UInt32) : UInt32 :=
  match unit with
  | .evaluations => amount
  | .hours => ticksFor (amount.toNat * 60) tickMinutes.toNat
  | .days => ticksFor (amount.toNat * 24 * 60) tickMinutes.toNat

end TimeUnit

inductive AccumulationMode where
  | consecutive | withinWindow
  deriving Repr, DecidableEq

namespace AccumulationMode

def name : AccumulationMode → String
  | .consecutive => "consecutive"
  | .withinWindow => "within_window"

def all : List AccumulationMode := [.consecutive, .withinWindow]

def ofJson? (json : Json) : Option AccumulationMode := do
  let word ← json.toWord?
  all.find? (fun m => m.name == word)

end AccumulationMode

/-- How many evaluations have to hold, in a row or among the latest ones. -/
structure AccumulationRule where
  required : UInt32
  unit : TimeUnit
  mode : AccumulationMode
  /-- The length of the window in the same unit, if it is given. -/
  window : Option UInt32
  deriving Repr, DecidableEq

namespace AccumulationRule

def requiredTicks (rule : AccumulationRule) (tickMinutes : UInt32) : UInt32 :=
  max (rule.unit.toTicks rule.required tickMinutes) 1

/-- One less than twice the requirement, capped at `UInt32.size - 1` before the one is taken off. -/
def defaultWindow (required : UInt32) : UInt32 :=
  UInt32.ofNat (max (min (required.toNat * 2) (UInt32.size - 1) - 1) 1)

/-- The number of latest outcomes that are kept, never fewer than are required. -/
def windowTicks (rule : AccumulationRule) (tickMinutes : UInt32) : UInt32 :=
  let required := rule.requiredTicks tickMinutes
  match rule.window with
  | some window => max (rule.unit.toTicks window tickMinutes) required
  | none => defaultWindow required

def toJson (rule : AccumulationRule) : Json :=
  .obj ([("required", .int rule.required.toNat), ("unit", .str rule.unit.name),
      ("mode", .str rule.mode.name)] ++
    Json.optional "window" (fun w => .int w.toNat) rule.window)

def fieldNames : List String := ["required", "unit", "mode", "window"]

def ofJson? (json : Json) : Option AccumulationRule := do
  let fields ← json.fields? fieldNames
  let required ← fields.required "required" (Json.toNat? 32)
  let unit ← fields.required "unit" TimeUnit.ofJson?
  let mode ← fields.required "mode" AccumulationMode.ofJson?
  let window ← fields.optional "window" (Json.toNat? 32)
  return { required := .ofNat required, unit, mode, window := window.map .ofNat }

end AccumulationRule

end AdMonitor
