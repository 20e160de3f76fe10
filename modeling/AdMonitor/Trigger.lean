import AdMonitor.Json.Decoder
import AdMonitor.Instant.Reader
import AdMonitor.Instant.Writer

/-!
# Triggers

A trigger turns "the condition has held long enough" into "act now", so that a
condition that keeps holding does not act again and again.
-/

namespace AdMonitor

namespace Instant

def toJson (t : Instant) : Json := .str t.write

def ofJson? : Json → Option Instant
  | .str text => read? text
  | _ => none

end Instant

inductive TriggerMode where
  | once | cooldown | continuous
  deriving Repr, DecidableEq

namespace TriggerMode

def name : TriggerMode → String
  | .once => "once"
  | .cooldown => "cooldown"
  | .continuous => "continuous"

def all : List TriggerMode := [.once, .cooldown, .continuous]

def ofJson? (json : Json) : Option TriggerMode := do
  let word ← json.toWord?
  all.find? (fun m => m.name == word)

end TriggerMode

structure TriggerRule where
  mode : TriggerMode
  cooldownMinutes : UInt32
  deriving Repr, DecidableEq

namespace TriggerRule

def toJson (rule : TriggerRule) : Json :=
  .obj [("mode", .str rule.mode.name), ("cooldown_minutes", .int rule.cooldownMinutes.toNat)]

def ofJson? (json : Json) : Option TriggerRule := do
  let fields ← json.fields? ["mode", "cooldown_minutes"]
  let mode ← fields.required "mode" TriggerMode.ofJson?
  let minutes ← fields.withDefault "cooldown_minutes" 0 (Json.toNat? 32)
  return { mode, cooldownMinutes := .ofNat minutes }

def cooldown (rule : TriggerRule) : Nanoseconds :=
  rule.cooldownMinutes.toNat * 60 * Instant.nanosPerSecond

end TriggerRule

structure Firings where
  firedOnce : Bool
  lastFiredAt : Option Instant
  count : UInt64
  deriving Repr, DecidableEq

namespace Firings

def none : Firings := ⟨false, .none, 0⟩

/-- One more firing; the count stops at its greatest value. -/
def add (firings : Firings) (now : Instant) : Firings :=
  { firedOnce := true
    lastFiredAt := some now
    count := if firings.count = .ofNat (UInt64.size - 1) then firings.count
      else firings.count + 1 }

def toJson (firings : Firings) : Json :=
  .obj [("fired_once", .bool firings.firedOnce),
    ("last_fired_at", .ofOption Instant.toJson firings.lastFiredAt),
    ("fire_count", .int firings.count.toNat)]

def ofJson? (json : Json) : Option Firings := do
  let fields ← json.fields? ["fired_once", "last_fired_at", "fire_count"]
  let firedOnce ← fields.required "fired_once" Json.toBool?
  let lastFiredAt ← fields.optional "last_fired_at" Instant.ofJson?
  let count ← fields.required "fire_count" (Json.toNat? 64)
  return { firedOnce, lastFiredAt, count := .ofNat count }

end Firings

inductive Suppression where
  | alreadyFired
  | coolingDown (secondsLeft : Nat)
  deriving Repr, DecidableEq

def Suppression.message : Suppression → String
  | .alreadyFired => "already fired once"
  | .coolingDown seconds => "cooldown active, " ++ toString seconds ++ "s remaining"

inductive Decision where
  | fire
  | notSatisfied
  | suppressed (why : Suppression)
  deriving Repr, DecidableEq

namespace Decision

def fires : Decision → Bool
  | .fire => true
  | _ => false

def toJson : Decision → Json
  | .fire => .obj [("decision", .str "fire")]
  | .notSatisfied => .obj [("decision", .str "not_satisfied")]
  | .suppressed why =>
      .obj [("decision", .str "suppressed"), ("reason", .str why.message)]

end Decision

namespace TriggerRule

/-- Whole seconds of a positive remainder, at least one. -/
def secondsLeft (remaining : Nanoseconds) : Nat :=
  max (remaining / Instant.nanosPerSecond).toNat 1

def withhold? (rule : TriggerRule) (firings : Firings) (now : Instant) :
    Option Suppression :=
  match rule.mode with
  | .continuous => none
  | .once => if firings.firedOnce then some .alreadyFired else none
  | .cooldown =>
      match firings.lastFiredAt with
      | none => none
      | some last =>
          let elapsed := now.since last
          if rule.cooldown ≤ elapsed then none
          else some (.coolingDown (secondsLeft (rule.cooldown - elapsed)))

/-- Whether to fire now; what is remembered changes only by firing. -/
def step (rule : TriggerRule) (firings : Firings) (satisfied : Bool) (now : Instant) :
    Firings × Decision :=
  if satisfied then
    match rule.withhold? firings now with
    | some why => (firings, .suppressed why)
    | none => (firings.add now, .fire)
  else (firings, .notSatisfied)

end TriggerRule

end AdMonitor
