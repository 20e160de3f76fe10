import AdMonitor.Accumulation.Tracker
import AdMonitor.Entity
import AdMonitor.NamePair
import AdMonitor.Trigger

/-!
# Targets and their state

A target is what an agent evaluates as one: a single entity, or all entities
of its scope together.  Its state is stored under the agent and the key of the
target.
-/

namespace AdMonitor

abbrev AgentId := String
abbrev TargetKey := String

/-- Numbers of the slots of the schedule, counted from the start of 1970. -/
abbrev TickNumber := Nat

namespace TargetKey

def aggregate : TargetKey := "__aggregate__"

def isAggregate (key : TargetKey) : Bool := key == aggregate

end TargetKey

inductive Target where
  | aggregate (members : List Entity)
  | entity (id : EntityId)
  deriving Repr, DecidableEq

namespace Target

def key : Target → TargetKey
  | .aggregate _ => TargetKey.aggregate
  | .entity id => id

def isAggregate : Target → Bool
  | .aggregate _ => true
  | .entity _ => false

def toJson (target : Target) : Json :=
  .obj [("key", .str target.key),
    ("selection",
      match target with
      | .aggregate members =>
          .obj [("kind", .str "aggregate"), ("members", .arr (members.map Entity.toJson))]
      | .entity id => .obj [("kind", .str "entity"), ("entity_id", .str id)])]

end Target

structure StateKey where
  agent : AgentId
  target : TargetKey
  deriving Repr, DecidableEq

namespace StateKey

def toPair (key : StateKey) : String × String := (key.agent, key.target)

def write (key : StateKey) : String := key.agent ++ "/" ++ key.target

def toJson (key : StateKey) : Json :=
  .obj [("agent_id", .str key.agent), ("target", .str key.target)]

/-- Keys are ordered by agent, then by target. -/
instance : Ord StateKey where
  compare a b := compareNames a.toPair b.toPair

instance : Std.TransOrd StateKey where
  eq_swap {a b} := @Std.OrientedCmp.eq_swap _ compareNames _ a.toPair b.toPair
  isLE_trans {a b c} :=
    @Std.TransCmp.isLE_trans _ compareNames _ a.toPair b.toPair c.toPair

instance : Std.LawfulEqOrd StateKey where
  compare_self {a} := @Std.ReflCmp.compare_self _ compareNames _ a.toPair
  eq_of_compare := by
    intro a b same
    have pairs : a.toPair = b.toPair := @Std.LawfulEqCmp.eq_of_compare _ compareNames _ _ _ same
    cases a
    cases b
    simpa [toPair] using pairs

end StateKey

structure TargetState where
  progress : Progress
  firings : Firings
  /-- The latest tick that evaluated the target. -/
  lastTick : Option TickNumber
  updatedAt : Instant
  deriving Repr, DecidableEq

namespace TargetState

/-- Whether a tick is not newer than the latest evaluation. -/
def isStale (state : TargetState) (tick : TickNumber) : Bool :=
  match state.lastTick with
  | none => false
  | some last => tick ≤ last

def toJson (state : TargetState) : Json :=
  .obj [("accumulation", state.progress.toJson), ("trigger", state.firings.toJson),
    ("last_tick", .ofOption (fun (n : Nat) => .int n) state.lastTick),
    ("updated_at", state.updatedAt.toJson)]

def ofJson? (json : Json) : Option TargetState := do
  let fields ← json.fields? ["accumulation", "trigger", "last_tick", "updated_at"]
  let progress ← fields.required "accumulation" Progress.ofJson?
  let firings ← fields.required "trigger" Firings.ofJson?
  let lastTick ← fields.optional "last_tick" (Json.toNat? 64)
  let updatedAt ← fields.required "updated_at" Instant.ofJson?
  return { progress, firings, lastTick, updatedAt }

end TargetState

end AdMonitor
