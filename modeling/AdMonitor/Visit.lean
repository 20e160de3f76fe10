import AdMonitor.Action.Execution

/-!
# Visits

A visit evaluates one target in one tick.  Under the lock of the target it
loads the state, reads the metrics, takes one step of accumulation and
trigger, saves the new state and only then runs actions.  A visit whose count
overflows comes to no report, and nor does its tick.
-/

namespace AdMonitor

inductive TargetStatus where
  | fired (count : UInt64)
  | notSatisfied
  | suppressed (why : Suppression)
  /-- The condition could not be decided. -/
  | indeterminate (metric : String)
  /-- There are no data, or the tick is not new. -/
  | skipped (reason : String)
  /-- The state could not be loaded or saved, and no action was run. -/
  | stateError (reason : String)
  deriving Repr, DecidableEq

namespace TargetStatus

def isFired : TargetStatus → Bool
  | .fired _ => true
  | _ => false

def isSkipped : TargetStatus → Bool
  | .skipped _ | .stateError _ => true
  | _ => false

def ofOutcome (verdict : Verdict) (decision : Decision) (count : UInt64) : TargetStatus :=
  match decision, verdict with
  | .fire, _ => .fired count
  | _, .unknown metric => .indeterminate metric
  | .suppressed why, _ => .suppressed why
  | .notSatisfied, _ => .notSatisfied

def toJson : TargetStatus → Json
  | .fired count => .obj [("status", .str "fired"), ("fire_count", .int count.toNat)]
  | .notSatisfied => .obj [("status", .str "not_satisfied")]
  | .suppressed why => .obj [("status", .str "suppressed"), ("reason", .str why.message)]
  | .indeterminate metric => .obj [("status", .str "indeterminate"), ("metric", .str metric)]
  | .skipped reason => .obj [("status", .str "skipped"), ("reason", .str reason)]
  | .stateError reason => .obj [("status", .str "state_error"), ("reason", .str reason)]

end TargetStatus

structure TargetReport where
  key : StateKey
  status : TargetStatus
  actions : List ActionRecord

namespace TargetReport

def toJson (report : TargetReport) : Json :=
  .obj ([("agent_id", .str report.key.agent), ("target", .str report.key.target),
      ("status", report.status.toJson)] ++
    (match report.actions with
      | [] => []
      | actions => [("actions", .arr (actions.map ActionRecord.toJson))]))

end TargetReport

structure Slot where
  tick : TickNumber
  now : Instant
  deriving Repr, DecidableEq

/-- The slot of a time; times before 1970 are in the first one. -/
def Settings.slot (settings : Settings) (now : Instant) : Slot :=
  ⟨now.seconds.toNat / (max settings.tickMinutes.toNat 1 * 60), now⟩

structure Visit where
  settings : Settings
  slot : Slot
  agent : Agent
  target : Target

namespace Visit

def key (visit : Visit) : StateKey := ⟨visit.agent.id, visit.target.key⟩

def tracker (visit : Visit) : Tracker :=
  .ofRule visit.agent.accumulation visit.settings.tickMinutes

def freshState (visit : Visit) : TargetState :=
  ⟨visit.tracker.initial, .none, none, visit.slot.now⟩

/-- What a visit finds out about a reading, and the state to save. -/
structure Step where
  verdict : Verdict
  satisfied : Bool
  decision : Decision
  state : TargetState

/-- One step of accumulation and trigger from a state, unless the count overflows. -/
def step (visit : Visit) (state : TargetState) (snapshot : Snapshot) : Option Step := do
  let verdict := visit.agent.condition.evaluate snapshot
  let (progress, satisfied) ← visit.tracker.step state.progress verdict
  let (firings, decision) :=
    visit.agent.trigger.step state.firings satisfied visit.slot.now
  return ⟨verdict, satisfied, decision,
    { progress, firings, lastTick := some visit.slot.tick, updatedAt := visit.slot.now }⟩

def skip (visit : Visit) (status : TargetStatus) (reason : String) :
    Program (Option TargetReport) := do
  Program.publish (.targetSkipped visit.slot.tick visit.key reason)
  return some ⟨visit.key, status, []⟩

def firing (visit : Visit) (snapshot : Snapshot) (members : List Member) (count : UInt64) :
    Firing :=
  { agent := visit.agent
    target := visit.target
    snapshot, members
    reason := (visit.agent.condition.explain snapshot).summary
    firedAt := visit.slot.now
    count }

def announce (visit : Visit) : List ActionRecord → Program Unit
  | [] => return ()
  | record :: rest => do
      Program.publish (.actionCompleted visit.slot.tick visit.key record)
      announce visit rest

def fire (visit : Visit) (firing : Firing) : Program (List ActionRecord) := do
  Program.publish (.targetFired visit.slot.tick visit.key firing.count)
  let records ← firing.run visit.settings.execution
  visit.announce records
  return records

def finish (visit : Visit) (step : Step) (snapshot : Snapshot) (members : List Member) :
    Program (Option TargetReport) := do
  match ← Program.ask (.states (.put visit.key step.state)) with
  | .error failure =>
      let reason := "failed to persist state: " ++ failure.message
      visit.skip (.stateError reason) reason
  | .ok () =>
      let count := step.state.firings.count
      Program.publish
        (.targetEvaluated visit.slot.tick visit.key step.verdict step.satisfied step.decision)
      let actions ←
        if step.decision.fires then visit.fire (visit.firing snapshot members count)
        else pure []
      return some ⟨visit.key, .ofOutcome step.verdict step.decision count, actions⟩

def advance (visit : Visit) (state : TargetState) : Program (Option TargetReport) := do
  match ← visit.agent.read visit.settings.fetchLimit visit.target with
  | .unavailable reason => visit.skip (.skipped reason) reason
  | .available snapshot members =>
      match visit.step state snapshot with
      | none => return none
      | some step => visit.finish step snapshot members

/-- The part of a visit that happens under the lock of the target. -/
def underLock (visit : Visit) : Program (Option TargetReport) := do
  match ← Program.ask (.states (.get visit.key)) with
  | .error failure =>
      let reason := "failed to load state: " ++ failure.message
      visit.skip (.stateError reason) reason
  | .ok stored =>
      let state := stored.getD visit.freshState
      if state.isStale visit.slot.tick then
        let reason := "tick " ++ toString visit.slot.tick ++ " already evaluated"
        visit.skip (.skipped reason) reason
      else visit.advance state

/-- A whole visit; there is no report when its count overflows. -/
def run (visit : Visit) : Program (Option TargetReport) :=
  Program.withLock (.target visit.key) visit.underLock

end Visit

end AdMonitor
