import AdMonitor.Visit

/-!
# Ticks

A tick loads the active agents and works on them, several at a time.  An agent
is checked and resolved, all its targets are visited at the same time, and
afterwards the states it no longer uses are collected.  A tick ends by
collecting the states of agents that no longer exist.
-/

namespace AdMonitor

structure AgentFailure where
  agent : AgentId
  error : String
  deriving Repr, DecidableEq

structure AgentOutcome where
  targets : List TargetReport
  failure : Option AgentFailure
  /-- The number of states that were collected. -/
  collected : Nat

/-- What a tick did; targets and failures are in order. -/
structure TickReport where
  tick : TickNumber
  startedAt : Instant
  finishedAt : Instant
  targets : List TargetReport
  failures : List AgentFailure
  collected : Nat

namespace TickReport

def fired (report : TickReport) : Nat :=
  report.targets.countP fun t => t.status.isFired

def skipped (report : TickReport) : Nat :=
  report.targets.countP fun t => t.status.isSkipped

def evaluated (report : TickReport) : Nat :=
  report.targets.length - report.skipped

def target? (report : TickReport) (key : StateKey) : Option TargetReport :=
  report.targets.find? fun t => t.key == key

def toJson (report : TickReport) : Json :=
  .obj [("tick", .int report.tick), ("started_at", report.startedAt.toJson),
    ("finished_at", report.finishedAt.toJson),
    ("targets", .arr (report.targets.map TargetReport.toJson)),
    ("agent_failures", .arr (report.failures.map fun failure =>
      .obj [("agent_id", .str failure.agent), ("error", .str failure.error)])),
    ("collected_states", .int report.collected)]

def ofOutcomes (slot : Slot) (startedAt finishedAt : Instant) (outcomes : List AgentOutcome)
    (collected : Nat) : TickReport where
  tick := slot.tick
  startedAt := startedAt
  finishedAt := finishedAt
  targets := (outcomes.flatMap AgentOutcome.targets).mergeSort fun a b =>
    (compare a.key b.key).isLE
  failures := (outcomes.filterMap AgentOutcome.failure).mergeSort fun a b =>
    (compare a.agent b.agent).isLE
  collected := outcomes.foldr (fun outcome total => outcome.collected + total) collected

end TickReport

namespace Slot

def announceCollected (agent : AgentId) (removed : Nat) : Program Unit :=
  Program.publish (.stateCollected agent removed)

def openAgent [UrlParser] (settings : Settings) (slot : Slot) (agent : Agent) :
    Program (Except Failure (List Target)) := do
  let resolved ←
    match agent.validate settings.maxConditionDepth with
    | .error failure => pure (.error failure)
    | .ok () => agent.resolve settings.fetchLimit
  match resolved with
  | .ok targets => return .ok targets
  | .error failure => do
      Program.publish (.agentFailed slot.tick agent.id failure.message)
      return .error failure

/-- Collect the states of targets that an agent no longer has. -/
def collectOrphans (agent : AgentId) (keep : List TargetKey) : Program Nat := do
  match ← Program.ask (.states (.retain agent keep)) with
  | .error _ => return 0
  | .ok 0 => return 0
  | .ok removed => do
      Program.ask (.lock (.forget agent keep))
      announceCollected agent removed
      return removed

def closeAgent (slot : Slot) (agent : Agent) (targets : List Target) : Program Nat := do
  let collected ← collectOrphans agent.id (targets.map Target.key)
  let _ ← Program.ask (.agents (.mark agent.id slot.now))
  return collected

def collectOwners : List AgentId → Program Nat
  | [] => return 0
  | agent :: rest => do
      match ← Program.ask (.states (.remove agent)) with
      | .error _ => collectOwners rest
      | .ok removed => do
          Program.ask (.lock (.forget agent []))
          announceCollected agent removed
          let others ← collectOwners rest
          return removed + others

/-- Collect the states of agents that no longer exist. -/
def collectDeleted : Program Nat := do
  match ← Program.ask (.agents .list) with
  | .error _ => return 0
  | .ok known =>
      match ← Program.ask (.states .owners) with
      | .error _ => return 0
      | .ok owners =>
          collectOwners (owners.filter fun owner => !(known.any fun agent => agent.id == owner))

structure Opening where
  startedAt : Instant
  /-- The active agents, or the report of a tick that could not load them. -/
  agents : Except TickReport (List Agent)

def openTick (slot : Slot) : Program Opening := do
  let startedAt ← Program.clock
  match ← Program.ask (.agents .listActive) with
  | .error failure => do
      let finishedAt ← Program.clock
      return ⟨startedAt, .error {
        tick := slot.tick, startedAt, finishedAt, targets := []
        failures := [⟨"*", failure.message⟩], collected := 0 }⟩
  | .ok agents => do
      Program.publish (.tickStarted slot.tick slot.now agents.length)
      return ⟨startedAt, .ok agents⟩

def closeTick (slot : Slot) (startedAt : Instant) (outcomes : List AgentOutcome) :
    Program TickReport := do
  let collected ← collectDeleted
  let finishedAt ← Program.clock
  let report := TickReport.ofOutcomes slot startedAt finishedAt outcomes collected
  Program.publish (.tickCompleted slot.tick report.evaluated report.fired report.skipped)
  return report

end Slot

end AdMonitor
