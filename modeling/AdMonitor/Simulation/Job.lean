import AdMonitor.Simulation.World
import AdMonitor.Tick.Run

/-!
# Simulated jobs

A job is a program with the stage of the call that it stands before.  Polling a
job carries it as far as it comes without waiting.
-/

namespace AdMonitor

/-- A time to wait for; timers that are due together go off in the order they were set. -/
structure Timer where
  due : Nat
  order : Nat
  deriving Repr, DecidableEq

/-- One of several fetches that are under way at the same time. -/
inductive Fetch where
  | waiting (timer : Option Timer) (limit : Timer)
  | lagging (timer limit : Timer) (found : Option Snapshot)
  | arrived (reply : Reply (Option Snapshot))

inductive Stage where
  /-- Not begun; jobs that start together take their turns in order. -/
  | fresh (order : Nat)
  /-- Waiting for a timer, or for ever, within a limit if there is one. -/
  | waiting (timer : Option Timer) (limit : Option Timer)
  | queued (lock : LockId) (ticket : Ticket)
  | fetching (fetches : List Fetch)

/-- What a call has come to: its answer, or a stage where it waits. -/
inductive Progression (α : Type) where
  | answered (answer : α)
  | waits (stage : Stage)

namespace Timer

def isDue (timer : Timer) (time : Nat) : Bool := timer.due ≤ time

end Timer

def isDueAt (timer : Option Timer) (time : Nat) : Bool :=
  match timer with
  | some timer => timer.isDue time
  | none => false

namespace World

def setTimer (world : World) (span : Span) : Timer × World :=
  let (order, world) := world.nextSerial
  (⟨world.time + span.millis, order⟩, world)

/-- The timer that a disturbed call waits for first; none if it hangs. -/
def setDelay (world : World) (disturbance : Disturbance) : Option Timer × World :=
  if disturbance.hangs then (none, world)
  else
    let (timer, world) := world.setTimer disturbance.delay
    (some timer, world)

/-- A call without a time limit, which `perform` answers after its delay. -/
def unlimited {α : Type} (world : World) (disturbance : Disturbance) (stage : Stage)
    (perform : World → α × World) : Progression α × World :=
  let proceed (timer : Option Timer) (world : World) : Progression α × World :=
    if isDueAt timer world.time then
      let (answer, world) := perform world
      (.answered answer, world)
    else (.waits (.waiting timer none), world)
  match stage with
  | .waiting timer _ => proceed timer world
  | _ =>
      let (timer, world) := world.setDelay disturbance
      proceed timer world

/-- A call with a time limit; an answer that comes just in time counts. -/
def limited {α : Type} (world : World) (disturbance : Disturbance) (limit : Span)
    (stage : Stage) (perform : World → Except Failure α × World) :
    Progression (Reply α) × World :=
  let proceed (timer limit : Option Timer) (world : World) : Progression (Reply α) × World :=
    if isDueAt timer world.time then
      let (answer, world) := perform world
      (.answered (.answered answer), world)
    else if isDueAt limit world.time then (.answered .timedOut, world)
    else (.waits (.waiting timer limit), world)
  match stage with
  | .waiting timer limit => proceed timer limit world
  | _ =>
      let (timer, world) := world.setDelay disturbance
      let (limit, world) := world.setTimer limit
      proceed timer (some limit) world

def unlessFailed {α : Type} (disturbance : Disturbance)
    (perform : World → Except Failure α × World) (world : World) :
    Except Failure α × World :=
  match disturbance.failure with
  | some failure => (.error failure, world)
  | none => perform world

/-- Read metrics; after that there may be a lag before they arrive. -/
def readSnapshot (world : World) (disturbance : Disturbance) (limit : Timer)
    (key : EntityKey) (names : NameSet) : Fetch × World :=
  match disturbance.failure with
  | some failure => (.arrived (.answered (.error failure)), world)
  | none =>
      let found := world.account.snapshot? key names
      if disturbance.lag.millis = 0 then (.arrived (.answered (.ok found)), world)
      else
        let (timer, world) := world.setTimer disturbance.lag
        if limit.isDue world.time then (.arrived .timedOut, world)
        else (.lagging timer limit found, world)

def pollFetch (world : World) (disturbance : Disturbance) (key : EntityKey)
    (names : NameSet) : Fetch → Fetch × World
  | .arrived reply => (.arrived reply, world)
  | .lagging timer limit found =>
      if timer.isDue world.time then (.arrived (.answered (.ok found)), world)
      else if limit.isDue world.time then (.arrived .timedOut, world)
      else (.lagging timer limit found, world)
  | .waiting timer limit =>
      if isDueAt timer world.time then world.readSnapshot disturbance limit key names
      else if limit.isDue world.time then (.arrived .timedOut, world)
      else (.waiting timer limit, world)

def fetchDisturbance (world : World) (key : EntityKey) (names : NameSet) : Disturbance :=
  world.script.disturbance (MetricsQuery.snapshot key names).label

def pollFetches (workspace : WorkspaceId) (limit : Span) (names : NameSet) :
    List EntityId → List Fetch → World → List Fetch × World
  | [], _, world => ([], world)
  | id :: ids, fetches, world =>
      let key : EntityKey := ⟨workspace, id⟩
      let disturbance := world.fetchDisturbance key names
      let (fetch, world) :=
        match fetches with
        | fetch :: _ => (fetch, world)
        | [] =>
            let (timer, world) := world.setDelay disturbance
            let (limit, world) := world.setTimer limit
            (Fetch.waiting timer limit, world)
      let (fetch, world) := world.pollFetch disturbance key names fetch
      let (others, world) := pollFetches workspace limit names ids fetches.tail world
      (fetch :: others, world)

/-- The reply of a fetch; one that is missing counts as late. -/
def replyOf : Option Fetch → Reply (Option Snapshot)
  | some (.arrived reply) => reply
  | _ => .timedOut

def hasArrived : Fetch → Bool
  | .arrived _ => true
  | _ => false

/-- Fetch the metrics of several entities; the slowest one decides when they are there. -/
def snapshots (world : World) (limit : Span) (workspace : WorkspaceId) (ids : List EntityId)
    (names : NameSet) (stage : Stage) :
    Progression { replies : List (Reply (Option Snapshot)) // replies.length = ids.length } ×
      World :=
  let before := match stage with
    | .fetching fetches => fetches
    | _ => []
  let (fetches, world) := pollFetches workspace limit names ids before world
  if fetches.all hasArrived then
    (.answered ⟨(List.range ids.length).map fun i => replyOf fetches[i]?, by simp⟩, world)
  else (.waits (.fetching fetches), world)

def acquire (world : World) (lock : LockId) (stage : Stage) : Progression Unit × World :=
  let proceed (ticket : Ticket) (world : World) : Progression Unit × World :=
    if world.locks.isHeldBy lock ticket then (.answered (), world)
    else (.waits (.queued lock ticket), world)
  match stage with
  | .queued _ ticket => proceed ticket world
  | _ =>
      let (ticket, world) := world.nextSerial
      proceed ticket { world with locks := world.locks.enter lock ticket }

def lock (world : World) (stage : Stage) :
    (query : LockQuery) → Progression query.Answer × World
  | .find name =>
      let (lock, locks) := world.locks.find name
      (.answered lock, { world with locks })
  | .acquire lock => world.acquire lock stage
  | .release lock =>
      let (order, world) := world.nextSerial
      (.answered (), { world with locks := world.locks.release lock order })
  | .forget agent keep => (.answered (), { world with locks := world.locks.forget agent keep })

def sleep (world : World) (span : Span) (stage : Stage) : Progression Unit × World :=
  world.unlimited { Disturbance.none with delay := span } stage fun world => ((), world)

/-- Begin a call to the ad platform; what it asks for is noted first. -/
def platform (world : World) (limit : Span) (query : PlatformQuery) (stage : Stage) :
    Progression (Reply query.Answer) × World :=
  let disturbance := world.script.disturbance query.label
  let world := match stage with
    | .fresh _ => world.noteChange query
    | _ => world
  world.limited disturbance limit stage
    (unlessFailed disturbance fun world => world.answerPlatform query)

def attempt [UrlParser] (world : World) (stage : Stage) :
    (call : Call) → Progression call.Answer × World
  | .metrics limit query =>
      let disturbance := world.script.disturbance query.label
      world.limited disturbance limit stage
        (unlessFailed disturbance fun world => (.ok (world.answerMetrics query), world))
  | .snapshots limit workspace ids names =>
      world.snapshots limit workspace ids names stage
  | .platform limit query => world.platform limit query stage
  | .enqueue limit workspace payload =>
      let disturbance := world.script.disturbance ⟨"enqueue", some workspace⟩
      world.limited disturbance limit stage
        (unlessFailed disturbance fun world => (.ok (), world.notify workspace payload))
  | .post limit url payload =>
      let (outcome, world) := world.post limit url payload
      (.answered outcome, world)
  | .agents query =>
      let disturbance := world.script.disturbance query.label
      world.unlimited disturbance stage
        (unlessFailed disturbance fun world => world.answerAgents query)
  | .states query =>
      let disturbance := world.script.disturbance query.label
      world.unlimited disturbance stage
        (unlessFailed disturbance fun world =>
          let (answer, world) := world.answerStates query
          (.ok answer, world))
  | .lock query => world.lock stage query
  | .publish event => (.answered (), { world with bus := world.bus.publish event })
  | .sleep span => world.sleep span stage
  | .jitter _ => (.answered ⟨0, Nat.succ_pos _⟩, world)
  | .clock => (.answered world.now, world)

end World

/-- A program, and how far its first call has come. -/
structure Job (α : Type) where
  program : Program α
  stage : Stage

namespace Job

variable {α : Type}

def ofProgram (program : Program α) : Job α := ⟨program, .fresh 0⟩

def value? (job : Job α) : Option α := job.program.value?

instance : Running Job where
  start := ofProgram
  value? := value?

/-- Run a program, whose first call is at a stage, until it ends or waits. -/
def pollProgram [UrlParser] : Program α → Stage → World → Job α × World
  | .done value, stage, world => (⟨.done value, stage⟩, world)
  | .call request next, stage, world =>
      match world.attempt stage request with
      | (.answered answer, world) => pollProgram (next answer) (.fresh 0) world
      | (.waits stage, world) => (⟨.call request next, stage⟩, world)

def poll [UrlParser] (job : Job α) (world : World) : Job α × World :=
  pollProgram job.program job.stage world

def stage? (job : Job α) : Option Stage :=
  match job.program with
  | .done _ => none
  | .call .. => some job.stage

end Job

end AdMonitor
