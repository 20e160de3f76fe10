import AdMonitor.Simulation.Job

/-!
# Running simulations

The runner polls whatever can go on, in a fixed order, and moves the clock to
the next timer when nothing can.  Ticks take their turns in the order in which
they were started, the agents of a tick in the order in which they were woken,
and the targets of an agent in the order of its scope.
-/

namespace AdMonitor

/-- When a job was woken: at this moment timers come first, then locks and new jobs. -/
structure WakeTime where
  rank : Nat
  order : Nat
  deriving Repr, DecidableEq

namespace WakeTime

def before (s t : WakeTime) : Bool :=
  s.rank < t.rank || (s.rank == t.rank && s.order < t.order)

def earlier (s t : WakeTime) : WakeTime := if t.before s then t else s

def earliest? : List WakeTime → Option WakeTime
  | [] => none
  | t :: rest => some (rest.foldl earlier t)

def ofTimer (timer : Timer) : WakeTime := ⟨0, timer.order⟩

end WakeTime

namespace Fetch

def timers : Fetch → List Timer
  | .waiting timer limit => timer.toList ++ [limit]
  | .lagging timer limit _ => [timer, limit]
  | .arrived _ => []

end Fetch

namespace Stage

def timers : Stage → List Timer
  | .fresh _ | .queued .. => []
  | .waiting timer limit => timer.toList ++ limit.toList
  | .fetching fetches => fetches.flatMap Fetch.timers

def wakeTime? (world : World) : Stage → Option WakeTime
  | .fresh order => some ⟨1, order⟩
  | .queued lock ticket =>
      if world.locks.isHeldBy lock ticket then some ⟨1, world.locks.grantOrder lock⟩ else none
  | stage =>
      WakeTime.earliest? ((stage.timers.filter fun t => t.isDue world.time).map .ofTimer)

end Stage

namespace AgentRun

def stages (run : AgentRun Job) : List Stage :=
  match run.phase with
  | .opening job => [job.stage]
  | .visiting _ visits => visits.filterMap Job.stage?
  | .closing _ job => [job.stage]
  | .closed _ => []

def wakeTime? (world : World) (run : AgentRun Job) : Option WakeTime :=
  WakeTime.earliest? (run.stages.filterMap fun stage => stage.wakeTime? world)

/-- Give a turn in the order of waking to an agent that has just been started. -/
def stamp (order : Nat) (run : AgentRun Job) : AgentRun Job :=
  match run.phase with
  | .opening ⟨program, .fresh 0⟩ => { run with phase := .opening ⟨program, .fresh order⟩ }
  | _ => run

def pollClosing [UrlParser] (settings : Settings) (slot : Slot) (run : AgentRun Job)
    (world : World) : AgentRun Job × World :=
  match run.phase with
  | .closing reports job =>
      let (job, world) := job.poll world
      (settle settings slot { run with phase := .closing reports job }, world)
  | _ => (run, world)

def pollAll [UrlParser] {α : Type} : List (Job α) → World → List (Job α) × World
  | [], world => ([], world)
  | job :: rest, world =>
      let (job, world) := job.poll world
      let (rest, world) := pollAll rest world
      (job :: rest, world)

def pollVisits [UrlParser] (settings : Settings) (slot : Slot) (run : AgentRun Job)
    (world : World) : AgentRun Job × World :=
  match run.phase with
  | .visiting targets visits =>
      let (visits, world) := pollAll visits world
      pollClosing settings slot
        (settle settings slot { run with phase := .visiting targets visits }) world
  | _ => pollClosing settings slot run world

def poll [UrlParser] (settings : Settings) (slot : Slot) (run : AgentRun Job) (world : World) :
    AgentRun Job × World :=
  match run.phase with
  | .opening job =>
      let (job, world) := job.poll world
      pollVisits settings slot (settle settings slot { run with phase := .opening job }) world
  | _ => pollVisits settings slot run world

end AgentRun

namespace Pool

/-- The position of the agent that was woken first. -/
def next? (world : World) (pool : Pool Job) : Option Nat :=
  let woken := pool.running.zipIdx.filterMap fun (run, i) =>
    (run.wakeTime? world).map fun time => (time, i)
  match woken with
  | [] => none
  | first :: rest =>
      some (rest.foldl (fun best e => if e.1.before best.1 then e else best) first).2

def stamp (pool : Pool Job) (world : World) : Pool Job × World :=
  let running := pool.running.zipIdx.map fun (run, i) => run.stamp (world.serial + i + 1)
  ({ pool with running }, { world with serial := world.serial + pool.running.length + 1 })

/--
Poll agents in the order of waking.  When every one of them has had a turn
without any ending, others get theirs before the next round.
-/
def poll [UrlParser] (settings : Settings) (slot : Slot) (fuel turns : Nat) (pool : Pool Job)
    (world : World) : Pool Job × World :=
  match fuel with
  | 0 => (pool, world)
  | fuel + 1 =>
      match pool.next? world with
      | none => (pool, world)
      | some i =>
          match pool.running[i]? with
          | none => (pool, world)
          | some run =>
              let (run, world) := run.poll settings slot world
              match run.outcome? with
              | none =>
                  let pool := { pool with running := pool.running.set i run }
                  if turns + 1 = pool.running.length then (pool, world)
                  else poll settings slot fuel (turns + 1) pool world
              | some outcome =>
                  let (pool, world) := (pool.retire settings slot i outcome).stamp world
                  poll settings slot fuel 0 pool world

/-- Every agent has at most one turn before another one ends. -/
def turns (pool : Pool Job) : Nat :=
  let agents := pool.running.length + pool.waiting.length + 1
  agents * agents

end Pool

namespace TickRun

def stages (run : TickRun Job) : List Stage :=
  match run.phase with
  | .opening job => [job.stage]
  | .working pool => pool.running.flatMap AgentRun.stages
  | .closing job => [job.stage]
  | .closed _ => []

def pollClosing [UrlParser] (settings : Settings) (run : TickRun Job) (world : World) :
    TickRun Job × World :=
  match run.phase with
  | .closing job =>
      let (job, world) := job.poll world
      (settle settings { run with phase := .closing job }, world)
  | _ => (run, world)

def pollAgents [UrlParser] (settings : Settings) (run : TickRun Job) (world : World) :
    TickRun Job × World :=
  match run.phase with
  | .working pool =>
      let (pool, world) := pool.stamp world
      let (pool, world) := pool.poll settings run.slot pool.turns 0 world
      pollClosing settings (settle settings { run with phase := .working pool }) world
  | _ => pollClosing settings run world

def poll [UrlParser] (settings : Settings) (run : TickRun Job) (world : World) :
    TickRun Job × World :=
  match run.phase with
  | .opening job =>
      let (job, world) := job.poll world
      pollAgents settings (settle settings { run with phase := .opening job }) world
  | _ => pollAgents settings run world

end TickRun

structure Appointment where
  start : Nat
  run : TickRun Job

namespace World

def nextTime? (world : World) (times : List Nat) : Option Nat :=
  (times.filter fun t => world.time < t).min?

def moveTo (world : World) (time : Nat) : World := { world with time }

def patience : Nat := 1000000

/-- Run a program on its own; `none` if it waits for ever. -/
def finish [UrlParser] {α : Type} (fuel : Nat) (job : Job α) (world : World) : Option α × World :=
  match fuel with
  | 0 => (none, world)
  | fuel + 1 =>
      let (job, world) := job.poll world
      match job.value? with
      | some value => (some value, world)
      | none =>
          match job.stage?.bind fun stage => world.nextTime? (stage.timers.map Timer.due) with
          | none => (none, world)
          | some time => finish fuel job (world.moveTo time)

def run [UrlParser] {α : Type} (world : World) (program : Program α) : Option α × World :=
  finish patience (.ofProgram program) world

def pollTicks [UrlParser] (settings : Settings) :
    List Appointment → World → List Appointment × World
  | [], world => ([], world)
  | appointment :: rest, world =>
      let (run, world) :=
        if appointment.start ≤ world.time then appointment.run.poll settings world
        else (appointment.run, world)
      let (rest, world) := pollTicks settings rest world
      ({ appointment with run } :: rest, world)

def canContinue (world : World) (appointment : Appointment) : Bool :=
  appointment.start ≤ world.time &&
    appointment.run.stages.any fun stage => (stage.wakeTime? world).isSome

def laterTimes (world : World) (appointment : Appointment) : List Nat :=
  if appointment.start ≤ world.time then
    appointment.run.stages.flatMap fun stage => stage.timers.map Timer.due
  else [appointment.start]

def finishTicks [UrlParser] (settings : Settings) (fuel : Nat) (appointments : List Appointment)
    (world : World) : List Appointment × World :=
  match fuel with
  | 0 => (appointments, world)
  | fuel + 1 =>
      let (appointments, world) := pollTicks settings appointments world
      if appointments.any fun a => world.canContinue a then
        finishTicks settings fuel appointments world
      else
        match world.nextTime? (appointments.flatMap fun a => world.laterTimes a) with
        | none => (appointments, world)
        | some time => finishTicks settings fuel appointments (world.moveTo time)

/--
Run ticks, each of which has a time of its own to start; the reports of those
that end.  There are none when a count overflows, for then the process ends.
-/
def runTicks [UrlParser] (world : World) (settings : Settings) (starts : List (Nat × Slot)) :
    Option (List TickReport × World) :=
  let appointments := starts.map fun (start, slot) => ⟨start, .start slot⟩
  let (appointments, world) := finishTicks settings patience appointments world
  if appointments.any fun a => a.run.hasOverflowed then none
  else some (appointments.filterMap fun a => a.run.report?, world)

def runTicksNow [UrlParser] (world : World) (settings : Settings) (slots : List Slot) :
    Option (List TickReport × World) :=
  world.runTicks settings (slots.map fun slot => (world.time, slot))

/--
Run a tick at once and one after each of some intervals.  The time of day
stands still meanwhile, so all of them are in one slot.
-/
def runSchedule [UrlParser] (world : World) (settings : Settings) (intervals : Nat) :
    Option (List TickReport × World) :=
  let slot := settings.slot world.now
  world.runTicks settings ((List.range (intervals + 1)).map fun i =>
    (world.time + i * settings.tickInterval.millis, slot))

end World

end AdMonitor
