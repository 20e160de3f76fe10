import AdMonitor.Tick

/-!
# Ticks under way

A tick under way is a tree of programs that have not ended: one for the tick
before and after its agents, one for each agent before and after its targets,
and one for each visit.  The type of a running program is left open, so that
whoever runs a tick may keep more about a program than what it still has to do.
A tick in which the count of a visit has overflowed never closes: the process
ends there, so its other programs need not go on.
-/

namespace AdMonitor

/-- How running programs are kept. -/
class Running (J : Type → Type) where
  start : {α : Type} → Program α → J α
  /-- The value of a running program that has ended. -/
  value? : {α : Type} → J α → Option α

instance : Running Program where
  start program := program
  value? := Program.value?

inductive AgentPhase (J : Type → Type) where
  | opening (job : J (Except Failure (List Target)))
  | visiting (targets : List Target) (visits : List (J (Option TargetReport)))
  | closing (reports : List TargetReport) (job : J Nat)
  | closed (outcome : AgentOutcome)

structure AgentRun (J : Type → Type) where
  agent : Agent
  phase : AgentPhase J

/-- The agents of a tick: those that are worked on, those that wait, and what others came to. -/
structure Pool (J : Type → Type) where
  startedAt : Instant
  running : List (AgentRun J)
  waiting : List Agent
  /-- In the order in which the agents were done. -/
  outcomes : List AgentOutcome

inductive TickPhase (J : Type → Type) where
  | opening (job : J Slot.Opening)
  | working (pool : Pool J)
  | closing (job : J TickReport)
  | closed (report : TickReport)

structure TickRun (J : Type → Type) where
  slot : Slot
  phase : TickPhase J

variable {J : Type → Type} [Running J]

namespace AgentRun

def start [UrlParser] (settings : Settings) (slot : Slot) (agent : Agent) : AgentRun J :=
  ⟨agent, .opening (Running.start (slot.openAgent settings agent))⟩

/-- Visit the targets that were found, or stop because none could be looked for. -/
def visit (settings : Settings) (slot : Slot) (agent : Agent) :
    Except Failure (List Target) → AgentPhase J
  | .error failure => .closed ⟨[], some ⟨agent.id, failure.message⟩, 0⟩
  | .ok targets =>
      .visiting targets (targets.map fun target =>
        Running.start (Visit.run { settings, slot, agent, target }))

def settle (settings : Settings) (slot : Slot) (run : AgentRun J) : AgentRun J :=
  match run.phase with
  | .opening job =>
      match Running.value? job with
      | none => run
      | some found => { run with phase := visit settings slot run.agent found }
  | .visiting targets visits =>
      match visits.mapM fun visit => (Running.value? visit).join with
      | none => run
      | some reports =>
          { run with phase :=
              .closing reports (Running.start (slot.closeAgent run.agent targets)) }
  | .closing reports job =>
      match Running.value? job with
      | none => run
      | some collected => { run with phase := .closed ⟨reports, none, collected⟩ }
  | .closed _ => run

def hasOverflowed (run : AgentRun J) : Bool :=
  match run.phase with
  | .visiting _ visits => visits.any fun visit => (Running.value? visit).any Option.isNone
  | _ => false

def outcome? (run : AgentRun J) : Option AgentOutcome :=
  match run.phase with
  | .closed outcome => some outcome
  | _ => none

end AgentRun

namespace Pool

def fill [UrlParser] (settings : Settings) (slot : Slot) (pool : Pool J) : Pool J :=
  let room := max settings.maxConcurrentAgents 1 - pool.running.length
  { pool with
    running := pool.running ++ (pool.waiting.take room).map (AgentRun.start settings slot)
    waiting := pool.waiting.drop room }

def start [UrlParser] (settings : Settings) (slot : Slot) (startedAt : Instant)
    (agents : List Agent) : Pool J :=
  fill settings slot ⟨startedAt, [], agents, []⟩

/-- Take the agent at a position out of work, with its outcome, and start the next one. -/
def retire [UrlParser] (settings : Settings) (slot : Slot) (pool : Pool J) (position : Nat)
    (outcome : AgentOutcome) : Pool J :=
  fill settings slot
    { pool with
      running := pool.running.eraseIdx position
      outcomes := pool.outcomes ++ [outcome] }

def isDone (pool : Pool J) : Bool := pool.running.isEmpty && pool.waiting.isEmpty

end Pool

namespace TickRun

def start (slot : Slot) : TickRun J :=
  ⟨slot, .opening (Running.start slot.openTick)⟩

def settle [UrlParser] (settings : Settings) (run : TickRun J) : TickRun J :=
  match run.phase with
  | .opening job =>
      match Running.value? job with
      | none => run
      | some ⟨_, .error report⟩ => { run with phase := .closed report }
      | some ⟨startedAt, .ok agents⟩ =>
          { run with phase := .working (.start settings run.slot startedAt agents) }
  | .working pool =>
      if pool.isDone then
        { run with phase :=
            .closing (Running.start (run.slot.closeTick pool.startedAt pool.outcomes)) }
      else run
  | .closing job =>
      match Running.value? job with
      | none => run
      | some report => { run with phase := .closed report }
  | .closed _ => run

def hasOverflowed (run : TickRun J) : Bool :=
  match run.phase with
  | .working pool => pool.running.any AgentRun.hasOverflowed
  | _ => false

def report? (run : TickRun J) : Option TickReport :=
  match run.phase with
  | .closed report => some report
  | _ => none

end TickRun

end AdMonitor
