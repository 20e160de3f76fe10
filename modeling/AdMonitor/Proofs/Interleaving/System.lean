import AdMonitor.Monitor
import AdMonitor.Proofs.Interleaving.Shared
import AdMonitor.Tick.Run

/-!
# Ticks and requests in any order

A system holds ticks and requests under way and what they share.  A run is a
list of turns: each one begins a tick, lets one program make its next call, or
moves a tick on whose programs have ended.  Nothing restricts the order of the
turns, so a call may take any time, and one that never comes back is a program
that gets no further turn.
-/

namespace AdMonitor

/-- Who makes a call; ticks and requests are known by the order in which they began. -/
inductive Actor where
  | tick (index : Nat)
  | agent (index : Nat) (agent : AgentId)
  | visit (index : Nat) (visit : Visit)
  | request (index : Nat)

structure Entry where
  actor : Actor
  exchange : Exchange

inductive Spot where
  /-- The one before or after the agents. -/
  | tick
  /-- The one before or after the visits of the agent at a position. -/
  | agent (position : Nat)
  | visit (position target : Nat)

variable {outside : Outside}

namespace AgentRun

def proceed (settings : Settings) (slot : Slot) (index : Nat) (shared : Shared outside)
    (reaction : Reaction outside) (run : AgentRun Program) (target : Option Nat) :
    Option (Entry × AgentRun Program × Shared outside) :=
  match run.phase, target with
  | .opening job, none => do
      let (exchange, job, shared) ← shared.proceed reaction job
      return (⟨.agent index run.agent.id, exchange⟩,
        { run with phase := .opening job }, shared)
  | .visiting targets visits, some position => do
      let target ← targets[position]?
      let job ← visits[position]?
      let (exchange, job, shared) ← shared.proceed reaction job
      return (⟨.visit index { settings, slot, agent := run.agent, target }, exchange⟩,
        { run with phase := .visiting targets (visits.set position job) }, shared)
  | .closing reports job, none => do
      let (exchange, job, shared) ← shared.proceed reaction job
      return (⟨.agent index run.agent.id, exchange⟩,
        { run with phase := .closing reports job }, shared)
  | _, _ => none

end AgentRun

namespace TickRun

def proceedAgent (settings : Settings) (index : Nat) (shared : Shared outside)
    (reaction : Reaction outside) (run : TickRun Program) (position : Nat)
    (target : Option Nat) : Option (Entry × TickRun Program × Shared outside) :=
  match run.phase with
  | .working pool => do
      let agent ← pool.running[position]?
      let (entry, agent, shared) ←
        agent.proceed settings run.slot index shared reaction target
      return (entry,
        { run with phase :=
            .working { pool with running := pool.running.set position agent } }, shared)
  | _ => none

def proceed (settings : Settings) (index : Nat) (shared : Shared outside)
    (reaction : Reaction outside) (run : TickRun Program) :
    Spot → Option (Entry × TickRun Program × Shared outside)
  | .agent position => run.proceedAgent settings index shared reaction position none
  | .visit position target =>
      run.proceedAgent settings index shared reaction position (some target)
  | .tick =>
      match run.phase with
      | .opening job => do
          let (exchange, job, shared) ← shared.proceed reaction job
          return (⟨.tick index, exchange⟩, { run with phase := .opening job }, shared)
      | .closing job => do
          let (exchange, job, shared) ← shared.proceed reaction job
          return (⟨.tick index, exchange⟩, { run with phase := .closing job }, shared)
      | _ => none

/-- Move the agent at a position on, and take it out of work when it is done. -/
def settleAgent [UrlParser] (settings : Settings) (run : TickRun Program) (position : Nat) :
    TickRun Program :=
  match run.phase with
  | .working pool =>
      match pool.running[position]? with
      | none => run
      | some agent =>
          let agent := agent.settle settings run.slot
          match agent.outcome? with
          | none =>
              { run with phase :=
                  .working { pool with running := pool.running.set position agent } }
          | some outcome =>
              { run with phase := .working (pool.retire settings run.slot position outcome) }
  | _ => run

end TickRun

inductive Request where
  | register (agent : Agent)
  | delete (id : AgentId)
  | explain (id : AgentId)

def Request.program [UrlParser] (settings : Settings) : Request → Program Unit
  | .register agent => do
      let _ ← settings.register agent
      return ()
  | .delete id => do
      let _ ← AgentStore.dismiss id
      return ()
  | .explain id => do
      let _ ← settings.explain id
      return ()

structure System (outside : Outside) where
  ticks : List (TickRun Program)
  requests : List (Program Unit)
  shared : Shared outside
  /-- Every exchange there was, the newest first. -/
  log : List Entry

inductive Turn (outside : Outside) where
  | begin (now : Instant)
  | proceed (index : Nat) (spot : Spot) (reaction : Reaction outside)
  /-- Move on a tick, or the agent at a position of it. -/
  | settle (index : Nat) (position : Option Nat)

/-- What happens next to a system, also from outside its ticks. -/
inductive Deed (outside : Outside) where
  | turn (turn : Turn outside)
  | submit (request : Request)
  | serve (index : Nat) (reaction : Reaction outside)
  /-- Replace a stored agent. -/
  | update (agent : Agent) (now : Instant)

namespace System

def start (agents : AgentStore) (states : StateStore) (world : outside.World) :
    System outside where
  ticks := []
  requests := []
  shared := ⟨agents, states, .empty, world⟩
  log := []

/-- Take a turn; one that is not possible changes nothing. -/
def take [UrlParser] (settings : Settings) (system : System outside) : Turn outside → System outside
  | .begin now => { system with ticks := system.ticks ++ [.start (settings.slot now)] }
  | .proceed index spot reaction =>
      match system.ticks[index]?.bind fun run =>
          run.proceed settings index system.shared reaction spot with
      | none => system
      | some (entry, run, shared) =>
          { system with
            ticks := system.ticks.set index run
            shared
            log := entry :: system.log }
  | .settle index none =>
      { system with ticks := system.ticks.modify index fun run => run.settle settings }
  | .settle index (some position) =>
      { system with
        ticks := system.ticks.modify index fun run => run.settleAgent settings position }

def run [UrlParser] (settings : Settings) (system : System outside) (turns : List (Turn outside)) :
    System outside :=
  turns.foldl (take settings) system

/-- Let a deed happen; one that is not possible changes nothing. -/
def perform [UrlParser] (settings : Settings) (system : System outside) :
    Deed outside → System outside
  | .turn turn => system.take settings turn
  | .submit request =>
      { system with requests := system.requests ++ [request.program settings] }
  | .serve index reaction =>
      match system.requests[index]?.bind fun job => system.shared.proceed reaction job with
      | none => system
      | some (exchange, job, shared) =>
          { system with
            requests := system.requests.set index job
            shared
            log := ⟨.request index, exchange⟩ :: system.log }
  | .update agent now =>
      match system.shared.agents.update agent now with
      | .error _ => system
      | .ok agents => { system with shared := { system.shared with agents } }

def performAll [UrlParser] (settings : Settings) (system : System outside)
    (deeds : List (Deed outside)) : System outside :=
  deeds.foldl (perform settings) system

/-- A run is what happens when there are no deeds but turns. -/
theorem performAll_turns [UrlParser] (settings : Settings) (system : System outside)
    (turns : List (Turn outside)) :
    system.performAll settings (turns.map .turn) = system.run settings turns :=
  List.foldl_map

end System

end AdMonitor
