import AdMonitor.Proofs.Interleaving.Collection
import AdMonitor.Proofs.Interleaving.Reports
import AdMonitor.Proofs.Interleaving.Visits

/-!
# Lone ticks

A tick that nothing overlaps, among collaborators who always answer a call
alike.  How its visits are answered is settled by the states that were stored
for their agent and by the failures of the stores (`LoneTick.answer_visit`), and
so is what becomes of these states.
-/

namespace AdMonitor

def Call.isExternal : Call → Bool
  | .metrics .. | .snapshots .. | .platform .. | .enqueue .. | .post .. => true
  | _ => false

/-- Collaborators who always answer a call alike; times and random numbers may be any. -/
def Outside.fixed (reply : (call : Call) → call.Answer) : Outside where
  World := Unit
  Mood := (call : Call) → call.Answer
  answer mood _ call := (if call.isExternal then reply call else mood call, ())

variable {settings : Settings} {now : Instant} {reply : (call : Call) → call.Answer}

theorem Shared.answer_fixed {shared after : Shared (.fixed reply)}
    {reaction : Reaction (.fixed reply)} {exchange : Exchange}
    (answered : shared.answer reaction exchange.call = some (exchange.answer, after))
    (isExternal : exchange.call.isExternal = true) :
    exchange.answer = reply exchange.call := by
  obtain ⟨call, answer⟩ := exchange
  cases call with
  | metrics | snapshots | platform | enqueue | post =>
      exact (congrArg Prod.fst (Option.some.inj answered)).symm
  | _ => cases isExternal

def Exchange.failure? : Exchange → Option Failure
  | ⟨.agents _, .error failure⟩ | ⟨.states _, .error failure⟩ => some failure
  | _ => none

namespace Call

def bearsOn (id : AgentId) : Call → Bool
  | .agents .listActive => true
  | .states (.get key) | .states (.put key _) => key.agent == id
  | _ => false

/-- Calls that collect states of an agent that it no longer uses. -/
def prunes (id : AgentId) : Call → Bool
  | .states (.retain agent _) => agent == id
  | _ => false

/-- How a visit is answered when it finds some stored states. -/
def expected (reply : (call : Call) → call.Answer) (fails : Call → Option Failure)
    (stored : TargetKey → Option TargetState) : (call : Call) → call.Answer
  | .states (.get key) =>
      (fails (.states (.get key))).elim (.ok (stored key.target)) .error
  | .states (.put key state) => (fails (.states (.put key state))).elim (.ok ()) .error
  | call => reply call

end Call

/-- A tick that nothing overlaps, from its beginning to its report. -/
structure LoneTick [UrlParser] (settings : Settings) (now : Instant)
    (reply : (call : Call) → call.Answer) where
  /-- How many agents may be worked on at the same time. -/
  room : Nat
  shared : Shared (.fixed reply)
  turns : List (Turn (.fixed reply))
  report : TickReport
  keyed : shared.agents.IsKeyed
  alone : ∀ turn ∈ turns, turn.begins = false
  isOver : ((System.solo { settings with maxConcurrentAgents := room } shared now).run
    { settings with maxConcurrentAgents := room } turns).ticks[0]?.bind TickRun.report? =
      some report

namespace LoneTick

variable [UrlParser] (tick : LoneTick settings now reply)

def configuration : Settings := { settings with maxConcurrentAgents := tick.room }

def system : System (.fixed reply) :=
  (System.solo tick.configuration tick.shared now).run tick.configuration tick.turns

def log : History := tick.system.log

def found (id : AgentId) (target : TargetKey) : Option TargetState :=
  Table.get? tick.shared.states ⟨id, target⟩

def left (id : AgentId) (target : TargetKey) : Option TargetState :=
  Table.get? tick.system.shared.states ⟨id, target⟩

def Fares (test : Call → Bool) (fails : Call → Option Failure) : Prop :=
  ∀ entry ∈ tick.log, test entry.exchange.call = true →
    entry.exchange.failure? = fails entry.exchange.call

instance (test : Call → Bool) (fails : Call → Option Failure) : Decidable (tick.Fares test fails) :=
  inferInstanceAs (Decidable (∀ entry ∈ tick.log, test entry.exchange.call = true →
    entry.exchange.failure? = fails entry.exchange.call))

/-- Whether a removal that fails loses some states of an agent, whenever it happens. -/
def Loses (id : AgentId) (lost : TargetKey → Bool) : Prop :=
  ∀ turn ∈ tick.turns, (Deed.turn turn).IsCalm fun reaction =>
    ∀ target, reaction.lost ⟨id, target⟩ = lost target

theorem yields :
    (settings.slot now).Yields tick.configuration 0 tick.log tick.report :=
  System.solo_yields tick.keyed tick.alone tick.isOver

theorem belongs : ∀ entry ∈ tick.log,
    entry.Belongs tick.configuration (settings.slot now) 0 tick.log :=
  System.solo_belongs tick.keyed tick.alone tick.isOver

theorem evolves_of {admits : Reaction (.fixed reply) → Prop}
    (areCalm : ∀ turn ∈ tick.turns, (Deed.turn turn).IsCalm admits) :
    Shared.Evolves admits tick.shared tick.log tick.system.shared :=
  System.run_evolves .start areCalm

theorem evolves : Shared.Evolves (fun _ => True) tick.shared tick.log tick.system.shared :=
  System.solo_evolves now tick.turns

/-! ## Answers -/

variable {tick}

theorem answer_external {entry : Entry} (logged : entry ∈ tick.log)
    (isExternal : entry.exchange.call.isExternal = true) :
    entry.exchange.answer = reply entry.exchange.call := by
  obtain ⟨past, isPast⟩ := History.exists_past logged
  obtain ⟨before, reaction, later, -, -, answered⟩ := tick.evolves.answered isPast
  exact Shared.answer_fixed answered isExternal

theorem watches_iff {agent : Agent} (tells : tick.log.Tells 0 agent) {target : TargetKey} :
    tick.shared.Watches ⟨agent.id, target⟩ ↔ target ∈ agent.scope.targetKeys :=
  tells.watches_iff tick.evolves tick.keyed tick.belongs

/-- States of the targets of an active agent are not collected. -/
theorem not_drops {entry : Entry} (logged : entry ∈ tick.log) {agent : Agent}
    (tells : tick.log.Tells 0 agent) {target : TargetKey}
    (isTarget : target ∈ agent.scope.targetKeys) : ¬ entry.exchange.Drops ⟨agent.id, target⟩ :=
  tick.evolves.not_drops tick.keyed tick.belongs ((watches_iff tells).2 isTarget) logged

theorem step_of_logged {visit : Visit} {exchange : Exchange}
    (logged : ⟨.visit 0 visit, exchange⟩ ∈ tick.log) :
    ∃ before after, VisitStep visit before exchange after := by
  have belongs := tick.belongs _ logged
  cases belongs with
  | visit agent tells target isTarget exchange before after step => exact ⟨before, after, step⟩

/-- The answers that a visit gets are settled by the states that were stored for its agent. -/
theorem answer_visit {id : AgentId} {fails : Call → Option Failure}
    (fares : tick.Fares (Call.bearsOn id) fails) {visit : Visit} {exchange : Exchange}
    (logged : ⟨.visit 0 visit, exchange⟩ ∈ tick.log) (isOwn : visit.key.agent = id)
    (matters : exchange.call.isIncidental = false) :
    exchange.answer = Call.expected reply fails (tick.found id) exchange.call := by
  subst isOwn
  obtain ⟨before, after, step⟩ := step_of_logged logged
  have isExternal := answer_external logged
  have fared := fares _ logged
  obtain ⟨call, answer⟩ := exchange
  cases call with
  | metrics | snapshots | platform | enqueue | post => exact isExternal rfl
  | agents query => exact absurd rfl (step.not_agents query)
  | states query =>
      rcases step.states_cases rfl with rfl | ⟨state, rfl⟩
      · rw [Call.expected, ← fared (beq_self_eq_true visit.key.agent)]
        cases answer with
        | error failure => rfl
        | ok loaded =>
            rw [tick.evolves.found tick.keyed tick.belongs tick.yields logged]
            rfl
      · rw [Call.expected, ← fared (beq_self_eq_true visit.key.agent)]
        cases answer <;> rfl
  | lock | publish | sleep | jitter | clock => cases matters

/-! ## States -/

section States

variable {agent : Agent} (tells : tick.log.Tells 0 agent) {target : TargetKey}

include tells

theorem left_of_target (isTarget : target ∈ agent.scope.targetKeys) :
    tick.left agent.id target =
      History.lastSaved tick.shared.states ⟨agent.id, target⟩ tick.log :=
  tick.evolves.get?_eq_lastSaved fun _ logged => not_drops logged tells isTarget

theorem saves_eq_nil (isNone : target ∉ agent.scope.targetKeys) :
    History.saves ⟨agent.id, target⟩ tick.log = [] :=
  tick.evolves.saves_eq_nil tick.keyed tick.belongs (mt (watches_iff tells).1 isNone)

/-- The states of an active agent are collected in one way only. -/
theorem call_of_drops {entry : Entry} (logged : entry ∈ tick.log)
    (drops : entry.exchange.Drops ⟨agent.id, target⟩) :
    entry.exchange.call = .states (.retain agent.id agent.scope.targetKeys) := by
  obtain ⟨stored, isStored, same, -⟩ := tells.stored tick.evolves tick.keyed tick.belongs
  have isActor : entry.actor = .agent 0 agent.id := by
    rcases tick.evolves.gone_of_drops tick.keyed tick.belongs logged drops with
      isNone | ⟨-, -, -, -, isActor⟩
    · cases isStored.symm.trans isNone
    · exact isActor
  obtain ⟨query, isQuery, drops⟩ := drops
  have belongs := tick.belongs entry logged
  cases belongs with
  | tick | visit => cases isActor
  | opening own isTold exchange isOpening =>
      rw [isQuery] at isOpening
      cases isOpening
  | closing own isTold exchange isClosing =>
      obtain ⟨other, isOther, sameOther, -⟩ := isTold.stored tick.evolves tick.keyed tick.belongs
      have sameId : own.id = agent.id := (Actor.agent.inj isActor).2
      rw [sameId, isStored] at isOther
      cases isOther
      rw [isQuery] at isClosing ⊢
      cases query with
      | retain owner keep =>
          obtain ⟨rfl, rfl⟩ := isClosing
          rw [sameId, (Agent.eq_of_unmarked sameOther).2, (Agent.eq_of_unmarked same).2]
      | _ => cases isClosing

/-- What becomes of a state that was to be removed is settled by how the removal fails. -/
theorem left_of_dropped {fails : Call → Option Failure}
    (fares : tick.Fares (Call.prunes agent.id) fails) {lost : TargetKey → Bool}
    (loses : tick.Loses agent.id lost)
    (isNone : target ∉ agent.scope.targetKeys)
    (dropped : ∃ entry ∈ tick.log, entry.exchange.Drops ⟨agent.id, target⟩) :
    tick.left agent.id target =
      if (fails (.states (.retain agent.id agent.scope.targetKeys))).isSome && !lost target
        then tick.found agent.id target else none := by
  have unsaved := saves_eq_nil tells isNone
  have evolves := tick.evolves_of loses
  have failed : ∀ entry ∈ tick.log, entry.exchange.Drops ⟨agent.id, target⟩ →
      entry.exchange.failure? = fails (.states (.retain agent.id agent.scope.targetKeys)) := by
    intro entry logged drops
    have isCall := call_of_drops tells logged drops
    rw [← isCall]
    exact fares entry logged (by rw [isCall]; exact beq_self_eq_true agent.id)
  obtain ⟨entry, logged, drops⟩ := dropped
  cases isLost : lost target with
  | true =>
      rw [Bool.not_true, Bool.and_false]
      exact evolves.get?_eq_none unsaved ⟨entry, logged, Or.inr
        ⟨drops, fun reaction isAdmitted => (isAdmitted target).trans isLost⟩⟩
  | false =>
      cases isFailure : fails (.states (.retain agent.id agent.scope.targetKeys)) with
      | none =>
          have isCall := call_of_drops tells logged drops
          have succeeds := (failed entry logged drops).trans isFailure
          refine evolves.get?_eq_none unsaved ⟨entry, logged, Or.inl ?_⟩
          obtain ⟨actor, call, answer⟩ := entry
          obtain rfl : call = _ := isCall
          cases answer with
          | error failure => cases succeeds
          | ok count => exact StateQuery.drops_retain.2 ⟨rfl, isNone⟩
      | some failure =>
          have losses := (evolves.mono fun reaction isAdmitted =>
            (isAdmitted target).trans isLost).get?_of_losses fun entry logged drops => ?_
          · rwa [History.lastSaved, unsaved] at losses
          · have isCall := call_of_drops tells logged drops
            have fails := (failed entry logged drops).trans isFailure
            obtain ⟨actor, call, answer⟩ := entry
            obtain rfl : call = _ := isCall
            cases answer with
            | error failure => trivial
            | ok count => cases fails

end States

end LoneTick

end AdMonitor
