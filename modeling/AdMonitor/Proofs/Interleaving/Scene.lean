import AdMonitor.Proofs.Interleaving.History
import AdMonitor.Proofs.Interleaving.Locks
import AdMonitor.Proofs.Interleaving.Regime
import Mathlib.Logic.Function.Basic

/-!
# Scenes

A scene is a system without its programs: the stage of every visit, and what
all share.  In each step of a scene one visit takes a step of its own, or some
other job makes a call that spares certain states and locks, or agents are
edited.  What is spared is a matter of the regime under which the system runs.
-/

namespace AdMonitor

structure Scene (outside : Outside) where
  stages : VisitId → VisitStage
  shared : Shared outside
  log : History

namespace Scene

variable {outside : Outside}

def known (scene : Scene outside) (id : VisitId) : List NamedLock :=
  (scene.stages id).known id.key

def held (scene : Scene outside) (id : VisitId) : List NamedLock :=
  (scene.stages id).held id.key

def advance (scene : Scene outside) (index : Nat) (visit : Visit) (exchange : Exchange)
    (stage : VisitStage) (shared : Shared outside) : Scene outside where
  stages := Function.update scene.stages ⟨index, visit.key⟩ stage
  shared := shared
  log := ⟨.visit index visit, exchange⟩ :: scene.log

section Advance

variable {scene : Scene outside} {index : Nat} {visit : Visit} {exchange : Exchange}
  {stage : VisitStage} {shared : Shared outside}

@[simp] theorem advance_shared :
    (scene.advance index visit exchange stage shared).shared = shared := rfl

@[simp] theorem advance_log : (scene.advance index visit exchange stage shared).log =
    ⟨.visit index visit, exchange⟩ :: scene.log := rfl

@[simp] theorem advance_stages_own :
    (scene.advance index visit exchange stage shared).stages ⟨index, visit.key⟩ = stage :=
  Function.update_self ..

theorem advance_stages_other {id : VisitId} (differs : id ≠ ⟨index, visit.key⟩) :
    (scene.advance index visit exchange stage shared).stages id = scene.stages id :=
  Function.update_of_ne differs ..

end Advance

inductive Step (settings : Settings) (regime : Regime) (scene : Scene outside) :
    Scene outside → Prop where
  | visit (index : Nat) (visit : Visit) (reaction : Reaction outside) (exchange : Exchange)
      (stage : VisitStage) (after : Shared outside) (isSet : visit.settings = settings)
      (isServed : regime.serves visit.agent)
      (isTarget : visit.target.key ∈ visit.agent.scope.targetKeys)
      (sameSlot : ∀ other exchange, ⟨.visit index other, exchange⟩ ∈ scene.log →
        other.slot = visit.slot)
      (step : VisitStep visit (scene.stages ⟨index, visit.key⟩) exchange stage)
      (answered : scene.shared.answer reaction exchange.call = some (exchange.answer, after)) :
      Step settings regime scene (scene.advance index visit exchange stage after)
  | upkeep (actor : Actor) (reaction : Reaction outside) (exchange : Exchange)
      (after : Shared outside) (isOther : ∀ index visit, actor ≠ .visit index visit)
      (spares : exchange.call.Spares regime.spared)
      (answered : scene.shared.answer reaction exchange.call = some (exchange.answer, after)) :
      Step settings regime scene ⟨scene.stages, after, ⟨actor, exchange⟩ :: scene.log⟩
  /-- Agents are changed from outside. -/
  | edit (agents : AgentStore) :
      Step settings regime scene { scene with shared := { scene.shared with agents } }

def start (agents : AgentStore) (states : StateStore) (world : outside.World) :
    Scene outside :=
  ⟨fun _ => .idle, ⟨agents, states, .empty, world⟩, []⟩

inductive Reachable (settings : Settings) (regime : Regime) (first : Scene outside) :
    Scene outside → Prop where
  | start : Reachable settings regime first first
  | step {before after : Scene outside} (reached : Reachable settings regime first before)
      (step : Step settings regime before after) : Reachable settings regime first after

/-- Locks are kept in order: nobody shares one, and protected names stand for one lock only. -/
structure Orderly (regime : Regime) (scene : Scene outside) : Prop where
  discipline : LockDiscipline scene.shared.locks scene.known scene.held
  settled : ∀ name, regime.Protects name → scene.shared.locks.Settles scene.known name

variable {settings : Settings} {regime : Regime} {first before after scene : Scene outside}

theorem start_orderly {agents : AgentStore} {states : StateStore} {world : outside.World} :
    (start agents states world).Orderly regime where
  discipline := LockDiscipline.empty
  settled _ _ _ _ := nofun

/-- A call that spares some keys forgets no lock of theirs. -/
theorem locks_of_spares {spared : StateKey → Prop} {shared after : Shared outside}
    {reaction : Reaction outside} {exchange : Exchange} (spares : exchange.call.Spares spared)
    (answered : shared.answer reaction exchange.call = some (exchange.answer, after)) :
    after.locks = shared.locks ∨ ∃ agent keep, after.locks = shared.locks.forget agent keep ∧
      ∀ key, spared key → LockTable.isForgotten agent keep (.target key) = false := by
  obtain ⟨call, answer⟩ := exchange
  cases call with
  | lock query =>
      cases query with
      | forget agent keep =>
          obtain ⟨locks, forgot, rfl⟩ := Shared.answer_lock answered
          obtain ⟨-, rfl⟩ := Prod.mk.inj (Option.some.inj forgot)
          exact Or.inr ⟨agent, keep, rfl, spares⟩
      | _ => cases spares
  | _ => exact Or.inl (Shared.locks_of_answer (fun _ => by simp) answered)

theorem Step.orderly (step : Step settings regime before after)
    (orderly : before.Orderly regime) : after.Orderly regime := by
  cases step with
  | visit index visit reaction exchange stage shared isSet isServed isTarget sameSlot step
      answered =>
      have moves := step.lockMove
      have others : ∀ id, id ≠ ⟨index, visit.key⟩ →
          (before.advance index visit exchange stage shared).stages id = before.stages id :=
        fun id differs => advance_stages_other differs
      have own : (before.advance index visit exchange stage shared).stages ⟨index, visit.key⟩ =
          stage := advance_stages_own
      rw [← own] at moves
      refine ⟨?_, fun name isProtected => ?_⟩
      · refine orderly.discipline.move (fun id differs => ⟨?_, ?_⟩) rfl moves answered
        · exact congrArg (VisitStage.known id.key) (others id differs)
        · exact congrArg (VisitStage.held id.key) (others id differs)
      · refine (orderly.settled name isProtected).move (fun id differs => ?_) moves answered
        exact congrArg (VisitStage.known id.key) (others id differs)
  | upkeep actor reaction exchange shared isOther spares answered =>
      rcases locks_of_spares spares answered with same | ⟨agent, keep, forgot, kept⟩
      · refine ⟨?_, fun name isProtected => ?_⟩
        · rw [same]
          exact orderly.discipline
        · rw [same]
          exact orderly.settled name isProtected
      · refine ⟨?_, fun name isProtected => ?_⟩
        · rw [forgot]
          exact orderly.discipline.forget agent keep
        · rw [forgot]
          refine (orderly.settled name isProtected).forget ?_
          cases name with
          | target key => exact kept key (isProtected key rfl)
          | campaign id => rfl
  | edit agents => exact ⟨orderly.discipline, orderly.settled⟩

/-- No two visits hold a lock of one key that is spared. -/
theorem Orderly.eq_of_held (orderly : scene.Orderly regime) {key : StateKey}
    (isSpared : regime.spared key) {id other : VisitId} {lock lock' : LockId}
    (isHeld : (.target key, lock) ∈ scene.held id)
    (isHeld' : (.target key, lock') ∈ scene.held other) : id = other := by
  have isProtected : regime.Protects (.target key) := by
    rintro _ ⟨⟩
    exact isSpared
  exact orderly.discipline.eq_of_held (orderly.settled _ isProtected) isHeld isHeld'

end Scene

end AdMonitor
