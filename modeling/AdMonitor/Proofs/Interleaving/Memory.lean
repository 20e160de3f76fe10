import AdMonitor.Proofs.Interleaving.Persistence
import AdMonitor.Proofs.Visit.Decision

/-!
# What is remembered of firings

The stored state of a target tells of its last firing, for whoever saves a
firing starts the actions before anyone else can load the state.  So a visit
that starts actions has decided it by a state that tells of all firings before
(`Scene.Step.remembered_of_start`).
-/

namespace AdMonitor

/-- Whether what is remembered tells that the last firing was for some time. -/
structure Firings.Tell (firings : Firings) (last : Instant) : Prop where
  firedOnce : firings.firedOnce = true
  lastFiredAt : firings.lastFiredAt = some last

theorem Firings.tell_add (firings : Firings) (now : Instant) : (firings.add now).Tell now :=
  ⟨rfl, rfl⟩

def Entry.startedAt? (key : StateKey) (entry : Entry) : Option Instant :=
  match entry.actor with
  | .visit _ visit => if entry.exchange.starts key then some visit.slot.now else none
  | _ => none

theorem Entry.startedAt?_eq_none {key : StateKey} {entry : Entry}
    (unstarted : entry.exchange.starts key = false) : entry.startedAt? key = none := by
  unfold Entry.startedAt?
  split
  · rw [unstarted]
    rfl
  · rfl

namespace History

variable {key : StateKey} {history : History} {entry : Entry}

/-- The time of the tick that last started the actions for a key. -/
def lastStart? (key : StateKey) (history : History) : Option Instant :=
  history.findSome? (Entry.startedAt? key)

theorem lastStart?_eq_none (unstarted : starts key history = 0) : lastStart? key history = none :=
  List.findSome?_eq_none_iff.2 fun entry logged => Entry.startedAt?_eq_none
    (by simpa using List.countP_eq_zero.1 unstarted entry logged)

theorem lastStart?_cons_none (unstarted : entry.exchange.starts key = false) :
    lastStart? key (entry :: history) = lastStart? key history := by
  rw [lastStart?, List.findSome?_cons, Entry.startedAt?_eq_none unstarted]
  rfl

def IsRemembered (key : StateKey) (stored : Option TargetState) (history : History) : Prop :=
  starts key history = 0 ∨ ∃ last state, lastStart? key history = some last ∧
    stored = some state ∧ state.firings.Tell last

namespace IsRemembered

variable {stored : Option TargetState}

theorem cons (remembered : history.IsRemembered key stored)
    (unstarted : entry.exchange.starts key = false) :
    IsRemembered key stored (entry :: history) := by
  unfold IsRemembered at remembered ⊢
  rwa [starts_cons, unstarted, if_neg Bool.false_ne_true, Nat.add_zero,
    lastStart?_cons_none unstarted]

/-- A step that does not fire remembers what the state before it did. -/
theorem step (remembered : history.IsRemembered key stored) {visit : Visit} {snapshot : Snapshot}
    {taken : Visit.Step}
    (isStep : visit.step (stored.getD visit.freshState) snapshot = some taken)
    (holds : taken.decision.fires = false) : history.IsRemembered key (some taken.state) := by
  obtain ⟨progress, satisfied, -, rfl⟩ := Visit.step_eq_some.1 isStep
  rcases remembered with unstarted | ⟨last, state, isLast, rfl, tells⟩
  · exact Or.inl unstarted
  · exact Or.inr ⟨last, _, isLast, rfl, (TriggerRule.firings_of_holds holds).symm ▸ tells⟩

end IsRemembered

end History

namespace Scene

variable {outside : Outside} {settings : Settings} {regime : Regime} {start : StateStore}
  {key : StateKey} {before after scene : Scene outside}

/-- Whether a visit has loaded a state that tells of all firings, and has saved one that tells of
the firing that the visit owes. -/
def IsPromised (start : StateStore) (key : StateKey) (index : Nat) (scene : Scene outside) :
    Prop :=
  ∃ loaded visit exchange state,
    ⟨.states (.get key), .ok loaded⟩ ∈ History.ofVisit ⟨index, key⟩ scene.log ∧
      scene.log.IsRemembered key loaded ∧ ⟨.visit index visit, exchange⟩ ∈ scene.log ∧
      History.lastSaved start key scene.log = some state ∧ state.firings.Tell visit.slot.now

def Remembers (start : StateStore) (key : StateKey) (scene : Scene outside) : Prop :=
  ¬ scene.IsOwing key ∧ scene.log.IsRemembered key (History.lastSaved start key scene.log) ∨
    ∃ index, (scene.stages ⟨index, key⟩).Owes ∧ scene.IsPromised start key index

theorem Remembers.rest (remembers : before.Remembers start key) {entry : Entry}
    (log : after.log = entry :: before.log) (unsaved : entry.exchange.saved? key = none)
    (unstarted : entry.exchange.starts key = false)
    (same : ∀ id, id.key = key → ((after.stages id).Owes ↔ (before.stages id).Owes)) :
    after.Remembers start key := by
  rcases remembers with ⟨notOwing, remembered⟩ |
    ⟨index, owes, loaded, visit, exchange, state, loads, remembered, logged, saved, tells⟩
  · refine Or.inl ⟨?_, ?_⟩
    · rintro ⟨id, isOwn, owes⟩
      exact notOwing ⟨id, isOwn, (same id isOwn).1 owes⟩
    · rw [log, History.lastSaved_cons_none unsaved]
      exact remembered.cons unstarted
  · refine Or.inr ⟨index, (same _ rfl).2 owes, loaded, visit, exchange, state, ?_, ?_, ?_, ?_,
      tells⟩
    · obtain ⟨own, found, isOwn⟩ := History.mem_ofVisit.1 loads
      rw [log]
      exact History.mem_ofVisit.2 ⟨own, List.mem_cons_of_mem _ found, isOwn⟩
    · rw [log]
      exact remembered.cons unstarted
    · rw [log]
      exact List.mem_cons_of_mem _ logged
    · rw [log, History.lastSaved_cons_none unsaved]
      exact saved

/-- Whoever saves a firing owes it, and has saved a state that tells of it. -/
theorem IsPromised.of_save {index : Nat} {visit : Visit} {snapshot : Snapshot}
    {stored : Option TargetState} {taken : Visit.Step} (isOwn : visit.key = key)
    (loads : ⟨.states (.get key), .ok stored⟩ ∈ History.ofVisit ⟨index, key⟩ before.log)
    (remembered : before.log.IsRemembered key stored)
    (isStep : visit.step (stored.getD visit.freshState) snapshot = some taken)
    (fires : taken.decision.fires = true)
    (log : after.log =
      ⟨.visit index visit, ⟨.states (.put key taken.state), .ok ()⟩⟩ :: before.log) :
    after.IsPromised start key index := by
  subst isOwn
  unfold IsPromised
  rw [log]
  refine ⟨stored, visit, _, _, ?_, remembered.cons rfl, List.mem_cons_self,
    History.lastSaved_cons_some (Exchange.saved?_eq_some.2 rfl), ?_⟩
  · rw [History.ofVisit_cons_own]
    exact List.mem_cons_of_mem _ loads
  · obtain ⟨progress, satisfied, -, rfl⟩ := Visit.step_eq_some.1 isStep
    exact (TriggerRule.firings_of_fires fires).symm ▸ Firings.tell_add _ _

/-- Whoever starts the actions that are owed leaves a stored state that tells of it. -/
theorem IsPromised.fire {index : Nat} {visit : Visit} {count : UInt64}
    (promised : before.IsPromised start key index)
    (sameSlot : ∀ other exchange, ⟨.visit index other, exchange⟩ ∈ before.log →
      other.slot = visit.slot)
    (log : after.log = ⟨.visit index visit,
      ⟨.publish (.targetFired visit.slot.tick key count), ()⟩⟩ :: before.log) :
    after.log.IsRemembered key (History.lastSaved start key after.log) := by
  obtain ⟨loaded, own, exchange, state, -, -, logged, saved, tells⟩ := promised
  rw [sameSlot own exchange logged] at tells
  refine Or.inr ⟨visit.slot.now, state, ?_, ?_, tells⟩
  · rw [log, History.lastStart?, List.findSome?_cons]
    simp [Entry.startedAt?, Exchange.starts]
  · rw [log, History.lastSaved_cons_none rfl]
    exact saved

theorem Orderly.index_eq_of_owes (orderly : scene.Orderly regime) (isSpared : regime.spared key)
    {index other : Nat} (owes : (scene.stages ⟨index, key⟩).Owes)
    (owes' : (scene.stages ⟨other, key⟩).Owes) : index = other := by
  obtain ⟨lock, isHeld⟩ := held_of_owes owes
  have same : (⟨other, key⟩ : VisitId) = ⟨index, key⟩ :=
    orderly.eq_of_owes isSpared rfl isHeld owes'
  exact (congrArg VisitId.index same).symm

theorem Step.remembers (isSpared : regime.spared key) (step : Step settings regime before after)
    (recorded : before.Recorded regime start)
    (runs : ∀ id, VisitRun id.key (History.ofVisit id before.log) (before.stages id))
    (remembers : before.Remembers start key) : after.Remembers start key := by
  cases step.owing isSpared recorded.orderly with
  | edit log stages =>
      unfold Remembers IsOwing IsPromised at remembers ⊢
      rwa [log, stages]
  | rest entry log unsaved unstarted same => exact remembers.rest log unsaved unstarted same
  | save index visit lock stored snapshot taken isOwn isLoaded isSaved isStep notOwing owing log =>
      have remembered : before.log.IsRemembered key stored := by
        rcases remembers with ⟨-, remembered⟩ | ⟨other, owes, -⟩
        · rwa [recorded.loaded ⟨index, key⟩ lock stored isSpared isLoaded] at remembered
        · exact absurd ⟨_, rfl, owes⟩ notOwing
      cases fires : taken.decision.fires with
      | true =>
          have loads := (runs ⟨index, key⟩).loads
          rw [isLoaded] at loads
          refine Or.inr ⟨index, ?_, .of_save isOwn ((loads _).2 rfl) remembered isStep fires log⟩
          rw [isSaved]
          exact fires
      | false =>
          refine Or.inl ⟨fun owed => ?_, ?_⟩
          · rw [owing.1 owed] at fires
            cases fires
          · rw [log, History.lastSaved_cons_some (Exchange.saved?_eq_some.2 rfl)]
            exact (remembered.step isStep fires).cons rfl
  | fire index visit count isOwn owes notOwing sameSlot log =>
      rcases remembers with ⟨nothing, -⟩ | ⟨other, owed, promised⟩
      · exact absurd ⟨_, rfl, owes⟩ nothing
      · obtain rfl := recorded.orderly.index_eq_of_owes isSpared owes owed
        exact Or.inl ⟨notOwing, promised.fire sameSlot log⟩

theorem Reachable.remembers {agents : AgentStore} {world : outside.World}
    (reached : Reachable settings regime (Scene.start agents start world) scene)
    (isSpared : regime.spared key) : scene.Remembers start key := by
  induction reached with
  | start =>
      refine Or.inl ⟨?_, Or.inl rfl⟩
      rintro ⟨id, -, owes⟩
      exact owes
  | step reached step ih => exact step.remembers isSpared reached.recorded reached.runs ih

/-- A visit that starts actions has loaded a state that tells of all firings before. -/
theorem Step.remembered_of_start {agents : AgentStore} {world : outside.World}
    (reached : Reachable settings regime (Scene.start agents start world) before)
    (isSpared : regime.spared key) (step : Step settings regime before after) {entry : Entry}
    (log : after.log = entry :: before.log) (isStart : entry.exchange.starts key = true) :
    ∃ index visit loaded, entry.actor = .visit index visit ∧ visit.key = key ∧
      ⟨.states (.get key), .ok loaded⟩ ∈ History.ofVisit ⟨index, key⟩ before.log ∧
      before.log.IsRemembered key loaded := by
  cases step.owing isSpared reached.recorded.orderly with
  | edit same => exact absurd (log.symm.trans same) (List.cons_ne_self _ _)
  | rest other same unsaved unstarted =>
      rw [log] at same
      cases same
      rw [unstarted] at isStart
      cases isStart
  | save index visit lock stored snapshot taken isOwn isLoaded isSaved isStep notOwing owing same =>
      rw [log] at same
      cases same
      cases isStart
  | fire index visit count isOwn owes notOwing sameSlot same =>
      rw [log] at same
      cases same
      rcases reached.remembers isSpared with ⟨nothing, -⟩ |
        ⟨other, owed, loaded, own, exchange, state, loads, remembered, -⟩
      · exact absurd ⟨_, rfl, owes⟩ nothing
      · obtain rfl := reached.recorded.orderly.index_eq_of_owes isSpared owes owed
        exact ⟨index, visit, loaded, rfl, isOwn, loads, remembered⟩

end Scene

end AdMonitor
