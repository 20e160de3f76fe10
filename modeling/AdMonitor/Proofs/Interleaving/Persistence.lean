import AdMonitor.Proofs.Interleaving.Bookkeeping
import AdMonitor.Proofs.Interleaving.Soundness
import AdMonitor.Proofs.Trigger.Step

/-!
# Saved before acted

A firing is counted in the stored state before its actions are started, and it
is the only one that can be owed: whoever owes actions holds the lock of the
target.
-/

namespace AdMonitor

def firingCount (stored : Option TargetState) : Nat :=
  stored.elim 0 fun state => state.firings.count.toNat

theorem firingCount_le (stored : Option TargetState) : firingCount stored ≤ maxFiringCount := by
  cases stored with
  | none => exact Nat.zero_le _
  | some state => exact Nat.le_of_lt_succ state.firings.count.toNat_lt

/-- A step counts one firing if it fires, and none otherwise. -/
theorem Visit.firingCount_step {visit : Visit} {stored : Option TargetState}
    {snapshot : Snapshot} {taken : Step}
    (isStep : visit.step (stored.getD visit.freshState) snapshot = some taken) :
    firingCount (some taken.state) =
      if taken.decision.fires then min (firingCount stored + 1) maxFiringCount
      else firingCount stored := by
  obtain ⟨progress, satisfied, -, rfl⟩ := Visit.step_eq_some.1 isStep
  have fresh : (stored.getD visit.freshState).firings.count.toNat = firingCount stored := by
    cases stored <;> rfl
  rw [← fresh]
  exact visit.agent.trigger.count_step _ _ _

/-- A visit that owes actions holds the lock of its target, and it has saved but not acted. -/
theorem VisitStage.Owes.recalls {key : StateKey} {history : List Exchange} {stage : VisitStage}
    (owes : stage.Owes) (recalls : stage.Recalls key history) :
    ∃ lock, (.target key, lock) ∈ stage.held key ∧ HasTaken history lock ∧
      ¬ HasReleased history ∧ HasSaved key history ∧ ¬ HasActed history := by
  cases stage with
  | saved lock step | due lock =>
      obtain ⟨saved, -, notActed, notReleased, taken⟩ := recalls
      exact ⟨lock, List.mem_cons_self, taken, notReleased, saved, notActed⟩
  | _ => cases owes

namespace Scene

variable {outside : Outside} {settings : Settings} {regime : Regime} {start : StateStore}
  {key : StateKey} {before after scene : Scene outside}

/-- Whether a visit has saved a firing for a key and not started its actions yet. -/
def IsOwing (scene : Scene outside) (key : StateKey) : Prop :=
  ∃ id, id.key = key ∧ (scene.stages id).Owes

/-- The firings that are counted are those whose actions were started, and one that is owed. -/
def Balanced (start : StateStore) (key : StateKey) (scene : Scene outside) : Prop :=
  let started := firingCount (Table.get? start key) + History.starts key scene.log
  let counted := firingCount (History.lastSaved start key scene.log)
  ¬ scene.IsOwing key ∧ counted = min started maxFiringCount ∨
    scene.IsOwing key ∧ counted = min (started + 1) maxFiringCount

/-- A visit that owes actions holds the lock of its target. -/
theorem held_of_owes {id : VisitId} (owes : (scene.stages id).Owes) :
    ∃ lock, (.target id.key, lock) ∈ scene.held id := by
  unfold Scene.held
  cases found : scene.stages id with
  | saved lock step => exact ⟨lock, List.mem_cons_self⟩
  | due lock => exact ⟨lock, List.mem_cons_self⟩
  | _ =>
      rw [found] at owes
      cases owes

/-- Nothing is owed under a key while another visit holds its lock. -/
theorem Orderly.eq_of_owes (orderly : scene.Orderly regime) {id other : VisitId}
    (isSpared : regime.spared id.key) (sameKey : other.key = id.key) {lock : LockId}
    (isHeld : (.target id.key, lock) ∈ scene.held id) (owes : (scene.stages other).Owes) :
    other = id := by
  obtain ⟨lock', isHeld'⟩ := held_of_owes owes
  rw [sameKey] at isHeld'
  exact orderly.eq_of_held isSpared isHeld' isHeld

theorem Balanced.rest (balanced : before.Balanced start key) {entry : Entry}
    (log : after.log = entry :: before.log) (unsaved : entry.exchange.saved? key = none)
    (unstarted : entry.exchange.starts key = false)
    (same : ∀ id, id.key = key → ((after.stages id).Owes ↔ (before.stages id).Owes)) :
    after.Balanced start key := by
  have owing : after.IsOwing key ↔ before.IsOwing key :=
    exists_congr fun id => and_congr_right (same id)
  unfold Balanced at balanced ⊢
  rw [log, History.lastSaved_cons_none unsaved, History.starts_cons, unstarted, owing]
  exact balanced

/-- Nothing is owed under a key whose lock is held by a visit that owes nothing. -/
theorem Orderly.not_isOwing (orderly : scene.Orderly regime) {id : VisitId}
    (isSpared : regime.spared id.key) {lock : LockId}
    (isHeld : (.target id.key, lock) ∈ scene.held id) (settled : ¬ (scene.stages id).Owes) :
    ¬ scene.IsOwing id.key := by
  rintro ⟨other, sameKey, owes⟩
  rw [orderly.eq_of_owes isSpared sameKey isHeld owes] at owes
  exact settled owes

/-- Whether something is owed under a key is up to the visit that holds its lock. -/
theorem Orderly.isOwing_advance (orderly : scene.Orderly regime) {index : Nat} {visit : Visit}
    {exchange : Exchange} {stage : VisitStage} {shared : Shared outside} {lock : LockId}
    (isSpared : regime.spared visit.key)
    (isHeld : (.target visit.key, lock) ∈ scene.held ⟨index, visit.key⟩) :
    (scene.advance index visit exchange stage shared).IsOwing visit.key ↔ stage.Owes := by
  constructor
  · rintro ⟨other, sameKey, owes⟩
    by_cases isOwn : other = ⟨index, visit.key⟩
    · rwa [isOwn, advance_stages_own] at owes
    · rw [advance_stages_other isOwn] at owes
      exact absurd (orderly.eq_of_owes isSpared sameKey isHeld owes) isOwn
  · intro owes
    refine ⟨⟨index, visit.key⟩, rfl, ?_⟩
    rwa [advance_stages_own]

/-- Whoever saves a firing owes it, and whoever saves something else owes nothing. -/
theorem Balanced.save (balanced : before.Balanced start key) (notOwing : ¬ before.IsOwing key)
    {visit : Visit} {snapshot : Snapshot} {taken : Visit.Step} {entry : Entry}
    (log : after.log = entry :: before.log)
    (isStep : visit.step ((History.lastSaved start key before.log).getD visit.freshState)
      snapshot = some taken)
    (saves : entry.exchange = ⟨.states (.put key taken.state), .ok ()⟩)
    (owing : after.IsOwing key ↔ taken.decision.fires) : after.Balanced start key := by
  obtain ⟨-, counted⟩ := balanced.resolve_right fun owed => notOwing owed.1
  unfold Balanced
  rw [log, History.lastSaved_cons_some (Exchange.saved?_eq_some.2 saves),
    Visit.firingCount_step isStep, History.starts_cons, owing, saves]
  cases taken.decision.fires with
  | true =>
      refine Or.inr ⟨rfl, ?_⟩
      simp only [Exchange.starts, if_true, Bool.false_eq_true, if_false, Nat.add_zero]
      omega
  | false =>
      refine Or.inl ⟨Bool.false_ne_true, ?_⟩
      simpa [Exchange.starts] using counted

/-- Whoever starts the actions that are owed owes nothing any more. -/
theorem Balanced.fire (balanced : before.Balanced start key) (owing : before.IsOwing key)
    {entry : Entry} (log : after.log = entry :: before.log) {tick : TickNumber} {count : UInt64}
    (fires : entry.exchange = ⟨.publish (.targetFired tick key count), ()⟩)
    (notOwing : ¬ after.IsOwing key) : after.Balanced start key := by
  obtain ⟨-, counted⟩ := balanced.resolve_left fun owed => owed.1 owing
  have unsaved : entry.exchange.saved? key = none := by
    rw [fires]
    rfl
  refine Or.inl ⟨notOwing, ?_⟩
  rw [log, History.lastSaved_cons_none unsaved, History.starts_cons, fires]
  simpa [Exchange.starts, Nat.add_assoc] using counted

inductive OwingStep (key : StateKey) (before after : Scene outside) : Prop where
  | edit (log : after.log = before.log) (stages : after.stages = before.stages)
  | rest (entry : Entry) (log : after.log = entry :: before.log)
      (unsaved : entry.exchange.saved? key = none) (unstarted : entry.exchange.starts key = false)
      (same : ∀ id, id.key = key → ((after.stages id).Owes ↔ (before.stages id).Owes))
  | save (index : Nat) (visit : Visit) (lock : LockId) (stored : Option TargetState)
      (snapshot : Snapshot) (taken : Visit.Step) (isOwn : visit.key = key)
      (isLoaded : before.stages ⟨index, key⟩ = .loaded lock stored)
      (isSaved : after.stages ⟨index, key⟩ = .saved lock taken)
      (isStep : visit.step (stored.getD visit.freshState) snapshot = some taken)
      (notOwing : ¬ before.IsOwing key)
      (owing : after.IsOwing key ↔ taken.decision.fires = true)
      (log : after.log =
        ⟨.visit index visit, ⟨.states (.put key taken.state), .ok ()⟩⟩ :: before.log)
  | fire (index : Nat) (visit : Visit) (count : UInt64) (isOwn : visit.key = key)
      (owes : (before.stages ⟨index, key⟩).Owes) (notOwing : ¬ after.IsOwing key)
      (sameSlot : ∀ other exchange, ⟨.visit index other, exchange⟩ ∈ before.log →
        other.slot = visit.slot)
      (log : after.log = ⟨.visit index visit,
        ⟨.publish (.targetFired visit.slot.tick key count), ()⟩⟩ :: before.log)

/-- What is owed under a key is the business of the visit that holds its lock. -/
theorem Step.owing (isSpared : regime.spared key) (step : Step settings regime before after)
    (orderly : before.Orderly regime) : OwingStep key before after := by
  cases step with
  | edit agents => exact .edit rfl rfl
  | upkeep actor reaction exchange shared isOther spares answered =>
      exact .rest _ rfl (spares.saved?_eq_none key) (spares.starts_eq_false key)
        fun _ _ => Iff.rfl
  | visit index visit reaction exchange stage shared isSet isServed isTarget sameSlot step
      answered =>
      have others : ∀ id, id ≠ ⟨index, visit.key⟩ →
          (before.advance index visit exchange stage shared).stages id = before.stages id :=
        fun id differs => advance_stages_other differs
      have own : (before.advance index visit exchange stage shared).stages ⟨index, visit.key⟩ =
          stage := advance_stages_own
      by_cases isKey : key = visit.key
      · subst isKey
        rcases step.owing_cases with
          ⟨lock, stored, snapshot, taken, isLoaded, rfl, isStep, rfl⟩ |
            ⟨lock, count, isDue, rfl, rfl⟩ | ⟨unsaved, unstarted, same⟩
        · have isHeld : (.target visit.key, lock) ∈ before.held ⟨index, visit.key⟩ := by
            rw [Scene.held, isLoaded]
            exact List.mem_cons_self
          refine .save index visit lock stored snapshot taken rfl isLoaded own isStep ?_ ?_
            advance_log
          · exact orderly.not_isOwing isSpared isHeld (by rw [isLoaded]; exact id)
          · exact orderly.isOwing_advance isSpared isHeld
        · have isHeld : (.target visit.key, lock) ∈ before.held ⟨index, visit.key⟩ := by
            rw [Scene.held, isDue]
            exact List.mem_cons_self
          have owes : (before.stages ⟨index, visit.key⟩).Owes := by
            rw [isDue]
            trivial
          refine .fire index visit count rfl owes (fun owed => ?_) sameSlot advance_log
          exact (orderly.isOwing_advance isSpared isHeld).1 owed
        · refine .rest _ advance_log (unsaved _) (unstarted _) fun id sameKey => ?_
          by_cases isOwn : id = ⟨index, visit.key⟩
          · rw [isOwn, own]
            exact same
          · rw [others id isOwn]
      · obtain ⟨unsaved, unstarted⟩ := step.elsewhere isKey
        refine .rest _ advance_log unsaved unstarted fun id sameKey => ?_
        rw [others id]
        rintro rfl
        exact isKey sameKey.symm

theorem Step.balanced (isSpared : regime.spared key) (step : Step settings regime before after)
    (recorded : before.Recorded regime start) (balanced : before.Balanced start key) :
    after.Balanced start key := by
  cases step.owing isSpared recorded.orderly with
  | edit log stages =>
      unfold Balanced IsOwing at balanced ⊢
      rwa [log, stages]
  | rest entry log unsaved unstarted same => exact balanced.rest log unsaved unstarted same
  | save index visit lock stored snapshot taken isOwn isLoaded isSaved isStep notOwing owing log =>
      have isStored := recorded.loaded ⟨index, key⟩ lock stored isSpared isLoaded
      subst isStored
      exact balanced.save notOwing log isStep rfl owing
  | fire index visit count isOwn owes notOwing sameSlot log =>
      exact balanced.fire ⟨_, rfl, owes⟩ log rfl notOwing

theorem Reachable.balanced {agents : AgentStore} {world : outside.World}
    (reached : Reachable settings regime (Scene.start agents start world) scene)
    (isSpared : regime.spared key) : scene.Balanced start key := by
  induction reached with
  | start =>
      refine Or.inl ⟨?_, ?_⟩
      · rintro ⟨id, -, owes⟩
        exact owes
      · exact (Nat.min_eq_left (firingCount_le _)).symm
  | step reached step ih => exact step.balanced isSpared reached.recorded ih

/-- What is stored tells how many firings were started or are owed, unless it is full. -/
theorem Balanced.counted_cases (balanced : scene.Balanced start key)
    (isStored : Table.get? scene.shared.states key = History.lastSaved start key scene.log)
    (below : firingCount (Table.get? scene.shared.states key) < maxFiringCount) :
    let counted := firingCount (Table.get? scene.shared.states key)
    let started := firingCount (Table.get? start key) + History.starts key scene.log
    counted = started ∨ scene.IsOwing key ∧ counted = started + 1 := by
  intro counted started
  unfold Balanced at balanced
  rw [← isStored] at balanced
  rcases balanced with ⟨-, isCounted⟩ | ⟨owing, isCounted⟩
  · change counted = min started maxFiringCount at isCounted
    exact Or.inl (by omega)
  · change counted = min (started + 1) maxFiringCount at isCounted
    exact Or.inr ⟨owing, by omega⟩

/-- Whoever owes actions has the lock that the target stands for, has saved, and has not acted. -/
theorem Orderly.owing_holds (orderly : scene.Orderly regime) (isSpared : regime.spared key)
    (runs : ∀ id, VisitRun id.key (History.ofVisit id scene.log) (scene.stages id))
    (owing : scene.IsOwing key) :
    ∃ index lock, scene.shared.locks.lookup (.target key) = some lock ∧
      HasTaken (History.ofVisit ⟨index, key⟩ scene.log) lock ∧
      ¬ HasReleased (History.ofVisit ⟨index, key⟩ scene.log) ∧
      HasSaved key (History.ofVisit ⟨index, key⟩ scene.log) ∧
      ¬ HasActed (History.ofVisit ⟨index, key⟩ scene.log) := by
  obtain ⟨id, rfl, owes⟩ := owing
  obtain ⟨lock, isHeld, taken, notReleased, saved, notActed⟩ := owes.recalls (runs id).recalls
  refine ⟨id.index, lock, ?_, taken, notReleased, saved, notActed⟩
  refine orderly.settled (.target id.key) ?_ id lock ?_
  · rintro _ ⟨⟩
    exact isSpared
  · exact orderly.discipline.known_of_held id _ isHeld

end Scene

end AdMonitor
