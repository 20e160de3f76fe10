import AdMonitor.Proofs.Interleaving.Scene

/-!
# Bookkeeping

Visits exclude each other under every key that is spared, so the state that a
visit has loaded is still the stored one when it saves its own, and the stored
states are those that were last saved.
-/

namespace AdMonitor

variable {outside : Outside} {shared after : Shared outside} {reaction : Reaction outside}
  {exchange : Exchange}

/-- A state stays or goes, and it stays if it is spared. -/
theorem StateStore.get?_keepOnly {store : StateStore} {test : StateKey → Bool} {key : StateKey}
    {isSpared : Prop} (spares : isSpared → test key = true) :
    Table.get? (store.keepOnly test).2 key = Table.get? store key ∨
      Table.get? (store.keepOnly test).2 key = none ∧ ¬ isSpared := by
  have filtered : Table.get? (store.keepOnly test).2 key =
      (Table.get? store key).filter fun _ => test key := Table.get?_filter
  rw [filtered]
  cases kept : test key with
  | true =>
      refine Or.inl ?_
      cases Table.get? store key <;> rfl
  | false =>
      refine Or.inr ⟨?_, fun spared => ?_⟩
      · cases Table.get? store key <;> rfl
      · rw [spares spared] at kept
        cases kept

/-- The states after a step of a visit are as before but for what it has saved. -/
theorem VisitStep.get?_of_answer {visit : Visit} {before later : VisitStage}
    (step : VisitStep visit before exchange later)
    (answered : shared.answer reaction exchange.call = some (exchange.answer, after))
    (key : StateKey) :
    Table.get? after.states key = (exchange.saved? key).or (Table.get? shared.states key) := by
  obtain ⟨call, answer⟩ := exchange
  cases call with
  | states query =>
      rcases Shared.answer_states answered with ⟨⟨failure, isError⟩, rfl⟩ | ⟨isOk, rfl⟩ <;>
        rcases step.states_cases rfl with rfl | ⟨state, rfl⟩
      · rfl
      · cases isError
        rfl
      · rfl
      · cases isOk
        refine Table.get?_insert.trans ?_
        by_cases isOwn : key = visit.key
        · simp [Exchange.saved?, isOwn]
        · simp [Exchange.saved?, isOwn, Ne.symm isOwn]
  | _ =>
      rw [Shared.states_of_answer (fun _ => by simp) answered]
      rfl

namespace Call.Spares

variable {spared : StateKey → Prop}

theorem saved?_eq_none (spares : exchange.call.Spares spared) (key : StateKey) :
    exchange.saved? key = none := by
  rw [Option.eq_none_iff_forall_ne_some]
  intro state saved
  rw [Exchange.saved?_eq_some] at saved
  rw [saved] at spares
  exact spares

theorem starts_eq_false (spares : exchange.call.Spares spared) (key : StateKey) :
    exchange.starts key = false := by
  rw [Bool.eq_false_iff]
  intro started
  obtain ⟨tick, count, same⟩ := Exchange.starts_iff.1 started
  rw [same] at spares
  exact spares

/-- A call that spares some keys removes no state of theirs. -/
theorem get?_of_answer (spares : exchange.call.Spares spared)
    (answered : shared.answer reaction exchange.call = some (exchange.answer, after))
    (key : StateKey) :
    Table.get? after.states key = Table.get? shared.states key ∨
      Table.get? after.states key = none ∧ ¬ spared key := by
  have stays : ∀ {agent keep}, LockTable.isForgotten agent keep (.target key) = false →
      (key.agent != agent || keep.contains key.target) = true := by
    intro agent keep kept
    simp only [LockTable.isForgotten, Bool.and_eq_false_iff, beq_eq_false_iff_ne,
      Bool.not_eq_false'] at kept
    simpa using kept
  obtain ⟨call, answer⟩ := exchange
  cases call with
  | states query =>
      cases query with
      | get | owners =>
          rcases Shared.answer_states answered with ⟨-, rfl⟩ | ⟨-, rfl⟩ <;> exact Or.inl rfl
      | put own state => cases spares
      | retain agent keep =>
          rcases Shared.answer_states answered with ⟨-, rfl⟩ | ⟨-, rfl⟩ <;>
            refine StateStore.get?_keepOnly fun isSpared => ?_
          · rw [Bool.or_assoc, stays (spares key isSpared), Bool.or_true]
          · exact stays (spares key isSpared)
      | remove agent =>
          rcases Shared.answer_states answered with ⟨-, rfl⟩ | ⟨-, rfl⟩ <;>
            refine StateStore.get?_keepOnly fun isSpared => ?_
          · have others := stays (spares key isSpared)
            rw [List.contains_nil, Bool.or_false] at others
            rw [others, Bool.or_true]
          · have others := stays (spares key isSpared)
            rwa [List.contains_nil, Bool.or_false] at others
  | _ => exact Or.inl (by rw [Shared.states_of_answer (fun _ => by simp) answered])

end Call.Spares

namespace Scene

variable {settings : Settings} {regime : Regime} {first before after : Scene outside}

/-- What a visit has done is a run of its own, whatever the others do in between. -/
theorem Step.runs (step : Step settings regime before after)
    (runs : ∀ id, VisitRun id.key (History.ofVisit id before.log) (before.stages id)) :
    ∀ id, VisitRun id.key (History.ofVisit id after.log) (after.stages id) := by
  intro id
  cases step with
  | visit index visit reaction exchange stage shared isSet isServed isTarget sameSlot step
      answered =>
      by_cases isOwn : id = ⟨index, visit.key⟩
      · subst isOwn
        rw [advance_log, History.ofVisit_cons_own, advance_stages_own]
        exact .step visit rfl (runs ⟨index, visit.key⟩) step
      · rw [advance_log, History.ofVisit_cons_other, advance_stages_other isOwn]
        · exact runs id
        · rintro _ _ ⟨⟩ same
          exact isOwn same.symm
  | upkeep actor reaction exchange shared isOther spares answered =>
      rw [History.ofVisit_cons_other]
      · exact runs id
      · intro index visit same
        exact absurd same (isOther index visit)
  | edit agents => exact runs id

/-- The store and the visits under way know what was last saved for a key that is spared. -/
structure Recorded (regime : Regime) (start : StateStore) (scene : Scene outside) : Prop where
  orderly : scene.Orderly regime
  stored : ∀ key, regime.spared key →
    Table.get? scene.shared.states key = History.lastSaved start key scene.log
  loaded : ∀ id lock stored, regime.spared id.key → scene.stages id = .loaded lock stored →
    History.lastSaved start id.key scene.log = stored

theorem start_recorded {agents : AgentStore} {states : StateStore} {world : outside.World} :
    (start agents states world).Recorded regime states where
  orderly := start_orderly
  stored _ _ := rfl
  loaded _ _ _ _ := nofun

/-- Nobody saves a state under a key while another visit has loaded one. -/
theorem Orderly.eq_of_loaded (orderly : before.Orderly regime) {id other : VisitId}
    (isSpared : regime.spared id.key) (sameKey : other.key = id.key) {lock lock' : LockId}
    {stored stored' : Option TargetState} (isLoaded : before.stages id = .loaded lock stored)
    (isLoaded' : before.stages other = .loaded lock' stored') : id = other := by
  have isHeld : (.target id.key, lock) ∈ before.held id := by
    rw [Scene.held, isLoaded]
    exact List.mem_cons_self
  have isHeld' : (.target id.key, lock') ∈ before.held other := by
    rw [Scene.held, isLoaded', sameKey]
    exact List.mem_cons_self
  exact orderly.eq_of_held isSpared isHeld isHeld'

theorem Step.recorded {start : StateStore} (step : Step settings regime before after)
    (recorded : before.Recorded regime start) : after.Recorded regime start := by
  have orderly := step.orderly recorded.orderly
  cases step with
  | visit index visit reaction exchange stage shared isSet isServed isTarget sameSlot step
      answered =>
      refine ⟨orderly, fun key isSpared => ?_, fun id lock stored isSpared found => ?_⟩
      · rw [advance_shared, advance_log, step.get?_of_answer answered,
          recorded.stored key isSpared, History.lastSaved_cons]
      · rw [advance_log]
        by_cases isOwn : id = ⟨index, visit.key⟩
        · subst isOwn
          rw [advance_stages_own] at found
          subst found
          rcases step.loaded_cases with ⟨same, unsaved⟩ | ⟨-, rfl⟩
          · rw [History.lastSaved_cons_none (unsaved visit.key)]
            exact recorded.loaded _ lock stored isSpared same
          · rw [History.lastSaved_cons_none (by rfl), ← recorded.stored _ isSpared]
            rcases Shared.answer_states answered with ⟨⟨failure, isError⟩, -⟩ | ⟨isOk, -⟩
            · cases isError
            · cases isOk
              rfl
        · rw [advance_stages_other isOwn] at found
          cases isSaved : exchange.saved? id.key with
          | none =>
              rw [History.lastSaved_cons_none isSaved]
              exact recorded.loaded id lock stored isSpared found
          | some state =>
              rw [Exchange.saved?_eq_some] at isSaved
              obtain ⟨sameKey, lock', stored', snapshot, found', -⟩ :=
                step.put_cases (congrArg Exchange.call isSaved)
              exact absurd (recorded.orderly.eq_of_loaded isSpared sameKey.symm found found') isOwn
  | upkeep actor reaction exchange shared isOther spares answered =>
      refine ⟨orderly, fun key isSpared => ?_, fun id lock stored isSpared found => ?_⟩
      · rw [History.lastSaved_cons_none (spares.saved?_eq_none key),
          ← recorded.stored key isSpared]
        rcases spares.get?_of_answer answered key with same | ⟨-, notSpared⟩
        · exact same
        · exact absurd isSpared notSpared
      · rw [History.lastSaved_cons_none (spares.saved?_eq_none id.key)]
        exact recorded.loaded id lock stored isSpared found
  | edit agents => exact ⟨orderly, recorded.stored, recorded.loaded⟩

structure Unseen (start : StateStore) (key : StateKey) (scene : Scene outside) : Prop where
  omits : scene.log.Omits key
  absent : Table.get? start key = none → Table.get? scene.shared.states key = none

/-- Where visits are only for keys that are spared, nothing is done under others. -/
theorem Step.unseen {start : StateStore} {key : StateKey} (covers : regime.Covers)
    (notSpared : ¬ regime.spared key) (step : Step settings regime before after)
    (unseen : before.Unseen start key) : after.Unseen start key := by
  cases step with
  | visit index visit reaction exchange stage shared isSet isServed isTarget sameSlot step
      answered =>
      have differs : key ≠ visit.key := by
        rintro rfl
        exact notSpared (covers visit.agent isServed _ isTarget)
      obtain ⟨unsaved, unstarted⟩ := step.elsewhere differs
      refine ⟨unseen.omits.cons ⟨unsaved, unstarted, ?_⟩, fun isAbsent => ?_⟩
      · rintro _ _ ⟨⟩ same
        exact differs same.symm
      · rw [advance_shared, step.get?_of_answer answered, unsaved, unseen.absent isAbsent]
        rfl
  | upkeep actor reaction exchange shared isOther spares answered =>
      refine ⟨unseen.omits.cons ⟨spares.saved?_eq_none key, spares.starts_eq_false key, ?_⟩,
        fun isAbsent => ?_⟩
      · intro index visit same
        exact absurd same (isOther index visit)
      · rcases spares.get?_of_answer answered key with same | ⟨gone, -⟩
        · exact same.trans (unseen.absent isAbsent)
        · exact gone
  | edit agents => exact ⟨unseen.omits, unseen.absent⟩

namespace Reachable

variable {scene : Scene outside} {agents : AgentStore} {states : StateStore}
  {world : outside.World}

theorem runs (reached : Reachable settings regime (Scene.start agents states world) scene) :
    ∀ id, VisitRun id.key (History.ofVisit id scene.log) (scene.stages id) := by
  induction reached with
  | start => exact fun id => .idle
  | step reached step ih => exact step.runs ih

theorem recorded
    (reached : Reachable settings regime (Scene.start agents states world) scene) :
    scene.Recorded regime states := by
  induction reached with
  | start => exact start_recorded
  | step reached step ih => exact step.recorded ih

theorem unseen (covers : regime.Covers)
    (reached : Reachable settings regime (Scene.start agents states world) scene)
    {key : StateKey} (notSpared : ¬ regime.spared key) : scene.Unseen states key := by
  induction reached with
  | start => exact ⟨History.omits_nil, id⟩
  | step reached step ih => exact step.unseen covers notSpared ih

end Reachable

end Scene

end AdMonitor
