import AdMonitor.Proofs.Visit.Stage

/-!
# Runs of a visit

What a visit has done when it has come to a stage: it acts only after it has
saved a state, and once the store has failed it neither saves nor acts.
-/

namespace AdMonitor

/-- Calls by which the actions of a target are started, and those that actions make. -/
def Call.IsAction : Call → Prop
  | .platform .. | .enqueue .. | .post .. | .sleep _ | .jitter _ | .clock
  | .lock (.find (.campaign _)) | .publish (.targetFired ..) | .publish (.actionCompleted ..) =>
      True
  | _ => False

namespace Call.IsAction

variable {call other : Call}

theorem ne (isAction : call.IsAction) (isNone : ¬ other.IsAction) : call ≠ other := by
  rintro rfl
  exact isNone isAction

theorem not_isReading (isAction : call.IsAction) : ¬ call.IsReading := by
  intro isReading
  cases call with
  | metrics | snapshots => cases isAction
  | _ => cases isReading

end Call.IsAction

namespace Exchange

def saved? (key : StateKey) : Exchange → Option TargetState
  | ⟨.states (.put own state), .ok _⟩ => if own = key then some state else none
  | _ => none

/-- Whether an exchange starts the actions for a key, by announcing the firing they are for. -/
def starts (key : StateKey) : Exchange → Bool
  | ⟨.publish (.targetFired _ own _), _⟩ => own == key
  | _ => false

theorem saved?_eq_some {key : StateKey} {state : TargetState} {exchange : Exchange} :
    exchange.saved? key = some state ↔ exchange = ⟨.states (.put key state), .ok ()⟩ := by
  constructor
  · intro saved
    unfold saved? at saved
    split at saved
    · obtain ⟨rfl, same⟩ := Option.ite_none_right_eq_some.1 saved
      cases same
      rfl
    · cases saved
  · rintro rfl
    simp [saved?]

theorem starts_iff {key : StateKey} {exchange : Exchange} :
    exchange.starts key = true ↔
      ∃ tick count, exchange = ⟨.publish (.targetFired tick key count), ()⟩ := by
  constructor
  · intro started
    unfold starts at started
    split at started
    · cases beq_iff_eq.1 started
      exact ⟨_, _, rfl⟩
    · cases started
  · rintro ⟨tick, count, rfl⟩
    simp [starts]

def Saves (key : StateKey) : Exchange → Prop
  | ⟨.states (.put own _), .ok _⟩ => own = key
  | _ => False

def Fails (key : StateKey) : Exchange → Prop
  | ⟨.states (.get own), .error _⟩ | ⟨.states (.put own _), .error _⟩ => own = key
  | _ => False

def Releases : Exchange → Prop
  | ⟨.lock (.release _), _⟩ => True
  | _ => False

end Exchange

/-- The exchanges of a visit under a key, the newest first, with the stage it has come to. -/
inductive VisitRun (key : StateKey) : List Exchange → VisitStage → Prop where
  | idle : VisitRun key [] .idle
  | step {history : List Exchange} {before after : VisitStage} {exchange : Exchange}
      (visit : Visit) (isOwn : visit.key = key) (run : VisitRun key history before)
      (step : VisitStep visit before exchange after) :
      VisitRun key (exchange :: history) after

section Record

variable (key : StateKey) (history : List Exchange)

def HasSaved : Prop := ∃ e ∈ history, e.Saves key

def HasFailed : Prop := ∃ e ∈ history, e.Fails key

def HasActed : Prop := ∃ e ∈ history, e.call.IsAction

def HasReleased : Prop := ∃ e ∈ history, e.Releases

def HasTaken (lock : LockId) : Prop := ⟨.lock (.acquire lock), ()⟩ ∈ history

def VisitStage.Recalls : VisitStage → Prop
  | .idle | .located _ =>
      ¬ HasSaved key history ∧ ¬ HasFailed key history ∧ ¬ HasActed history ∧
        ¬ HasReleased history
  | .locked lock | .loaded lock _ =>
      (¬ HasSaved key history ∧ ¬ HasFailed key history ∧ ¬ HasActed history ∧
        ¬ HasReleased history) ∧ HasTaken history lock
  | .saved lock _ | .due lock =>
      HasSaved key history ∧ ¬ HasFailed key history ∧ ¬ HasActed history ∧
        ¬ HasReleased history ∧ HasTaken history lock
  | .acting .. => HasSaved key history ∧ ¬ HasFailed key history
  | .leaving _ | .left =>
      (HasActed history → HasSaved key history) ∧
        (HasFailed key history → ¬ HasSaved key history)

end Record

section Cons

variable {key : StateKey} {history : List Exchange} {e : Exchange} {lock : LockId}

@[simp] theorem hasSaved_cons :
    HasSaved key (e :: history) ↔ e.Saves key ∨ HasSaved key history := by
  simp [HasSaved]

@[simp] theorem hasFailed_cons :
    HasFailed key (e :: history) ↔ e.Fails key ∨ HasFailed key history := by
  simp [HasFailed]

@[simp] theorem hasActed_cons : HasActed (e :: history) ↔ e.call.IsAction ∨ HasActed history := by
  simp [HasActed]

@[simp] theorem hasReleased_cons :
    HasReleased (e :: history) ↔ e.Releases ∨ HasReleased history := by
  simp [HasReleased]

@[simp] theorem hasTaken_cons :
    HasTaken (e :: history) lock ↔ ⟨.lock (.acquire lock), ()⟩ = e ∨ HasTaken history lock :=
  List.mem_cons

end Cons

theorem Exchange.saves_iff {key : StateKey} {exchange : Exchange} :
    exchange.Saves key ↔ ∃ state, exchange = ⟨.states (.put key state), .ok ()⟩ := by
  constructor
  · intro saves
    unfold Exchange.Saves at saves
    split at saves
    · subst saves
      exact ⟨_, rfl⟩
    · cases saves
  · rintro ⟨state, rfl⟩
    exact rfl

theorem Exchange.saved?_eq_none {key : StateKey} {exchange : Exchange}
    (notSaves : ¬ exchange.Saves key) : exchange.saved? key = none := by
  rw [Option.eq_none_iff_forall_ne_some]
  intro state saved
  rw [Exchange.saved?_eq_some] at saved
  subst saved
  exact notSaves rfl

namespace Call

/-- Reading metrics is nothing that counts. -/
theorem IsReading.harmless (key : StateKey) {exchange : Exchange}
    (isReading : exchange.call.IsReading) :
    ¬ exchange.Saves key ∧ ¬ exchange.Fails key ∧ exchange.starts key = false ∧
      ¬ exchange.call.IsAction ∧ ¬ exchange.Releases := by
  obtain ⟨call, answer⟩ := exchange
  cases call with
  | metrics | snapshots =>
      simp [Exchange.Saves, Exchange.Fails, Exchange.starts, Exchange.Releases, Call.IsAction]
  | _ => cases isReading

theorem IsErrand.harmless (key : StateKey) {exchange : Exchange}
    (isErrand : exchange.call.IsErrand) :
    ¬ exchange.Saves key ∧ ¬ exchange.Fails key ∧ exchange.starts key = false := by
  obtain ⟨call, answer⟩ := exchange
  cases call with
  | states => cases isErrand
  | publish event =>
      cases event with
      | targetFired => cases isErrand
      | _ => simp [Exchange.Saves, Exchange.Fails, Exchange.starts]
  | _ => simp [Exchange.Saves, Exchange.Fails, Exchange.starts]

theorem Concerns.harmless (key : StateKey) {campaign : CampaignId} {exchange : Exchange}
    (concerns : exchange.call.Concerns campaign) :
    ¬ exchange.Saves key ∧ ¬ exchange.Fails key ∧ exchange.starts key = false := by
  obtain ⟨call, answer⟩ := exchange
  cases call with
  | platform => simp [Exchange.Saves, Exchange.Fails, Exchange.starts]
  | _ => cases concerns

end Call

theorem VisitRun.recalls {key : StateKey} {history : List Exchange} {stage : VisitStage}
    (run : VisitRun key history stage) : stage.Recalls key history := by
  induction run with
  | idle => simp [VisitStage.Recalls, HasSaved, HasFailed, HasActed, HasReleased]
  | step visit isOwn run step ih =>
      subst isOwn
      cases step with
      | read lock stored exchange isReading =>
          obtain ⟨notSaves, notFails, -, notActs, notReleases⟩ := isReading.harmless visit.key
          simp_all [VisitStage.Recalls]
      | act lock exchange isErrand =>
          obtain ⟨notSaves, notFails, -⟩ := isErrand.harmless visit.key
          simp_all [VisitStage.Recalls]
      | change lock campaign own exchange concerns =>
          obtain ⟨notSaves, notFails, -⟩ := concerns.harmless visit.key
          simp_all [VisitStage.Recalls]
      | _ =>
          simp_all [VisitStage.Recalls, Exchange.Saves, Exchange.Fails, Exchange.Releases,
            Call.IsAction]

def VisitStage.Owes : VisitStage → Prop
  | .saved _ step => step.decision.fires = true
  | .due _ => True
  | _ => False

namespace VisitStage

variable {key : StateKey} {history : List Exchange} {stage : VisitStage}

/-- A visit for which the store has failed has not saved anything, and it has not acted. -/
theorem Recalls.quiet_of_failed (recalls : stage.Recalls key history)
    (failed : HasFailed key history) : ¬ HasSaved key history ∧ ¬ HasActed history := by
  cases stage with
  | idle | located lock => exact absurd failed recalls.2.1
  | locked lock | loaded lock stored => exact absurd failed recalls.1.2.1
  | saved lock step | due lock => exact absurd failed recalls.2.1
  | acting lock use => exact absurd failed recalls.2
  | leaving lock | left =>
      have notSaved := recalls.2 failed
      exact ⟨notSaved, fun acted => notSaved (recalls.1 acted)⟩

end VisitStage

namespace VisitStep

variable {visit : Visit} {before after : VisitStage} {exchange : Exchange}

/-- Whoever tries to save a state has loaded one for a tick that is new. -/
theorem put_cases (step : VisitStep visit before exchange after) {key : StateKey}
    {state : TargetState} (isPut : exchange.call = .states (.put key state)) :
    key = visit.key ∧ ∃ lock stored snapshot, before = .loaded lock stored ∧
      (stored.getD visit.freshState).isStale visit.slot.tick = false ∧
      ∃ taken, visit.step (stored.getD visit.freshState) snapshot = some taken ∧
        state = taken.state := by
  cases step with
  | saveFails lock stored snapshot taken failure isNew isStep =>
      cases isPut
      exact ⟨rfl, lock, stored, snapshot, rfl, isNew, taken, isStep, rfl⟩
  | save lock stored snapshot taken isNew isStep =>
      cases isPut
      exact ⟨rfl, lock, stored, snapshot, rfl, isNew, taken, isStep, rfl⟩
  | read lock stored exchange isReading =>
      rw [isPut] at isReading
      cases isReading
  | act lock exchange isErrand =>
      rw [isPut] at isErrand
      cases isErrand
  | change lock campaign own exchange concerns =>
      rw [isPut] at concerns
      cases concerns
  | _ => cases isPut

/-- A visit asks the store of states for nothing but its own state. -/
theorem states_cases (step : VisitStep visit before exchange after) {query : StateQuery}
    (isQuery : exchange.call = .states query) :
    query = .get visit.key ∨ ∃ state, query = .put visit.key state := by
  cases step with
  | loadFails | loadStale | load =>
      cases isQuery
      exact Or.inl rfl
  | saveFails | save =>
      cases isQuery
      exact Or.inr ⟨_, rfl⟩
  | read lock stored exchange isReading =>
      rw [isQuery] at isReading
      cases isReading
  | act lock exchange isErrand =>
      rw [isQuery] at isErrand
      cases isErrand
  | change lock campaign own exchange concerns =>
      rw [isQuery] at concerns
      cases concerns
  | _ => cases isQuery

/-- A visit does not ask for agents. -/
theorem not_agents (step : VisitStep visit before exchange after) (query : AgentQuery) :
    exchange.call ≠ .agents query := by
  intro isQuery
  cases step with
  | read lock stored exchange isReading =>
      rw [isQuery] at isReading
      cases isReading
  | act lock exchange isErrand =>
      rw [isQuery] at isErrand
      cases isErrand
  | change lock campaign own exchange concerns =>
      rw [isQuery] at concerns
      cases concerns
  | _ => cases isQuery

/-- Actions are started by a visit that owes them, and made by one that has started them. -/
theorem action_cases (step : VisitStep visit before exchange after)
    (isAction : exchange.call.IsAction) :
    (∃ lock, before = .due lock) ∨ ∃ lock use, before = .acting lock use := by
  cases step with
  | fire lock count => exact Or.inl ⟨lock, rfl⟩
  | act lock | locateCampaign lock | change lock => exact Or.inr ⟨lock, _, rfl⟩
  | read lock stored exchange isReading =>
      exact absurd isAction (isReading.harmless visit.key).2.2.2.1
  | _ => simp [Call.IsAction] at isAction

/-- A step saves a state, or starts actions, or changes nothing about what is owed. -/
theorem owing_cases (step : VisitStep visit before exchange after) :
    (∃ lock stored snapshot taken, before = .loaded lock stored ∧ after = .saved lock taken ∧
        visit.step (stored.getD visit.freshState) snapshot = some taken ∧
        exchange = ⟨.states (.put visit.key taken.state), .ok ()⟩) ∨
      (∃ lock count, before = .due lock ∧ after = .acting lock .none ∧
        exchange = ⟨.publish (.targetFired visit.slot.tick visit.key count), ()⟩) ∨
      ((∀ key, exchange.saved? key = none) ∧ (∀ key, exchange.starts key = false) ∧
        (after.Owes ↔ before.Owes)) := by
  cases step with
  | save lock stored snapshot taken isNew isStep =>
      exact Or.inl ⟨lock, stored, snapshot, taken, rfl, rfl, isStep, rfl⟩
  | fire lock count => exact Or.inr (Or.inl ⟨lock, count, rfl, rfl, rfl⟩)
  | read lock stored exchange isReading =>
      refine Or.inr (Or.inr ⟨fun key => ?_, fun key => ?_, Iff.rfl⟩)
      · exact Exchange.saved?_eq_none (isReading.harmless key).1
      · exact (isReading.harmless key).2.2.1
  | act lock exchange isErrand =>
      refine Or.inr (Or.inr ⟨fun key => ?_, fun key => ?_, Iff.rfl⟩)
      · exact Exchange.saved?_eq_none (isErrand.harmless key).1
      · exact (isErrand.harmless key).2.2
  | change lock campaign own exchange concerns =>
      refine Or.inr (Or.inr ⟨fun key => ?_, fun key => ?_, Iff.rfl⟩)
      · exact Exchange.saved?_eq_none (concerns.harmless key).1
      · exact (concerns.harmless key).2.2
  | _ => exact Or.inr (Or.inr (by simp_all [Exchange.saved?, Exchange.starts, VisitStage.Owes]))

/-- A visit saves no state and starts no actions but for its own key. -/
theorem elsewhere (step : VisitStep visit before exchange after) {key : StateKey}
    (differs : key ≠ visit.key) : exchange.saved? key = none ∧ exchange.starts key = false := by
  rcases step.owing_cases with
    ⟨lock, stored, snapshot, taken, -, -, -, rfl⟩ | ⟨lock, count, -, -, rfl⟩ |
    ⟨unsaved, unstarted, -⟩
  · simp [Exchange.saved?, Exchange.starts, Ne.symm differs]
  · simp [Exchange.saved?, Exchange.starts, Ne.symm differs]
  · exact ⟨unsaved key, unstarted key⟩

/-- A visit has loaded what the store has just answered, or what it had loaded before. -/
theorem loaded_cases {lock : LockId} {stored : Option TargetState}
    (step : VisitStep visit before exchange (.loaded lock stored)) :
    before = .loaded lock stored ∧ (∀ key, exchange.saved? key = none) ∨
      before = .locked lock ∧ exchange = ⟨.states (.get visit.key), .ok stored⟩ := by
  cases step with
  | load lock stored isNew => exact Or.inr ⟨rfl, rfl⟩
  | read lock stored exchange isReading =>
      exact Or.inl ⟨rfl, fun key => Exchange.saved?_eq_none (isReading.harmless key).1⟩

end VisitStep

end AdMonitor
