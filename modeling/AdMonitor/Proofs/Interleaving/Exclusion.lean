import AdMonitor.Proofs.Interleaving.Bookkeeping
import AdMonitor.Proofs.Interleaving.Requests

/-!
# Exclusion among all requests

A visit is inside from when it takes the lock of its target until it gives the
lock back.  Whatever is done to a system, no two visits are inside with one
lock.  They may be with two: the name of a target that is forgotten while a
visit is inside comes to stand for another lock.
-/

namespace AdMonitor

section Inside

variable (key : StateKey) (history : List Exchange) (lock : LockId)

def HasFound : Prop := ⟨.lock (.find (.target key)), lock⟩ ∈ history

/-- Whether a visit has taken the lock that it had found for its key, and not given it back. -/
def IsInside : Prop :=
  HasFound key history lock ∧ HasTaken history lock ∧ ⟨.lock (.release lock), ()⟩ ∉ history

def VisitStage.Locates : VisitStage → Prop
  | .idle => history = []
  | .located own => history = [⟨.lock (.find (.target key)), own⟩]
  | .locked own | .loaded own _ | .saved own _ | .due own | .acting own _ | .leaving own =>
      ∀ lock, HasFound key history lock → lock = own
  | .left => ∀ lock, HasFound key history lock → ⟨.lock (.release lock), ()⟩ ∈ history

end Inside

variable {key : StateKey} {history : List Exchange} {stage : VisitStage} {lock : LockId}

/-- A lock is found for a target by a visit that begins. -/
theorem VisitStep.find_cases {visit : Visit} {before after : VisitStage} {exchange : Exchange}
    (step : VisitStep visit before exchange after)
    (isFind : exchange = ⟨.lock (.find (.target key)), lock⟩) :
    before = .idle ∧ after = .located lock := by
  cases step with
  | locate own =>
      cases isFind
      exact ⟨rfl, rfl⟩
  | read own stored exchange isReading =>
      subst isFind
      cases isReading
  | act own exchange isErrand =>
      subst isFind
      cases isErrand
  | change own campaign campaignLock exchange concerns =>
      subst isFind
      cases concerns
  | _ => cases isFind

theorem VisitRun.locates (run : VisitRun key history stage) : stage.Locates key history := by
  induction run with
  | idle => rfl
  | @step history before after exchange visit isOwn run step ih =>
      subst isOwn
      have found : ∀ lock, HasFound visit.key (exchange :: history) lock →
          before ≠ .idle → HasFound visit.key history lock := by
        intro lock isFound isBusy
        rcases List.mem_cons.1 isFound with isNew | older
        · exact absurd (step.find_cases isNew.symm).1 isBusy
        · exact older
      cases step with
      | locate own =>
          rw [show history = [] from ih]
          rfl
      | enter own =>
          intro lock isFound
          have older := found lock isFound (by simp)
          rw [show history = _ from ih, HasFound, List.mem_singleton] at older
          cases older
          rfl
      | finish own | leave own | overflow own =>
          intro lock isFound
          rw [ih lock (found lock isFound (by simp))]
          exact List.mem_cons_self
      | _ => exact fun lock isFound => ih lock (found lock isFound (by simp))

/-- Whoever is inside holds the lock. -/
theorem VisitRun.held_of_isInside (run : VisitRun key history stage)
    (isInside : IsInside key history lock) : (.target key, lock) ∈ stage.held key := by
  obtain ⟨isFound, isTaken, notReleased⟩ := isInside
  have locates := run.locates
  cases stage with
  | idle =>
      rw [show history = [] from locates] at isFound
      cases isFound
  | located own =>
      rw [show history = _ from locates, HasTaken, List.mem_singleton] at isTaken
      cases isTaken
  | left => exact absurd (locates lock isFound) notReleased
  | acting own use =>
      rw [locates lock isFound]
      cases use <;> exact List.mem_cons_self
  | locked own | loaded own stored | saved own step | due own | leaving own =>
      rw [locates lock isFound]
      exact List.mem_cons_self

/-- Anything may happen to the agents, but they are stored under their own ids. -/
def Regime.free : Regime where
  lawful := AgentStore.IsKeyed
  serves _ := True
  spared _ := False
  serves_of_stored keyed found := ⟨keyed _ _ found, trivial⟩
  keeps_spared _ isSpared := isSpared.elim
  stored_of_spared _ isSpared := isSpared.elim
  lawful_mark := AgentStore.IsKeyed.mark

variable {outside : Outside}

theorem Regime.free_admits (deed : Deed outside) : Regime.free.Admits deed := by
  cases deed with
  | turn turn | serve index reaction => trivial
  | update agent now => exact fun store after keyed updated => keyed.update updated
  | submit request =>
      intro call makes
      cases request with
      | register agent =>
          exact Request.register_allowed (fun _ _ => AgentStore.IsKeyed.create) makes
      | delete id =>
          refine Request.delete_allowed (fun store keyed => ?_) (fun _ => False.elim) makes
          exact AgentStore.IsKeyed.erase keyed id
      | explain id => exact Request.explain_allowed makes

/--
Whatever is done to a system, also while ticks are under way, two visits that
are inside with one lock are the same visit, and so they have one key.
-/
theorem System.performAll_excludes [UrlParser] (settings : Settings) (agents : List Agent)
    (states : StateStore) (world : outside.World) (deeds : List (Deed outside))
    (id other : VisitId) (lock : LockId) :
    let system := (System.start (.ofAgents agents) states world).performAll settings deeds
    IsInside id.key (History.ofVisit id system.log) lock →
      IsInside other.key (History.ofVisit other system.log) lock → id = other := by
  intro system isInside isInside'
  have lawful : Regime.free.lawful (.ofAgents agents) := AgentStore.ofAgents_keyed agents
  obtain ⟨stages, -, reached⟩ := System.performAll_reachable settings lawful states world deeds
    fun deed _ => Regime.free_admits deed
  have discipline := reached.recorded.orderly.discipline
  have isHeld := (reached.runs id).held_of_isInside isInside
  have isHeld' := (reached.runs other).held_of_isInside isInside'
  have sameName := discipline.name_eq (.target id.key) (.target other.key) lock
    (Or.inr ⟨id, discipline.known_of_held id _ isHeld⟩)
    (Or.inr ⟨other, discipline.known_of_held other _ isHeld'⟩)
  rw [← sameName] at isHeld'
  exact discipline.exclusive id other _ isHeld isHeld'

end AdMonitor
