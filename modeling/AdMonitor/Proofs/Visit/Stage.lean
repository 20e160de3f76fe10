import AdMonitor.Proofs.Program.Follows
import AdMonitor.Visit

/-!
# The stages of a visit

A visit seen from outside: which lock it holds, what it has loaded and saved,
and whether it acts.  `VisitStep` lists everything that a visit can do, so what
a visit keeps true is shown by one case for each of its constructors.  The main
statement is that the program of a visit follows it (`Visit.run_follows`).
-/

namespace AdMonitor

inductive CampaignUse where
  | none
  | located (campaign : CampaignId) (lock : LockId)
  | held (campaign : CampaignId) (lock : LockId)

inductive VisitStage where
  | idle
  | located (lock : LockId)
  | locked (lock : LockId)
  /-- The stored state has been loaded and is not stale. -/
  | loaded (lock : LockId) (stored : Option TargetState)
  /-- The state of a step has been saved. -/
  | saved (lock : LockId) (step : Visit.Step)
  /-- The saved step fires, but no action has been started. -/
  | due (lock : LockId)
  | acting (lock : LockId) (use : CampaignUse)
  | leaving (lock : LockId)
  | left

namespace PlatformQuery

def campaign : PlatformQuery → CampaignId
  | .currentBudget campaign | .updateBudget campaign _ | .setPaused campaign _ => campaign

end PlatformQuery

namespace Call

def IsReading : Call → Prop
  | .metrics .. | .snapshots .. => True
  | _ => False

def IsErrand : Call → Prop
  | .enqueue .. | .post .. | .sleep _ | .jitter _ | .clock => True
  | .publish (.actionCompleted ..) => True
  | _ => False

def IsAttempt : Call → Prop
  | .post .. | .sleep _ | .jitter _ => True
  | _ => False

theorem IsAttempt.isErrand {call : Call} (isAttempt : call.IsAttempt) : call.IsErrand := by
  cases call with
  | post | sleep | jitter => trivial
  | _ => cases isAttempt

def Concerns (campaign : CampaignId) : Call → Prop
  | .platform _ query => query.campaign = campaign
  | _ => False

end Call

inductive VisitStep (visit : Visit) : VisitStage → Exchange → VisitStage → Prop where
  | locate (lock : LockId) :
      VisitStep visit .idle ⟨.lock (.find (.target visit.key)), lock⟩ (.located lock)
  | enter (lock : LockId) :
      VisitStep visit (.located lock) ⟨.lock (.acquire lock), ()⟩ (.locked lock)
  | loadFails (lock : LockId) (failure : Failure) :
      VisitStep visit (.locked lock) ⟨.states (.get visit.key), .error failure⟩
        (.leaving lock)
  | loadStale (lock : LockId) (stored : Option TargetState) :
      VisitStep visit (.locked lock) ⟨.states (.get visit.key), .ok stored⟩ (.leaving lock)
  | load (lock : LockId) (stored : Option TargetState)
      (isNew : (stored.getD visit.freshState).isStale visit.slot.tick = false) :
      VisitStep visit (.locked lock) ⟨.states (.get visit.key), .ok stored⟩
        (.loaded lock stored)
  | read (lock : LockId) (stored : Option TargetState) (exchange : Exchange)
      (isReading : exchange.call.IsReading) :
      VisitStep visit (.loaded lock stored) exchange (.loaded lock stored)
  | giveUp (lock : LockId) (stored : Option TargetState) (reason : String) :
      VisitStep visit (.loaded lock stored)
        ⟨.publish (.targetSkipped visit.slot.tick visit.key reason), ()⟩ (.leaving lock)
  /-- The count overflows, and nothing is saved. -/
  | overflow (lock : LockId) (stored : Option TargetState) (snapshot : Snapshot)
      (overflows : visit.step (stored.getD visit.freshState) snapshot = none) :
      VisitStep visit (.loaded lock stored) ⟨.lock (.release lock), ()⟩ .left
  | saveFails (lock : LockId) (stored : Option TargetState) (snapshot : Snapshot)
      (step : Visit.Step) (failure : Failure)
      (isNew : (stored.getD visit.freshState).isStale visit.slot.tick = false)
      (isStep : visit.step (stored.getD visit.freshState) snapshot = some step) :
      VisitStep visit (.loaded lock stored)
        ⟨.states (.put visit.key step.state), .error failure⟩ (.leaving lock)
  | save (lock : LockId) (stored : Option TargetState) (snapshot : Snapshot)
      (step : Visit.Step)
      (isNew : (stored.getD visit.freshState).isStale visit.slot.tick = false)
      (isStep : visit.step (stored.getD visit.freshState) snapshot = some step) :
      VisitStep visit (.loaded lock stored)
        ⟨.states (.put visit.key step.state), .ok ()⟩ (.saved lock step)
  | hold (lock : LockId) (step : Visit.Step) (holds : step.decision.fires = false) :
      VisitStep visit (.saved lock step)
        ⟨.publish (.targetEvaluated visit.slot.tick visit.key step.verdict step.satisfied
          step.decision), ()⟩ (.leaving lock)
  | decide (lock : LockId) (step : Visit.Step) (fires : step.decision.fires = true) :
      VisitStep visit (.saved lock step)
        ⟨.publish (.targetEvaluated visit.slot.tick visit.key step.verdict step.satisfied
          step.decision), ()⟩ (.due lock)
  | fire (lock : LockId) (count : UInt64) :
      VisitStep visit (.due lock)
        ⟨.publish (.targetFired visit.slot.tick visit.key count), ()⟩ (.acting lock .none)
  | act (lock : LockId) (exchange : Exchange) (isErrand : exchange.call.IsErrand) :
      VisitStep visit (.acting lock .none) exchange (.acting lock .none)
  | locateCampaign (lock : LockId) (campaign : CampaignId) (own : LockId) :
      VisitStep visit (.acting lock .none) ⟨.lock (.find (.campaign campaign)), own⟩
        (.acting lock (.located campaign own))
  | enterCampaign (lock : LockId) (campaign : CampaignId) (own : LockId) :
      VisitStep visit (.acting lock (.located campaign own)) ⟨.lock (.acquire own), ()⟩
        (.acting lock (.held campaign own))
  | change (lock : LockId) (campaign : CampaignId) (own : LockId) (exchange : Exchange)
      (concerns : exchange.call.Concerns campaign) :
      VisitStep visit (.acting lock (.held campaign own)) exchange
        (.acting lock (.held campaign own))
  | leaveCampaign (lock : LockId) (campaign : CampaignId) (own : LockId) :
      VisitStep visit (.acting lock (.held campaign own)) ⟨.lock (.release own), ()⟩
        (.acting lock .none)
  | skip (lock : LockId) (reason : String) :
      VisitStep visit (.leaving lock)
        ⟨.publish (.targetSkipped visit.slot.tick visit.key reason), ()⟩ (.leaving lock)
  | finish (lock : LockId) :
      VisitStep visit (.acting lock .none) ⟨.lock (.release lock), ()⟩ .left
  | leave (lock : LockId) :
      VisitStep visit (.leaving lock) ⟨.lock (.release lock), ()⟩ .left

namespace Agent

theorem fetch_uses (limit : Span) (workspace : WorkspaceId) (names : NameSet)
    (entities : List Entity) :
    (Member.fetch limit workspace names entities).Uses Call.IsReading (fun _ => True) :=
  Program.Uses.ask trivial fun _ => trivial

theorem readEntity_uses (limit : Span) (agent : Agent) (id : EntityId) :
    (agent.readEntity limit id).Uses Call.IsReading (fun _ => True) := by
  refine Program.Uses.ask trivial fun reply => ?_
  split
  · trivial
  · trivial
  · split
    · exact (fetch_uses ..).bind fun _ _ => trivial
    · trivial

theorem readAggregate_uses (limit : Span) (agent : Agent) (entities : List Entity) :
    (agent.readAggregate limit entities).Uses Call.IsReading (fun _ => True) := by
  unfold readAggregate
  split
  · trivial
  · exact (fetch_uses ..).bind fun _ _ => trivial

/-- Reading a target makes no call but those that read metrics. -/
theorem read_uses (limit : Span) (agent : Agent) (target : Target) :
    (agent.read limit target).Uses Call.IsReading (fun _ => True) := by
  cases target with
  | aggregate members => exact readAggregate_uses limit agent members
  | entity id => exact readEntity_uses limit agent id

end Agent

namespace Rescale

theorem run_uses (limit : Span) (plan : BudgetPlan) (campaign : CampaignId)
    (fallback : Option Float) :
    (run limit plan campaign fallback).Uses (Call.Concerns campaign) (fun _ => True) := by
  refine Program.Uses.ask rfl fun reply => ?_
  split
  · trivial
  · split
    · trivial
    · refine Program.Uses.ask rfl fun reply => ?_
      split <;> trivial

end Rescale

theorem Posted.run_uses (rule : ExecutionRule) (url : String) (payload : Json) (retries : Nat)
    (attempts : UInt32) (status : Option UInt16) :
    (Posted.run rule url payload retries attempts status).Uses Call.IsAttempt
      (fun _ => True) := by
  induction retries generalizing attempts status with
  | zero =>
      unfold Posted.run
      refine Program.Uses.ask trivial fun answer => ?_
      split <;> trivial
  | succ retries ih =>
      unfold Posted.run
      refine Program.Uses.ask trivial fun answer => ?_
      split
      · trivial
      · refine Program.Uses.ask trivial fun jitter => ?_
        refine Program.Uses.ask trivial fun _ => ?_
        exact ih _ _

theorem Posted.run_errands (rule : ExecutionRule) (url : String) (payload : Json) (retries : Nat)
    (attempts : UInt32) (status : Option UInt16) :
    (Posted.run rule url payload retries attempts status).Uses Call.IsErrand (fun _ => True) :=
  (Posted.run_uses ..).weaken (fun _ => Call.IsAttempt.isErrand) fun _ => id

section Acting

variable (visit : Visit) (lock : LockId)

def Visit.ActsUnder {α : Type} (program : Program α) : Prop :=
  program.Follows (VisitStep visit) (fun stage _ => stage = .acting lock .none)
    (.acting lock .none)

namespace Visit.ActsUnder

variable {visit lock} {α β : Type}

theorem of_uses {program : Program α}
    (uses : program.Uses Call.IsErrand fun _ => True) : visit.ActsUnder lock program :=
  (Program.Follows.of_uses uses fun exchange isErrand => .act lock exchange isErrand).weaken
    fun _ _ found => found.1

theorem bind {program : Program α} {rest : α → Program β}
    (first : visit.ActsUnder lock program)
    (second : ∀ value, visit.ActsUnder lock (rest value)) :
    visit.ActsUnder lock (program >>= rest) := by
  refine Program.Follows.bind first ?_
  rintro _ value rfl
  exact second value

/-- Changes of a campaign under its lock. -/
theorem withLock {campaign : CampaignId} {body : Program α}
    (uses : body.Uses (Call.Concerns campaign) fun _ => True) :
    visit.ActsUnder lock (Program.withLock (.campaign campaign) body) := by
  refine Program.Follows.ask fun own => ⟨_, .locateCampaign lock campaign own, ?_⟩
  refine Program.Follows.ask fun _ => ⟨_, .enterCampaign lock campaign own, ?_⟩
  refine Program.Follows.bind (Program.Follows.of_uses uses
    fun exchange concerns => .change lock campaign own exchange concerns) ?_
  rintro _ value ⟨rfl, -⟩
  exact Program.Follows.ask fun _ => ⟨_, .leaveCampaign lock campaign own, rfl⟩

theorem runAll (limit : Span) (plan : BudgetPlan) (members : List Member) :
    visit.ActsUnder lock (Rescale.runAll limit plan members) := by
  induction members with
  | nil => exact rfl
  | cons member rest ih =>
      refine bind (withLock (Rescale.run_uses ..)) fun _ => ?_
      exact bind ih fun _ => rfl

theorem pauseAll (limit : Span) (campaigns : List CampaignId) :
    visit.ActsUnder lock (Firing.pauseAll limit campaigns) := by
  induction campaigns with
  | nil => exact rfl
  | cons campaign rest ih =>
      refine bind (withLock ⟨rfl, fun _ => trivial⟩) fun reply => ?_
      refine bind ih fun failures => ?_
      split <;> rfl

theorem act (rule : ExecutionRule) (firing : Firing) (action : Action) :
    visit.ActsUnder lock (firing.act rule action) := by
  cases action with
  | email =>
      refine of_uses (Program.Uses.ask trivial fun reply => ?_)
      split <;> trivial
  | scaleBudget plan =>
      rw [Firing.act]
      split
      · exact bind (runAll ..) fun _ => rfl
      · rfl
  | pauseCampaign =>
      rw [Firing.act]
      split
      · rfl
      · exact bind (pauseAll ..) fun _ => rfl
  | webhook url => exact bind (of_uses (Posted.run_errands ..)) fun _ => rfl

theorem runActions (rule : ExecutionRule) (firing : Firing) (index : Nat)
    (actions : List Action) :
    visit.ActsUnder lock (firing.runActions rule index actions) := by
  induction actions generalizing index with
  | nil => exact rfl
  | cons action rest ih =>
      refine bind (act rule firing action) fun done => ?_
      refine bind (of_uses ⟨trivial, fun _ => trivial⟩) fun record => ?_
      exact bind (ih (index + 1)) fun _ => rfl

theorem announce (records : List ActionRecord) :
    visit.ActsUnder lock (visit.announce records) := by
  induction records with
  | nil => exact rfl
  | cons record rest ih =>
      exact bind (of_uses ⟨trivial, fun _ => trivial⟩) fun _ => ih

end Visit.ActsUnder

end Acting

/-- What a step is made of: a verdict is counted, and the flag passes the trigger. -/
theorem Visit.step_eq_some {visit : Visit} {state : TargetState} {snapshot : Snapshot}
    {step : Step} : visit.step state snapshot = some step ↔
      ∃ progress satisfied, visit.tracker.step state.progress
          (visit.agent.condition.evaluate snapshot) = some (progress, satisfied) ∧
        step = ⟨visit.agent.condition.evaluate snapshot, satisfied,
          (visit.agent.trigger.step state.firings satisfied visit.slot.now).2,
          { progress
            firings := (visit.agent.trigger.step state.firings satisfied visit.slot.now).1
            lastTick := some visit.slot.tick
            updatedAt := visit.slot.now }⟩ := by
  constructor
  · intro isStep
    obtain ⟨⟨progress, satisfied⟩, counted, same⟩ := Option.bind_eq_some_iff.1 isStep
    exact ⟨progress, satisfied, counted, (Option.some.inj same).symm⟩
  · rintro ⟨progress, satisfied, counted, rfl⟩
    simp [Visit.step, counted]

/-- The stages at which a visit has only its lock to give back. -/
inductive VisitStage.IsDone (visit : Visit) (lock : LockId) : VisitStage → Prop where
  | overflowed (stored : Option TargetState) (snapshot : Snapshot)
      (overflows : visit.step (stored.getD visit.freshState) snapshot = none) :
      IsDone visit lock (.loaded lock stored)
  | leaving : IsDone visit lock (.leaving lock)
  | acting : IsDone visit lock (.acting lock .none)

namespace Visit

variable (visit : Visit) (lock : LockId)

theorem skip_follows (status : TargetStatus) (reason : String) :
    (visit.skip status reason).Follows (VisitStep visit)
      (fun stage _ => stage.IsDone visit lock) (.leaving lock) :=
  Program.Follows.ask fun _ => ⟨_, .skip lock reason, .leaving⟩

theorem fire_follows (firing : Firing) :
    (visit.fire firing).Follows (VisitStep visit)
      (fun stage _ => stage = .acting lock .none) (.due lock) := by
  refine Program.Follows.ask fun _ => ⟨_, .fire lock firing.count, ?_⟩
  refine ActsUnder.bind (ActsUnder.runActions ..) fun records => ?_
  exact ActsUnder.bind (ActsUnder.announce records) fun _ => rfl

theorem finish_follows (stored : Option TargetState) (snapshot : Snapshot)
    (members : List Member) {step : Step}
    (isNew : (stored.getD visit.freshState).isStale visit.slot.tick = false)
    (isStep : visit.step (stored.getD visit.freshState) snapshot = some step) :
    (visit.finish step snapshot members).Follows (VisitStep visit)
      (fun stage _ => stage.IsDone visit lock) (.loaded lock stored) := by
  refine Program.Follows.ask fun answer => ?_
  cases answer with
  | error failure =>
      exact ⟨_, .saveFails lock stored snapshot step failure isNew isStep,
        visit.skip_follows lock _ _⟩
  | ok done =>
      refine ⟨_, .save lock stored snapshot step isNew isStep, Program.Follows.ask fun _ => ?_⟩
      cases fires : step.decision.fires with
      | false => exact ⟨_, .hold lock _ fires, .leaving⟩
      | true =>
          refine ⟨_, .decide lock _ fires, ?_⟩
          refine (visit.fire_follows lock _).bind ?_
          rintro _ actions rfl
          exact .acting

theorem advance_follows (stored : Option TargetState)
    (isNew : (stored.getD visit.freshState).isStale visit.slot.tick = false) :
    (visit.advance (stored.getD visit.freshState)).Follows (VisitStep visit)
      (fun stage _ => stage.IsDone visit lock) (.loaded lock stored) := by
  refine (Program.Follows.of_uses (visit.agent.read_uses _ _)
    fun exchange isReading => .read lock stored exchange isReading).bind ?_
  rintro _ reading ⟨rfl, -⟩
  cases reading with
  | unavailable reason =>
      exact Program.Follows.ask fun _ => ⟨_, .giveUp lock stored reason, .leaving⟩
  | available snapshot members =>
      dsimp only
      cases isStep : visit.step (stored.getD visit.freshState) snapshot with
      | none => exact .overflowed stored snapshot isStep
      | some step => exact visit.finish_follows lock stored snapshot members isNew isStep

theorem underLock_follows :
    visit.underLock.Follows (VisitStep visit) (fun stage _ => stage.IsDone visit lock)
      (.locked lock) := by
  refine Program.Follows.ask fun answer => ?_
  cases answer with
  | error failure => exact ⟨_, .loadFails lock failure, visit.skip_follows lock _ _⟩
  | ok stored =>
      cases stale : (stored.getD visit.freshState).isStale visit.slot.tick with
      | true =>
          refine ⟨_, .loadStale lock stored, ?_⟩
          simpa [stale] using visit.skip_follows lock _ _
      | false =>
          refine ⟨_, .load lock stored stale, ?_⟩
          simpa [stale] using visit.advance_follows lock stored stale

/-- A visit does nothing that `VisitStep` does not list, and it gives its lock back. -/
theorem run_follows :
    visit.run.Follows (VisitStep visit) (fun stage _ => stage = .left) .idle := by
  refine Program.Follows.ask fun lock => ⟨_, .locate lock, ?_⟩
  refine Program.Follows.ask fun _ => ⟨_, .enter lock, ?_⟩
  refine (visit.underLock_follows lock).bind ?_
  rintro _ report (⟨stored, snapshot, overflows⟩ | leaving | acting)
  · exact Program.Follows.ask fun _ => ⟨_, .overflow lock stored snapshot overflows, rfl⟩
  · exact Program.Follows.ask fun _ => ⟨_, .leave lock, rfl⟩
  · exact Program.Follows.ask fun _ => ⟨_, .finish lock, rfl⟩

end Visit

end AdMonitor
