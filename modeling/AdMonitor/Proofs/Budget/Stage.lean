import AdMonitor.Proofs.Interleaving.Locks

/-!
# Budget changes under campaign locks

The actions of a firing seen from the budgets that they change: which campaign
lock they hold, which budget they have read under it, and which changes the
platform has taken.  `BudgetStep` lists everything that actions can do, and the
main statement is that the changes taken are those recorded without an error
(`Firing.run_rescales`).
-/

namespace AdMonitor

inductive BudgetUse where
  | none
  | located (campaign : CampaignId) (lock : LockId)
  | held (campaign : CampaignId) (lock : LockId)
  /-- The budget was found to be `previous`, and nothing has been written since. -/
  | told (campaign : CampaignId) (lock : LockId) (previous : Float)

structure BudgetStage where
  use : BudgetUse
  /-- The changes that the platform has taken, in their order. -/
  made : List BudgetChange

namespace BudgetUse

def knownLocks : BudgetUse → List NamedLock
  | .none => []
  | .located campaign lock | .held campaign lock | .told campaign lock _ =>
      [(.campaign campaign, lock)]

def heldLocks : BudgetUse → List NamedLock
  | .none | .located .. => []
  | .held campaign lock | .told campaign lock _ => [(.campaign campaign, lock)]

end BudgetUse

inductive BudgetStep : BudgetStage → Exchange → BudgetStage → Prop where
  | errand (made : List BudgetChange) (exchange : Exchange) (isErrand : exchange.call.IsErrand) :
      BudgetStep ⟨.none, made⟩ exchange ⟨.none, made⟩
  | locate (made : List BudgetChange) (campaign : CampaignId) (lock : LockId) :
      BudgetStep ⟨.none, made⟩ ⟨.lock (.find (.campaign campaign)), lock⟩
        ⟨.located campaign lock, made⟩
  | enter (made : List BudgetChange) (campaign : CampaignId) (lock : LockId) :
      BudgetStep ⟨.located campaign lock, made⟩ ⟨.lock (.acquire lock), ()⟩
        ⟨.held campaign lock, made⟩
  | consult (made : List BudgetChange) (campaign : CampaignId) (lock : LockId) (limit : Span)
      (query : PlatformQuery) (reply : Reply query.Answer)
      (writesNothing : ∀ own budget, query ≠ .updateBudget own budget) :
      BudgetStep ⟨.held campaign lock, made⟩ ⟨.platform limit query, reply⟩
        ⟨.held campaign lock, made⟩
  | read (made : List BudgetChange) (campaign : CampaignId) (lock : LockId) (limit : Span)
      (found fallback : Option Float) (previous : Float)
      (isFound : (found.filter Float.isFinite).or fallback = some previous) :
      BudgetStep ⟨.held campaign lock, made⟩
        ⟨.platform limit (.currentBudget campaign), .answered (.ok found)⟩
        ⟨.told campaign lock previous, made⟩
  | write (made : List BudgetChange) (campaign : CampaignId) (lock : LockId) (limit : Span)
      (change : BudgetChange) (isOwn : change.campaign = campaign) :
      BudgetStep ⟨.told campaign lock change.previous, made⟩
        ⟨.platform limit (.updateBudget campaign change.new), .answered (.ok ())⟩
        ⟨.held campaign lock, made ++ [change]⟩
  | refuse (made : List BudgetChange) (campaign : CampaignId) (lock : LockId) (limit : Span)
      (previous budget : Float) (reply : Reply Unit) (isRefused : reply ≠ .answered (.ok ())) :
      BudgetStep ⟨.told campaign lock previous, made⟩
        ⟨.platform limit (.updateBudget campaign budget), reply⟩ ⟨.held campaign lock, made⟩
  | leave (made : List BudgetChange) (campaign : CampaignId) (lock : LockId) :
      BudgetStep ⟨.held campaign lock, made⟩ ⟨.lock (.release lock), ()⟩ ⟨.none, made⟩

theorem BudgetStep.lockMove {before after : BudgetStage} {exchange : Exchange}
    (step : BudgetStep before exchange after) :
    LockMove before.use.knownLocks before.use.heldLocks after.use.knownLocks
      after.use.heldLocks exchange := by
  cases step with
  | locate made campaign lock =>
      exact .find (.campaign campaign) lock (by simp [BudgetUse.knownLocks]) rfl
  | enter made campaign lock =>
      exact .enter (.campaign campaign) lock (by simp [BudgetUse.knownLocks]) rfl
        (by simp [BudgetUse.heldLocks])
  | leave made campaign lock =>
      exact .leave (.campaign campaign) lock (by simp [BudgetUse.heldLocks])
        (by simp [BudgetUse.knownLocks]) (by simp [BudgetUse.heldLocks])
  | errand made exchange isErrand =>
      exact .other _ (fun query isLock => by simp [isLock, Call.IsErrand] at isErrand) rfl rfl
  | consult | read | write | refuse => exact .other _ (fun query isLock => by cases isLock) rfl rfl

theorem Reply.result_eq_ok {α : Type} {limit : Span} {reply : Reply α} {value : α} :
    reply.result limit = .ok value ↔ reply = .answered (.ok value) := by
  cases reply <;> simp [Reply.result]

def BudgetChange.confirmed (changes : List BudgetChange) : List BudgetChange :=
  changes.filter fun change => change.error.isNone

def ActionDetail.confirmed : Option ActionDetail → List BudgetChange
  | some (.budget changes _) => BudgetChange.confirmed changes
  | _ => []

def ActionRecord.confirmed (records : List ActionRecord) : List BudgetChange :=
  records.flatMap fun record => ActionDetail.confirmed record.detail

/--
A program that begins and ends between two actions.  If `taken` are the latest
changes when it begins, the latest ones at its end are those its value confirms.
-/
structure Program.Rescales {α : Type} (taken : List BudgetChange) (program : Program α)
    (confirmed : α → List BudgetChange) : Prop where
  follows : ∀ made, program.Follows BudgetStep
    (fun stage value => stage = ⟨.none, made ++ confirmed value⟩) ⟨.none, made ++ taken⟩

namespace Program.Rescales

variable {α β : Type} {taken : List BudgetChange} {program : Program α}
  {rest : α → Program β} {confirmed : α → List BudgetChange} {all : β → List BudgetChange}

theorem done {value : α} (same : taken = confirmed value) :
    (Program.done value).Rescales taken confirmed :=
  ⟨fun made => congrArg (fun changes => BudgetStage.mk .none (made ++ changes)) same⟩

theorem bind (first : program.Rescales taken confirmed)
    (second : ∀ value, (rest value).Rescales (confirmed value) all) :
    (program >>= rest).Rescales taken all := by
  refine ⟨fun made => (first.follows made).bind ?_⟩
  rintro _ value rfl
  exact (second value).follows made

/-- Changes from before a program come before its own. -/
theorem after (own : program.Rescales [] confirmed) :
    program.Rescales taken fun value => taken ++ confirmed value := by
  refine ⟨fun made => ?_⟩
  have follows := own.follows (made ++ taken)
  rw [List.append_nil] at follows
  refine follows.weaken ?_
  rintro _ value rfl
  rw [List.append_assoc]

theorem of_uses {post : α → Prop} (uses : program.Uses Call.IsErrand post) :
    program.Rescales taken fun _ => taken := by
  refine ⟨fun made => ?_⟩
  have stays : ∀ exchange : Exchange, exchange.call.IsErrand →
      BudgetStep ⟨.none, made ++ taken⟩ exchange ⟨.none, made ++ taken⟩ :=
    fun exchange isErrand => .errand _ exchange isErrand
  have follows := Program.Follows.of_uses uses stays
  exact follows.weaken fun _ _ found => found.1

/-- A body that runs under the lock of a campaign. -/
theorem withLock {campaign : CampaignId}
    (body : ∀ lock made, program.Follows BudgetStep
      (fun stage value => stage = ⟨.held campaign lock, made ++ confirmed value⟩)
      ⟨.held campaign lock, made⟩) :
    (Program.withLock (.campaign campaign) program).Rescales [] confirmed := by
  refine ⟨fun made => ?_⟩
  rw [List.append_nil]
  refine Program.Follows.ask fun lock => ⟨_, .locate made campaign lock, ?_⟩
  refine Program.Follows.ask fun _ => ⟨_, .enter made campaign lock, ?_⟩
  refine (body lock made).bind ?_
  rintro _ value rfl
  exact Program.Follows.ask fun _ => ⟨_, .leave _ campaign lock, rfl⟩

end Program.Rescales

def Rescale.confirmed (outcome : Rescale) : List BudgetChange :=
  BudgetChange.confirmed outcome.change?.toList

theorem Rescale.run_follows (limit : Span) (plan : BudgetPlan) (campaign : CampaignId)
    (fallback : Option Float) (lock : LockId) (made : List BudgetChange) :
    (Rescale.run limit plan campaign fallback).Follows BudgetStep
      (fun stage outcome => stage = ⟨.held campaign lock, made ++ outcome.confirmed⟩)
      ⟨.held campaign lock, made⟩ := by
  have unread : ∀ reply : Reply (Option Float), BudgetStep ⟨.held campaign lock, made⟩
      ⟨.platform limit (.currentBudget campaign), reply⟩ ⟨.held campaign lock, made⟩ :=
    fun reply => .consult made campaign lock limit (.currentBudget campaign) reply (by simp)
  have changesNothing : ∀ outcome : Rescale, outcome.confirmed = [] →
      BudgetStage.mk (.held campaign lock) made =
        ⟨.held campaign lock, made ++ outcome.confirmed⟩ :=
    fun outcome isEmpty => by rw [isEmpty, List.append_nil]
  refine Program.Follows.ask fun reply => ?_
  cases result : Reply.result limit reply with
  | error failure => exact ⟨_, unread reply, changesNothing _ rfl⟩
  | ok found =>
      cases isFound : (found.filter Float.isFinite).or fallback with
      | none =>
          simp only [isFound]
          exact ⟨_, unread reply, changesNothing _ rfl⟩
      | some previous =>
          simp only [isFound]
          obtain rfl := Reply.result_eq_ok.1 result
          refine ⟨_, .read made campaign lock limit found fallback previous isFound, ?_⟩
          refine Program.Follows.ask fun reply => ?_
          cases result : Reply.result limit reply with
          | ok done =>
              obtain rfl := Reply.result_eq_ok.1 result
              exact ⟨_, .write made campaign lock limit (plan.apply campaign previous) rfl, rfl⟩
          | error failure =>
              have isRefused : reply ≠ .answered (.ok ()) := by
                rintro rfl
                cases result
              exact ⟨_, .refuse made campaign lock limit previous _ reply isRefused,
                changesNothing _ rfl⟩

theorem Rescale.confirmed_cons (campaign : CampaignId) (outcome : Rescale)
    (others : List (CampaignId × Rescale)) :
    BudgetChange.confirmed (changes ((campaign, outcome) :: others)) =
      outcome.confirmed ++ BudgetChange.confirmed (changes others) := by
  cases outcome <;> simp [changes, change?, confirmed, BudgetChange.confirmed, List.filter_cons]
  split <;> simp

theorem Rescale.runAll_rescales (limit : Span) (plan : BudgetPlan) (members : List Member) :
    (runAll limit plan members).Rescales []
      (fun outcomes => BudgetChange.confirmed (changes outcomes)) := by
  induction members with
  | nil => exact .done rfl
  | cons member rest ih =>
      refine (Program.Rescales.withLock (run_follows limit plan _ _)).bind fun outcome => ?_
      refine ih.after.bind fun others => .done ?_
      rw [confirmed_cons]

namespace Firing

theorem pauseAll_rescales (limit : Span) (campaigns : List CampaignId) :
    (pauseAll limit campaigns).Rescales [] (fun _ => []) := by
  induction campaigns with
  | nil => exact .done rfl
  | cons campaign rest ih =>
      refine Program.Rescales.bind (?_ : Program.Rescales [] _ fun _ => []) fun reply => ?_
      · refine Program.Rescales.withLock fun lock made reply => ?_
        refine ⟨_, .consult made campaign lock limit (.setPaused campaign true) reply (by simp), ?_⟩
        exact congrArg (BudgetStage.mk _) (List.append_nil made).symm
      · refine ih.bind fun failures => ?_
        split <;> exact .done rfl

theorem act_rescales (rule : ExecutionRule) (firing : Firing) (action : Action) :
    (firing.act rule action).Rescales [] (fun done => ActionDetail.confirmed done.2) := by
  cases action with
  | email =>
      refine Program.Rescales.bind (?_ : Program.Rescales [] _ fun _ => []) fun reply => ?_
      · exact .of_uses (show Program.Uses _ (fun _ => True) _ from ⟨trivial, fun _ => trivial⟩)
      · split <;> exact .done rfl
  | scaleBudget plan =>
      rw [Firing.act]
      split
      · exact (Rescale.runAll_rescales ..).bind fun outcomes => .done rfl
      · exact .done rfl
  | pauseCampaign =>
      rw [Firing.act]
      split
      · exact .done rfl
      · exact (pauseAll_rescales ..).bind fun failures => .done rfl
  | webhook url => exact (Program.Rescales.of_uses (Posted.run_errands ..)).bind fun _ => .done rfl

theorem now_rescales (index : Nat) (action : Action) (result : ActionResult)
    (detail : Option ActionDetail) :
    (ActionRecord.now index action result detail).Rescales (ActionDetail.confirmed detail)
      (fun record => ActionDetail.confirmed record.detail) :=
  ⟨fun _ _ => ⟨_, .errand _ _ trivial, rfl⟩⟩

theorem runActions_rescales (rule : ExecutionRule) (firing : Firing) (index : Nat)
    (actions : List Action) :
    (firing.runActions rule index actions).Rescales [] ActionRecord.confirmed := by
  induction actions generalizing index with
  | nil => exact .done rfl
  | cons action rest ih =>
      refine (act_rescales rule firing action).bind fun done => ?_
      refine (now_rescales ..).bind fun record => ?_
      exact (ih (index + 1)).after.bind fun others => .done rfl

/-- The changes that the platform has taken are those that the records confirm. -/
theorem run_rescales (rule : ExecutionRule) (firing : Firing) :
    (firing.run rule).Rescales [] ActionRecord.confirmed :=
  runActions_rescales ..

end Firing

end AdMonitor
