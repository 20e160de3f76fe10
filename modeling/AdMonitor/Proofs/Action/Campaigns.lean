import AdMonitor.Proofs.Action.Rescaling
import AdMonitor.Proofs.Budget.Compounding
import AdMonitor.Proofs.Target.Keys

/-!
# How often an action turns to a campaign

Pausing goes by the campaigns of a firing and turns to each of them once.
Scaling goes by its members, so a campaign is updated for every member that it
owns and whose budget is known (`Firing.record_touches`).
-/

namespace AdMonitor

def Exchange.isUpdateOf (campaign : CampaignId) : Exchange → Bool
  | ⟨.platform _ (.updateBudget own _), _⟩ => own == campaign
  | _ => false

namespace BudgetCourse

variable {limit : Span} {plan : BudgetPlan} {campaign : CampaignId}

def isSentTo (campaign : CampaignId) : BudgetCourse limit → Bool
  | .unread .. | .unknown .. => false
  | .sent member .. => member.entity.campaign == campaign

theorem countP_exchanges (course : BudgetCourse limit) :
    (course.exchanges plan).countP (Exchange.isUpdateOf campaign) =
      if course.isSentTo campaign then 1 else 0 := by
  cases course with
  | unread | unknown => rfl
  | sent member live previous isOwn reply =>
      have isRead : ¬Exchange.isUpdateOf campaign
          ⟨.platform limit (.currentBudget member.entity.campaign), .answered (.ok live)⟩ = true :=
        Bool.false_ne_true
      rw [exchanges, List.countP_cons_of_neg isRead, List.countP_singleton]
      rfl

theorem countP_flatMap_exchanges (courses : List (BudgetCourse limit)) :
    (courses.flatMap (BudgetCourse.exchanges plan)).countP (Exchange.isUpdateOf campaign) =
      courses.countP (isSentTo campaign) := by
  induction courses with
  | nil => rfl
  | cons course rest ih =>
      rw [List.flatMap_cons, List.countP_append, ih, countP_exchanges, List.countP_cons,
        Nat.add_comm]

theorem countP_isSentTo_le (courses : List (BudgetCourse limit)) :
    courses.countP (isSentTo campaign) ≤ (courses.map BudgetCourse.campaign).count campaign := by
  rw [List.count, List.countP_map]
  refine List.countP_mono_left fun course _ isSent => ?_
  cases course with
  | unread | unknown => cases isSent
  | sent => exact isSent

end BudgetCourse

namespace Firing

theorem pauseAll_leaves (limit : Span) (campaigns : List CampaignId) :
    (pauseAll limit campaigns).Leaves Exchange.isOnPlatform fun exchanges _ =>
      exchanges.map Exchange.call =
        campaigns.map fun campaign => .platform limit (.setPaused campaign true) := by
  induction campaigns with
  | nil => exact .done rfl
  | cons campaign rest ih =>
      have request : (Program.ask (.platform limit (.setPaused campaign true))).Leaves
          Exchange.isOnPlatform fun exchanges reply => exchanges = [⟨_, reply⟩] :=
        .alone fun _ => rfl
      refine (request.withLock (.campaign campaign) fun _ _ => rfl).bind ?_
      rintro _ reply rfl
      refine ih.bind fun exchanges failures areOthers => ?_
      split
      all_goals
        refine .done ?_
        rw [List.append_nil, List.singleton_append, List.map_cons, areOthers]
        rfl

theorem act_pauseCampaign_leaves (rule : ExecutionRule) (firing : Firing) :
    (firing.act rule .pauseCampaign).Leaves Exchange.isOnPlatform fun exchanges _ =>
      exchanges.map Exchange.call =
        firing.campaigns.map fun campaign =>
          .platform rule.callLimit (.setPaused campaign true) := by
  rw [act]
  split
  next isNone =>
    rw [isNone]
    exact .done rfl
  next =>
    refine (pauseAll_leaves rule.callLimit firing.campaigns).bind ?_
    intro exchanges failures areAll
    refine .done ?_
    rwa [List.append_nil]

/--
Whether requests read the budgets of all members and update a campaign for each of
its members whose budget is known.
-/
structure UpdatesByMember (rule : ExecutionRule) (firing : Firing) (plan : BudgetPlan)
    (exchanges : List Exchange) (courses : List (BudgetCourse rule.callLimit)) : Prop where
  members : courses.map BudgetCourse.member = firing.members
  requests : exchanges = courses.flatMap (BudgetCourse.exchanges plan)
  updates : ∀ campaign, exchanges.countP (Exchange.isUpdateOf campaign) =
    courses.countP (BudgetCourse.isSentTo campaign)
  atMost : ∀ campaign, exchanges.countP (Exchange.isUpdateOf campaign) ≤
    firing.reach.count campaign

theorem updatesByMember_flatMap {rule : ExecutionRule} {firing : Firing} {plan : BudgetPlan}
    {courses : List (BudgetCourse rule.callLimit)}
    (members : courses.map BudgetCourse.member = firing.members) :
    UpdatesByMember rule firing plan (courses.flatMap (BudgetCourse.exchanges plan)) courses := by
  have areCampaigns : courses.map BudgetCourse.campaign = firing.reach := by
    rw [reach, ← members, List.map_map]
    rfl
  constructor
  case members => exact members
  case requests => rfl
  case updates => exact fun campaign => BudgetCourse.countP_flatMap_exchanges courses
  case atMost =>
    intro campaign
    rw [BudgetCourse.countP_flatMap_exchanges, ← areCampaigns]
    exact BudgetCourse.countP_isSentTo_le courses

/-- The campaigns of a firing are those of its members, each at its first occurrence. -/
structure ListsOnce (firing : Firing) : Prop where
  nodup : firing.campaigns.Nodup
  mem_iff : ∀ campaign, campaign ∈ firing.campaigns ↔ campaign ∈ firing.reach
  inOrder : firing.campaigns.Pairwise fun first second =>
    firing.reach.idxOf first < firing.reach.idxOf second

theorem listsOnce (firing : Firing) : firing.ListsOnce where
  nodup := Scope.eraseDups_nodup _
  mem_iff _ := List.mem_eraseDups
  inOrder := eraseDups_inOrder _

/--
An action that scales budgets updates a campaign for each of its members whose
budget is known, and one that pauses pauses each campaign of the members once.
-/
theorem record_touches (rule : ExecutionRule) (firing : Firing) (index : Nat)
    (respondents : Respondents) (state : respondents.State) :
    let asked := fun action =>
      (Program.play respondents state (firing.record rule index action)).exchanges.filter
        Exchange.isOnPlatform
    (∀ plan, if firing.agent.scope.filter.level = .campaign then
        ∃ courses, UpdatesByMember rule firing plan (asked (.scaleBudget plan)) courses
      else asked (.scaleBudget plan) = []) ∧
    (asked .pauseCampaign).map Exchange.call =
      firing.campaigns.map (fun campaign =>
        .platform rule.callLimit (.setPaused campaign true)) ∧
    firing.ListsOnce := by
  intro asked
  refine ⟨fun plan => ?_, ?_, firing.listsOnce⟩
  · split
    next isOwn =>
      have leaves := act_scaleBudget_leaves rule firing plan isOwn
      obtain ⟨courses, areOwn, requests, -⟩ :=
        record_leaves rule firing index _ leaves respondents state
      have byMember : UpdatesByMember rule firing plan _ courses := updatesByMember_flatMap areOwn
      rw [← requests] at byMember
      exact ⟨courses, byMember⟩
    next isOther =>
      have leaves := act_scaleBudget_idle rule firing plan isOther
      exact (record_leaves rule firing index _ leaves respondents state).1
  · have leaves := act_pauseCampaign_leaves rule firing
    exact record_leaves rule firing index _ leaves respondents state

/-- A firing whose members name the campaign `c` twice. -/
def exampleRepeated : Firing :=
  let members := Executor.exampleFiring.members
  { Executor.exampleFiring with members := members ++ members }

/-- A campaign that two members name is updated twice, and pausing would turn to it once. -/
theorem record_updatesTwice_exampleRepeated :
    let played := Program.play (Outside.ledger.respondents true) (fun _ => 100)
      (exampleRepeated.record Executor.exampleRule 0 (.scaleBudget Executor.examplePlan))
    exampleRepeated.campaigns = ["c"] ∧
      ¬∀ campaign, played.exchanges.countP (Exchange.isUpdateOf campaign) ≤ 1 := by
  have hundred : Float.isFinite 100 = true := by decide +kernel
  refine ⟨by decide +kernel, fun once => absurd (once "c") ?_⟩
  simp [record, exampleRepeated, Executor.exampleFiring, act, ActionRecord.now, Rescale.runAll,
    Rescale.run, Reply.result, Program.withLock, Program.ask, Program.clock, Entity.campaign,
    Program.play, Played.after, Outside.ledger, Option.filter_some_pos, hundred,
    Executor.examplePlan_isFinite, Exchange.isUpdateOf]

end Firing

end AdMonitor
