import AdMonitor.Proofs.Visit.Reading
import AdMonitor.Simulation.World

/-!
# Changes that an agent orders

A visit asks the ad platform for no change that its agent has no action for
(`Visit.run_obeys`).  Budgets are changed by agents with a budget action whose
scope is of campaigns, and campaigns are paused, and never resumed, by agents
with an action for it.
-/

namespace AdMonitor

def Call.change? : Call → Option PlatformChange
  | .platform _ query => query.change?
  | _ => none

theorem Call.campaign?_of_change? {call : Call} {change : PlatformChange}
    (isChange : call.change? = some change) : call.campaign? = some change.campaign := by
  cases call with
  | platform limit query =>
      cases query with
      | currentBudget => cases isChange
      | updateBudget | setPaused =>
          cases isChange
          rfl
  | _ => cases isChange

def Agent.Orders (agent : Agent) : PlatformChange → Prop
  | .budget .. =>
      agent.scope.filter.level = .campaign ∧ ∃ plan, Action.scaleBudget plan ∈ agent.actions
  | .paused _ paused => paused = true ∧ Action.pauseCampaign ∈ agent.actions

/-- Calls that ask for no change but those that an agent orders. -/
def Call.Obeys (agent : Agent) (call : Call) : Prop :=
  ∀ change, call.change? = some change → agent.Orders change

theorem Call.obeys_of_unchanging {agent : Agent} {call : Call} (unchanging : call.change? = none) :
    call.Obeys agent := by
  intro change isChange
  cases unchanging.symm.trans isChange

namespace Program

variable {α β : Type} {agent : Agent} {body : Program α}

/-- Whether a program asks for no change but those that an agent orders. -/
def Obeys (agent : Agent) (program : Program α) : Prop :=
  program.Uses (Call.Obeys agent) fun _ => True

theorem Obeys.bind {rest : α → Program β} (first : body.Obeys agent)
    (second : ∀ value, (rest value).Obeys agent) : (body >>= rest).Obeys agent :=
  Uses.bind first fun value _ => second value

theorem Obeys.ask {request : Call} {rest : request.Answer → Program α}
    (unchanging : request.change? = none) (remaining : ∀ answer, (rest answer).Obeys agent) :
    (Program.ask request >>= rest).Obeys agent :=
  Uses.ask (Call.obeys_of_unchanging unchanging) remaining

theorem Obeys.of_uses {allowed : Call → Prop} (uses : body.Uses allowed fun _ => True)
    (unchanging : ∀ call, allowed call → call.change? = none) : body.Obeys agent :=
  uses.weaken (fun call isAllowed => Call.obeys_of_unchanging (unchanging call isAllowed))
    fun _ => id

theorem Obeys.withLock (name : LockName) (obeys : body.Obeys agent) :
    (Program.withLock name body).Obeys agent := by
  refine Obeys.ask rfl fun lock => Obeys.ask rfl fun _ => ?_
  exact obeys.bind fun value => Obeys.ask rfl fun _ => trivial

end Program

section Actions

variable {agent : Agent}

theorem Rescale.run_obeys (limit : Span) (plan : BudgetPlan) (campaign : CampaignId)
    (fallback : Option Float) (orders : ∀ budget, agent.Orders (.budget campaign budget)) :
    (run limit plan campaign fallback).Obeys agent := by
  refine Program.Obeys.ask rfl fun reply => ?_
  split
  · trivial
  · split
    · trivial
    · refine Program.Uses.ask ?_ fun reply => ?_
      · rintro _ ⟨⟩
        exact orders _
      · split <;> trivial

theorem Rescale.runAll_obeys (limit : Span) (plan : BudgetPlan) (members : List Member)
    (orders : ∀ campaign budget, agent.Orders (.budget campaign budget)) :
    (runAll limit plan members).Obeys agent := by
  induction members with
  | nil => trivial
  | cons member rest ih =>
      refine (Program.Obeys.withLock _ (run_obeys _ _ _ _ (orders _))).bind fun outcome => ?_
      exact ih.bind fun _ => trivial

namespace Firing

theorem pauseAll_obeys (limit : Span) (campaigns : List CampaignId)
    (orders : ∀ campaign, agent.Orders (.paused campaign true)) :
    (pauseAll limit campaigns).Obeys agent := by
  induction campaigns with
  | nil => trivial
  | cons campaign rest ih =>
      have asks : (Program.ask (.platform limit (.setPaused campaign true))).Obeys agent := by
        refine ⟨?_, fun _ => trivial⟩
        rintro _ ⟨⟩
        exact orders campaign
      refine (asks.withLock _).bind fun reply => ih.bind fun failures => ?_
      split <;> trivial

/-- An action of the agent asks for no change that the agent does not order. -/
theorem act_obeys (rule : ExecutionRule) (firing : Firing) {action : Action}
    (isOwn : action ∈ firing.agent.actions) : (firing.act rule action).Obeys firing.agent := by
  cases action with
  | email =>
      refine Program.Obeys.ask rfl fun reply => ?_
      split <;> trivial
  | scaleBudget plan =>
      rw [act]
      split
      · rename_i isCampaign
        refine (Rescale.runAll_obeys _ _ _ fun _ _ => ?_).bind fun _ => trivial
        exact ⟨eq_of_beq isCampaign, plan, isOwn⟩
      · trivial
  | pauseCampaign =>
      rw [act]
      split
      · trivial
      · exact (pauseAll_obeys _ _ fun _ => ⟨rfl, isOwn⟩).bind fun _ => trivial
  | webhook url =>
      refine (Program.Obeys.of_uses (Posted.run_uses ..) fun call isAttempt => ?_).bind ?_
      · cases call with
        | platform => cases isAttempt
        | _ => rfl
      · exact fun _ => trivial

theorem runActions_obeys (rule : ExecutionRule) (firing : Firing) (index : Nat)
    {actions : List Action} (areOwn : ∀ action ∈ actions, action ∈ firing.agent.actions) :
    (firing.runActions rule index actions).Obeys firing.agent := by
  induction actions generalizing index with
  | nil => trivial
  | cons action rest ih =>
      obtain ⟨isOwn, areOwn⟩ := List.forall_mem_cons.1 areOwn
      refine (firing.act_obeys rule isOwn).bind fun done => ?_
      refine Program.Obeys.ask rfl fun executedAt => ?_
      exact (ih (index + 1) areOwn).bind fun _ => trivial

end Firing

end Actions

namespace Visit

theorem announce_obeys (visit : Visit) (records : List ActionRecord) :
    (visit.announce records).Obeys visit.agent := by
  induction records with
  | nil => trivial
  | cons record rest ih => exact Program.Obeys.ask rfl fun _ => ih

theorem fire_obeys (visit : Visit) (snapshot : Snapshot) (members : List Member) (count : UInt64) :
    (visit.fire (visit.firing snapshot members count)).Obeys visit.agent := by
  refine Program.Obeys.ask rfl fun _ => ?_
  refine ((visit.firing snapshot members count).runActions_obeys _ 0 fun _ => id).bind ?_
  exact fun records => (visit.announce_obeys records).bind fun _ => trivial

theorem finish_obeys (visit : Visit) (step : Step) (snapshot : Snapshot) (members : List Member) :
    (visit.finish step snapshot members).Obeys visit.agent := by
  refine Program.Obeys.ask rfl fun answer => ?_
  cases answer with
  | error failure => exact Program.Obeys.ask rfl fun _ => trivial
  | ok done =>
      refine Program.Obeys.ask rfl fun _ => ?_
      cases step.decision.fires with
      | false => trivial
      | true => exact (visit.fire_obeys snapshot members _).bind fun _ => trivial

theorem advance_obeys (visit : Visit) (state : TargetState) :
    (visit.advance state).Obeys visit.agent := by
  refine (Program.Obeys.of_uses (Agent.read_uses ..) fun call isReading => ?_).bind ?_
  · cases call with
    | platform => cases isReading
    | _ => rfl
  · intro reading
    cases reading with
    | unavailable reason => exact Program.Obeys.ask rfl fun _ => trivial
    | available snapshot members =>
        dsimp only
        cases visit.step state snapshot with
        | none => trivial
        | some step => exact visit.finish_obeys step snapshot members

/-- A visit asks for no change that its agent does not order. -/
theorem run_obeys (visit : Visit) : visit.run.Obeys visit.agent := by
  refine Program.Obeys.withLock _ (Program.Obeys.ask rfl fun answer => ?_)
  cases answer with
  | error failure => exact Program.Obeys.ask rfl fun _ => trivial
  | ok stored =>
      dsimp only
      split
      · exact Program.Obeys.ask rfl fun _ => trivial
      · exact visit.advance_obeys _

end Visit

end AdMonitor
