import AdMonitor.Proofs.Program.Alike
import AdMonitor.Proofs.Store.Agents
import AdMonitor.Proofs.Visit.Stage

/-!
# Visits do alike

What a visit does and reports depends on the answers of the store and of the
collaborators.  Locks and the time that passes change no more than the times of
its records, and nothing depends on how many agents are worked on at a time or
on when the agent was last evaluated (`Visit.run_alike`).
-/

namespace AdMonitor

def ActionRecord.untimed (record : ActionRecord) : ActionRecord :=
  { record with executedAt := default }

/-- Whether two lists of records differ in times only. -/
def ActionRecord.Match (records others : List ActionRecord) : Prop :=
  records.map untimed = others.map untimed

def TargetReport.untimed (report : TargetReport) : TargetReport :=
  { report with actions := report.actions.map ActionRecord.untimed }

/-- Whether two visits both report nothing, or reports that differ in times only. -/
def TargetReport.Match (report other : Option TargetReport) : Prop :=
  report.map untimed = other.map untimed

theorem Call.Concerns.matters {campaign : CampaignId} {call : Call}
    (concerns : call.Concerns campaign) : call.isIncidental = false := by
  cases call with
  | platform => rfl
  | _ => cases concerns

/-! ## Actions -/

theorem Posted.run_alike (rule : ExecutionRule) (url : String) (payload : Json) (retries : Nat)
    (attempts : UInt32) (status : Option UInt16) :
    (run rule url payload retries attempts status).Alike Eq
      (run rule url payload retries attempts status) := by
  induction retries generalizing attempts status with
  | zero =>
      unfold Posted.run
      refine .ask rfl fun answer => ?_
      cases judge answer <;> exact .done rfl
  | succ retries ih =>
      unfold Posted.run
      refine .ask rfl fun answer => ?_
      cases judge answer with
      | inl result => exact .done rfl
      | inr reason =>
          -- The delays may differ: they depend on the random numbers.
          refine .askIncidental rfl rfl fun jitter other => ?_
          exact .askIncidental rfl rfl fun _ _ => ih _ _

theorem Rescale.runAll_alike (limit : Span) (plan : BudgetPlan) (members : List Member) :
    (runAll limit plan members).Alike Eq (runAll limit plan members) := by
  induction members with
  | nil => exact .done rfl
  | cons member rest ih =>
      have own := Program.Alike.of_uses (run_uses limit plan member.entity.campaign
          ((member.snapshot.get? "budget").filter Float.isFinite))
        fun call concerns isIncidental => by simp [concerns.matters] at isIncidental
      refine (own.withLock _).bind ?_
      rintro outcome _ rfl
      refine ih.bind ?_
      rintro others _ rfl
      exact .done rfl

def Agent.evaluatedAt (agent : Agent) (time : Option Instant) : Agent :=
  { agent with lastEvaluatedAt := time }

theorem Agent.eq_evaluatedAt {agent other : Agent} (same : agent.unmarked = other.unmarked) :
    other = agent.evaluatedAt other.lastEvaluatedAt := by
  cases agent
  cases other
  simp_all [Agent.unmarked, Agent.evaluatedAt]

namespace Firing

variable (rule : ExecutionRule) (firing : Firing) (time : Option Instant)

def evaluatedAt : Firing := { firing with agent := firing.agent.evaluatedAt time }

theorem pauseAll_alike (limit : Span) (campaigns : List CampaignId) :
    (pauseAll limit campaigns).Alike Eq (pauseAll limit campaigns) := by
  induction campaigns with
  | nil => exact .done rfl
  | cons campaign rest ih =>
      refine ((Program.Alike.call rfl fun reply => .done rfl).withLock _).bind ?_
      rintro reply _ rfl
      refine ih.bind ?_
      rintro failures _ rfl
      cases Reply.result limit reply <;> exact .done rfl

theorem act_alike (action : Action) :
    (firing.act rule action).Alike Eq ((firing.evaluatedAt time).act rule action) := by
  cases action with
  | email =>
      refine .ask rfl fun reply => ?_
      cases Reply.result rule.callLimit reply <;> exact .done rfl
  | scaleBudget plan =>
      change Program.Alike Eq (if firing.agent.scope.filter.level == .campaign then _ else _)
        (if firing.agent.scope.filter.level == .campaign then _ else _)
      split
      · refine (Rescale.runAll_alike rule.callLimit plan firing.members).bind ?_
        rintro outcomes _ rfl
        exact .done rfl
      · exact .done rfl
  | pauseCampaign =>
      have same : (firing.evaluatedAt time).campaigns = firing.campaigns := rfl
      rw [Firing.act, Firing.act, same]
      cases firing.campaigns with
      | nil => exact .done rfl
      | cons campaign rest =>
          refine (pauseAll_alike rule.callLimit (campaign :: rest)).bind ?_
          rintro failures _ rfl
          exact .done rfl
  | webhook url =>
      refine (Posted.run_alike rule url firing.payload _ 0 none).bind ?_
      rintro posted _ rfl
      exact .done rfl

theorem runActions_alike (index : Nat) (actions : List Action) :
    (firing.runActions rule index actions).Alike ActionRecord.Match
      ((firing.evaluatedAt time).runActions rule index actions) := by
  induction actions generalizing index with
  | nil => exact .done rfl
  | cons action rest ih =>
      refine (firing.act_alike rule time action).bind ?_
      rintro ⟨result, detail⟩ _ rfl
      refine .askIncidental rfl rfl fun now other => ?_
      refine (ih (index + 1)).bind fun records others areSame => ?_
      exact .done (congrArg (_ :: ·) areSame)

end Firing

/-! ## Visits -/

theorem Agent.read_alike (limit : Span) (agent : Agent) (time : Option Instant) (target : Target) :
    (agent.read limit target).Alike Eq ((agent.evaluatedAt time).read limit target) := by
  cases target with
  | aggregate members =>
      cases members with
      | nil => exact .done rfl
      | cons first rest => exact .ask rfl fun replies => .done rfl
  | entity id =>
      refine .ask rfl fun reply => ?_
      cases Reply.metrics limit reply with
      | error failure => exact .done rfl
      | ok found =>
          cases found with
          | none => exact .done rfl
          | some entity =>
              change Program.Alike Eq (if agent.scope.filter.admits entity then _ else _)
                (if agent.scope.filter.admits entity then _ else _)
              split
              · exact .ask rfl fun replies => .done rfl
              · exact .done rfl

namespace Visit

variable (visit : Visit) (room : Nat) (time : Option Instant)

/-- A visit of a tick that has room for another number of agents, for an agent that was last
evaluated at another time. -/
def vary : Visit :=
  { visit with
    settings := { visit.settings with maxConcurrentAgents := room }
    agent := visit.agent.evaluatedAt time }

theorem announce_alike {records others : List ActionRecord}
    (areSame : ActionRecord.Match records others) :
    (visit.announce records).Alike Eq ((visit.vary room time).announce others) := by
  induction records generalizing others with
  | nil =>
      cases List.map_eq_nil_iff.1 areSame.symm
      exact .done rfl
  | cons record rest ih =>
      cases others with
      | nil => cases areSame
      | cons other others =>
          exact .askIncidental rfl rfl fun _ _ => ih (List.cons.inj areSame).2

theorem fire_alike (firing : Firing) : (visit.fire firing).Alike ActionRecord.Match
    ((visit.vary room time).fire (firing.evaluatedAt time)) := by
  refine .askIncidental rfl rfl fun _ _ => ?_
  refine (firing.runActions_alike visit.settings.execution time 0 firing.agent.actions).bind ?_
  intro records others areSame
  exact (visit.announce_alike room time areSame).bind fun _ _ _ => .done areSame

theorem skip_alike (status : TargetStatus) (reason : String) :
    (visit.skip status reason).Alike TargetReport.Match
      ((visit.vary room time).skip status reason) :=
  .askIncidental rfl rfl fun _ _ => .done rfl

theorem finish_alike (step : Step) (snapshot : Snapshot) (members : List Member) :
    (visit.finish step snapshot members).Alike TargetReport.Match
      ((visit.vary room time).finish step snapshot members) := by
  refine .ask rfl fun answer => ?_
  cases answer with
  | error failure => exact visit.skip_alike room time _ _
  | ok done =>
      refine .askIncidental rfl rfl fun _ _ => ?_
      cases step.decision.fires with
      | false => exact .done rfl
      | true =>
          have fires := visit.fire_alike room time
            (visit.firing snapshot members step.state.firings.count)
          refine fires.bind fun records others areSame => .done ?_
          exact congrArg (some ∘ TargetReport.mk _ _) areSame

theorem advance_alike (state : TargetState) :
    (visit.advance state).Alike TargetReport.Match ((visit.vary room time).advance state) := by
  refine (visit.agent.read_alike visit.settings.fetchLimit time visit.target).bind ?_
  rintro reading _ rfl
  cases reading with
  | unavailable reason => exact visit.skip_alike room time _ _
  | available snapshot members =>
      have isSame : (visit.vary room time).step state snapshot = visit.step state snapshot := rfl
      dsimp only
      rw [isSame]
      cases visit.step state snapshot with
      | none => exact .done rfl
      | some step => exact visit.finish_alike room time step _ _

theorem underLock_alike :
    visit.underLock.Alike TargetReport.Match (visit.vary room time).underLock := by
  refine .ask rfl fun answer => ?_
  cases answer with
  | error failure => exact visit.skip_alike room time _ _
  | ok stored =>
      change Program.Alike _
        (if (stored.getD visit.freshState).isStale visit.slot.tick then _ else _)
        (if (stored.getD visit.freshState).isStale visit.slot.tick then _ else _)
      split
      · exact visit.skip_alike room time _ _
      · exact visit.advance_alike room time _

/-- What a visit does and reports depends on no lock and no time, on no other agent that may be
worked on, and not on when its agent was last evaluated. -/
theorem run_alike : visit.run.Alike TargetReport.Match (visit.vary room time).run :=
  (visit.underLock_alike room time).withLock _

end Visit

theorem Call.IsOpening.settled {call : Call} (isOpening : call.IsOpening)
    (isIncidental : call.isIncidental = true) : Subsingleton call.Answer := by
  cases call with
  | publish => exact inferInstanceAs (Subsingleton Unit)
  | metrics => cases isIncidental
  | _ => cases isOpening

theorem Slot.openAgent_alike [UrlParser] (settings : Settings) (slot : Slot) (agent : Agent) :
    (slot.openAgent settings agent).Alike Eq (slot.openAgent settings agent) :=
  .of_uses (slot.openAgent_uses settings agent) fun _ => Call.IsOpening.settled

end AdMonitor
