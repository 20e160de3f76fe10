import AdMonitor.Proofs.Visit.Decision

/-!
# What a visit comes to

A visit that is over has announced what it reports, and it has saved a state
once, unless it reports that its target was skipped (`Visit.concludes`).  The
actions of a firing leave one record each, and touch no campaign but those of
its members (`Firing.run_uses`).
-/

namespace AdMonitor

/-! ## Events -/

namespace Exchange

def event? : Exchange → Option Event
  | ⟨.publish event, _⟩ => some event
  | _ => none

def isPut : Exchange → Bool
  | ⟨.states (.put ..), .ok _⟩ => true
  | _ => false

/-- What some exchanges have published, the oldest event first. -/
def events (exchanges : List Exchange) : List Event := (exchanges.filterMap event?).reverse

def puts (exchanges : List Exchange) : Nat := exchanges.countP isPut

variable {later early exchanges : List Exchange} {exchange : Exchange}

theorem saved_of_isPut (isPut : exchange.isPut = true) :
    ∃ key state, exchange.saved? key = some state := by
  unfold Exchange.isPut at isPut
  split at isPut
  · exact ⟨_, _, if_pos rfl⟩
  · cases isPut

theorem events_append : events (later ++ early) = events early ++ events later := by
  rw [events, List.filterMap_append, List.reverse_append]
  rfl

theorem puts_append : puts (later ++ early) = puts later + puts early := List.countP_append

def AreSilent (exchanges : List Exchange) : Prop :=
  ∀ exchange ∈ exchanges, exchange.event? = none ∧ exchange.isPut = false

theorem AreSilent.events (silent : AreSilent exchanges) : events exchanges = [] := by
  rw [Exchange.events, List.reverse_eq_nil_iff]
  exact List.filterMap_eq_nil_iff.2 fun exchange found => (silent exchange found).1

theorem AreSilent.puts (silent : AreSilent exchanges) : puts exchanges = 0 :=
  List.countP_eq_zero.2 fun exchange found => by simp [(silent exchange found).2]

end Exchange

/-! ## Actions -/

def Call.ActsOn (campaigns : List CampaignId) : Call → Prop
  | .platform _ query => query.campaign ∈ campaigns
  | .enqueue .. | .post .. | .sleep _ | .jitter _ | .clock | .lock _ => True
  | _ => False

namespace Call

variable {campaigns : List CampaignId} {call : Call}

theorem IsAttempt.actsOn (isAttempt : call.IsAttempt) : call.ActsOn campaigns := by
  cases call with
  | post | sleep | jitter => trivial
  | _ => cases isAttempt

theorem Concerns.actsOn {campaign : CampaignId} (concerns : call.Concerns campaign)
    (isOne : campaign ∈ campaigns) : call.ActsOn campaigns := by
  cases call with
  | platform limit query =>
      obtain rfl : query.campaign = campaign := concerns
      exact isOne
  | _ => cases concerns

theorem ActsOn.silent {exchange : Exchange} (actsOn : exchange.call.ActsOn campaigns) :
    exchange.event? = none ∧ exchange.isPut = false := by
  obtain ⟨call, answer⟩ := exchange
  cases call with
  | publish | states => cases actsOn
  | _ => exact ⟨rfl, rfl⟩

theorem IsReading.silent {exchange : Exchange} (isReading : exchange.call.IsReading) :
    exchange.event? = none ∧ exchange.isPut = false := by
  obtain ⟨call, answer⟩ := exchange
  cases call with
  | metrics | snapshots => exact ⟨rfl, rfl⟩
  | _ => cases isReading

end Call

namespace Program

variable {α : Type} {campaigns : List CampaignId} {campaign : CampaignId} {body : Program α}

/-- Whether a program makes only calls of actions on some campaigns. -/
def ActsOn (campaigns : List CampaignId) (program : Program α) : Prop :=
  program.Uses (Call.ActsOn campaigns) fun _ => True

theorem ActsOn.bind {β : Type} {rest : α → Program β} (first : body.ActsOn campaigns)
    (second : ∀ value, (rest value).ActsOn campaigns) : (body >>= rest).ActsOn campaigns :=
  Uses.bind first fun value _ => second value

theorem ActsOn.withLock (uses : body.Uses (Call.Concerns campaign) fun _ => True)
    (isOne : campaign ∈ campaigns) :
    (Program.withLock (.campaign campaign) body).ActsOn campaigns := by
  refine Uses.ask trivial fun lock => Uses.ask trivial fun _ => ?_
  refine ActsOn.bind (uses.weaken (fun _ concerns => concerns.actsOn isOne) fun _ => id) ?_
  exact fun value => Uses.ask trivial fun _ => trivial

end Program

theorem Rescale.runAll_actsOn (limit : Span) (plan : BudgetPlan) {members : List Member}
    {campaigns : List CampaignId}
    (areMembers : ∀ member ∈ members, member.entity.campaign ∈ campaigns) :
    (runAll limit plan members).ActsOn campaigns := by
  induction members with
  | nil => trivial
  | cons member rest ih =>
      obtain ⟨isMember, areMembers⟩ := List.forall_mem_cons.1 areMembers
      refine Program.ActsOn.bind (.withLock (run_uses ..) isMember) fun outcome => ?_
      exact (ih areMembers).bind fun _ => trivial

namespace Firing

/-- The campaigns that the actions of a firing may touch. -/
def reach (firing : Firing) : List CampaignId :=
  firing.members.map fun member => member.entity.campaign

theorem pauseAll_actsOn (limit : Span) {campaigns others : List CampaignId}
    (isPart : campaigns ⊆ others) : (pauseAll limit campaigns).ActsOn others := by
  induction campaigns with
  | nil => trivial
  | cons campaign rest ih =>
      obtain ⟨isOne, isPart⟩ := List.cons_subset.1 isPart
      refine Program.ActsOn.bind (.withLock ⟨rfl, fun _ => trivial⟩ isOne) fun reply => ?_
      refine (ih isPart).bind fun failures => ?_
      split <;> trivial

theorem act_actsOn (rule : ExecutionRule) (firing : Firing) (action : Action) :
    (firing.act rule action).ActsOn firing.reach := by
  cases action with
  | email =>
      refine Program.Uses.ask trivial fun reply => ?_
      split <;> trivial
  | scaleBudget plan =>
      rw [act]
      split
      · refine Program.ActsOn.bind (Rescale.runAll_actsOn _ _ fun member found => ?_) ?_
        · exact List.mem_map_of_mem found
        · exact fun _ => trivial
      · trivial
  | pauseCampaign =>
      rw [act]
      split
      · trivial
      · refine (pauseAll_actsOn _ fun campaign found => ?_).bind fun _ => trivial
        exact List.mem_eraseDups.1 found
  | webhook url =>
      exact Program.ActsOn.bind
        ((Posted.run_uses ..).weaken (fun _ => Call.IsAttempt.actsOn) fun _ => id)
        fun _ => trivial

/-- Whether records are those of some actions, the first of which has the given position. -/
structure Records (index : Nat) (actions : List Action) (records : List ActionRecord) : Prop where
  positions : records.map ActionRecord.index = List.range' index actions.length
  kinds : records.map ActionRecord.kind = actions.map Action.kind

theorem runActions_uses (rule : ExecutionRule) (firing : Firing) (index : Nat)
    (actions : List Action) :
    (firing.runActions rule index actions).Uses (Call.ActsOn firing.reach)
      (Records index actions) := by
  induction actions generalizing index with
  | nil => exact ⟨rfl, rfl⟩
  | cons action rest ih =>
      refine Program.Uses.bind (firing.act_actsOn rule action) fun done _ => ?_
      obtain ⟨result, detail⟩ := done
      refine Program.Uses.ask trivial fun executedAt => ?_
      refine (ih (index + 1)).bind fun others areOthers => ⟨?_, ?_⟩
      · rw [List.map_cons, areOthers.positions]
        rfl
      · rw [List.map_cons, areOthers.kinds]
        rfl

/-- The actions of a firing are run on the campaigns of its members, and each leaves a record. -/
theorem run_uses (rule : ExecutionRule) (firing : Firing) :
    (firing.run rule).Uses (Call.ActsOn firing.reach) (Records 0 firing.agent.actions) :=
  firing.runActions_uses rule 0 firing.agent.actions

end Firing

/-! ## Visits -/

namespace TargetStatus

def skipReason? : TargetStatus → Option String
  | .skipped reason | .stateError reason => some reason
  | _ => none

variable {status : TargetStatus}

theorem isSkipped_of_reason {reason : String} (isReason : status.skipReason? = some reason) :
    status.isSkipped = true := by
  cases status with
  | skipped | stateError => rfl
  | fired | notSatisfied | suppressed | indeterminate => cases isReason

theorem isFired_of_isSkipped (isSkipped : status.isSkipped = true) : status.isFired = false := by
  cases status with
  | fired count => cases isSkipped
  | notSatisfied | suppressed | indeterminate | skipped | stateError => rfl

theorem isFired_ofOutcome (verdict : Verdict) (decision : Decision) (count : UInt64) :
    (ofOutcome verdict decision count).isFired = decision.fires := by
  cases decision <;> cases verdict <;> rfl

end TargetStatus

/-- Whether events are those of a target that is reported in a tick. -/
inductive TargetReport.Narrates (tick : TickNumber) : TargetReport → List Event → Prop where
  | skipped (key : StateKey) (status : TargetStatus) (reason : String)
      (isReason : status.skipReason? = some reason) :
      Narrates tick ⟨key, status, []⟩ [.targetSkipped tick key reason]
  | held (key : StateKey) (status : TargetStatus) (verdict : Verdict) (satisfied : Bool)
      (decision : Decision) (isSaved : status.isSkipped = false)
      (isUnfired : status.isFired = false) (holds : decision.fires = false) :
      Narrates tick ⟨key, status, []⟩ [.targetEvaluated tick key verdict satisfied decision]
  | fired (key : StateKey) (verdict : Verdict) (satisfied : Bool) (count : UInt64)
      (records : List ActionRecord) :
      Narrates tick ⟨key, .fired count, records⟩
        ([.targetEvaluated tick key verdict satisfied .fire, .targetFired tick key count] ++
          records.map (.actionCompleted tick key))

/-- What a visit that has come to a report has announced and saved. -/
structure Visit.Concludes (visit : Visit) (exchanges : List Exchange) (report : TargetReport) :
    Prop where
  key : report.key = visit.key
  narrates : report.Narrates visit.slot.tick (Exchange.events exchanges)
  /-- A state was saved, unless the target is reported as skipped. -/
  puts : Exchange.puts exchanges = if report.status.isSkipped then 0 else 1
  records : report.status.isFired = true →
    Firing.Records 0 visit.agent.actions report.actions

namespace Visit

variable {visit : Visit} {exchanges others : List Exchange} {report : TargetReport}

theorem Concludes.congr (concludes : visit.Concludes exchanges report)
    (events : Exchange.events others = Exchange.events exchanges)
    (puts : Exchange.puts others = Exchange.puts exchanges) : visit.Concludes others report where
  key := concludes.key
  narrates := events ▸ concludes.narrates
  puts := puts ▸ concludes.puts
  records := concludes.records

/-- A report has records of actions just when the target has fired. -/
theorem Concludes.actions_iff (concludes : visit.Concludes exchanges report)
    (hasActions : visit.agent.actions ≠ []) :
    report.actions ≠ [] ↔ report.status.isFired = true := by
  obtain ⟨-, narrates, -, records⟩ := concludes
  generalize Exchange.events exchanges = events at narrates
  cases narrates with
  | skipped key status reason isReason =>
      have isUnfired :=
        TargetStatus.isFired_of_isSkipped (TargetStatus.isSkipped_of_reason isReason)
      exact iff_of_false (fun some => some rfl) (Bool.eq_false_iff.1 isUnfired)
  | held key status verdict satisfied decision isSaved isUnfired holds =>
      exact iff_of_false (fun some => some rfl) (Bool.eq_false_iff.1 isUnfired)
  | fired key verdict satisfied count records' =>
      refine iff_of_true (fun isEmpty => hasActions ?_) rfl
      have kinds := (records rfl).kinds
      rw [isEmpty] at kinds
      exact List.map_eq_nil_iff.1 kinds.symm

theorem concludes_skip {status : TargetStatus} {reason : String}
    (isReason : status.skipReason? = some reason)
    (ends : (visit.skip status reason).Ends exchanges (some report)) :
    visit.Concludes exchanges report := by
  obtain ⟨_, none, rfl, returns⟩ := Program.ends_ask_iff.1 ends
  obtain ⟨rfl, ⟨⟩⟩ := Program.ends_done_iff.1 returns
  have isSkipped := TargetStatus.isSkipped_of_reason isReason
  refine ⟨rfl, .skipped visit.key status reason isReason, (if_pos isSkipped).symm, ?_⟩
  intro isFired
  cases isFired.symm.trans (TargetStatus.isFired_of_isSkipped isSkipped)

theorem events_announce {records : List ActionRecord}
    (ends : (visit.announce records).Ends exchanges ()) :
    Exchange.events exchanges = records.map (.actionCompleted visit.slot.tick visit.key) ∧
      Exchange.puts exchanges = 0 := by
  induction records generalizing exchanges with
  | nil =>
      obtain ⟨rfl, -⟩ := Program.ends_done_iff.1 ends
      exact ⟨rfl, rfl⟩
  | cons record rest ih =>
      obtain ⟨_, later, rfl, goesOn⟩ := Program.ends_ask_iff.1 ends
      obtain ⟨events, puts⟩ := ih goesOn
      rw [Exchange.events_append, Exchange.puts_append, events, puts]
      exact ⟨rfl, rfl⟩

theorem events_fire {firing : Firing} {records : List ActionRecord}
    (ends : (visit.fire firing).Ends exchanges records) :
    Firing.Records 0 firing.agent.actions records ∧ Exchange.events exchanges =
        .targetFired visit.slot.tick visit.key firing.count ::
          records.map (.actionCompleted visit.slot.tick visit.key) ∧
      Exchange.puts exchanges = 0 := by
  obtain ⟨_, later, rfl, runs⟩ := Program.ends_ask_iff.1 ends
  obtain ⟨own, last, early, rfl, ran, announces⟩ := Program.ends_bind_iff.1 runs
  obtain ⟨_, none, announced, rfl, tells, returns⟩ := Program.ends_bind_iff.1 announces
  obtain ⟨rfl, rfl⟩ := Program.ends_done_iff.1 returns
  obtain ⟨acts, areRecords⟩ := (firing.run_uses _).leads ran
  have silent : Exchange.AreSilent early := fun exchange found => (acts exchange found).silent
  obtain ⟨events, puts⟩ := events_announce tells
  rw [List.nil_append]
  refine ⟨areRecords, ?_, ?_⟩
  · rw [Exchange.events_append, Exchange.events_append, events, silent.events]
    rfl
  · rw [Exchange.puts_append, Exchange.puts_append, puts, silent.puts]
    rfl

theorem concludes_finish {step : Step} {snapshot : Snapshot} {members : List Member}
    (ends : (visit.finish step snapshot members).Ends exchanges (some report)) :
    visit.Concludes exchanges report := by
  obtain ⟨answer, later, rfl, goesOn⟩ := Program.ends_ask_iff.1 ends
  cases answer with
  | error failure =>
      refine (concludes_skip rfl goesOn).congr ?_ ?_
      · rw [Exchange.events_append]
        rfl
      · rw [Exchange.puts_append]
        rfl
  | ok done =>
      obtain ⟨_, last, rfl, acts⟩ := Program.ends_ask_iff.1 goesOn
      cases fires : step.decision.fires with
      | false =>
          rw [fires] at acts
          obtain ⟨rfl, ⟨⟩⟩ := Program.ends_done_iff.1 acts
          have isUnfired : (TargetStatus.ofOutcome step.verdict step.decision
              step.state.firings.count).isFired = false :=
            (TargetStatus.isFired_ofOutcome ..).trans fires
          have isSaved : (TargetStatus.ofOutcome step.verdict step.decision
              step.state.firings.count).isSkipped = false := TargetStatus.isSkipped_ofOutcome ..
          refine ⟨rfl, .held _ _ _ _ _ isSaved isUnfired fires, ?_, fun isFired => ?_⟩
          · rw [isSaved]
            rfl
          · cases isFired.symm.trans isUnfired
      | true =>
          rw [fires] at acts
          obtain ⟨records, none, early, rfl, fired, returns⟩ := Program.ends_bind_iff.1 acts
          obtain ⟨rfl, ⟨⟩⟩ := Program.ends_done_iff.1 returns
          obtain ⟨areRecords, events, puts⟩ := events_fire fired
          rw [List.nil_append]
          have decides : step.decision = .fire := Decision.eq_fire fires
          rw [decides]
          refine ⟨rfl, ?_, ?_, fun _ => areRecords⟩
          · rw [Exchange.events_append, Exchange.events_append, events]
            exact .fired visit.key step.verdict step.satisfied _ records
          · rw [Exchange.puts_append, Exchange.puts_append, puts]
            rfl

theorem concludes_advance {state : TargetState}
    (ends : (visit.advance state).Ends exchanges (some report)) :
    visit.Concludes exchanges report := by
  obtain ⟨reading, later, early, rfl, reads, goesOn⟩ := ends_advance ends
  have silent : Exchange.AreSilent early := fun exchange found =>
    (((visit.agent.read_uses _ _).leads reads).1 exchange found).silent
  have same : Exchange.events (later ++ early) = Exchange.events later ∧
      Exchange.puts (later ++ early) = Exchange.puts later := by
    rw [Exchange.events_append, Exchange.puts_append, silent.events, silent.puts]
    exact ⟨rfl, rfl⟩
  rcases goesOn with ⟨reason, -, skips⟩ | ⟨snapshot, members, step, -, -, finishes⟩
  · exact (concludes_skip rfl skips).congr same.1 same.2
  · exact (concludes_finish finishes).congr same.1 same.2

theorem concludes_underLock (ends : visit.underLock.Ends exchanges (some report)) :
    visit.Concludes exchanges report := by
  obtain ⟨answer, later, rfl, goesOn⟩ := Program.ends_ask_iff.1 ends
  have same : Exchange.events (later ++ [⟨.states (.get visit.key), answer⟩]) =
        Exchange.events later ∧
      Exchange.puts (later ++ [⟨.states (.get visit.key), answer⟩]) = Exchange.puts later := by
    rw [Exchange.events_append, Exchange.puts_append]
    exact ⟨rfl, rfl⟩
  cases answer with
  | error failure => exact (concludes_skip rfl goesOn).congr same.1 same.2
  | ok stored =>
      dsimp only at goesOn
      split at goesOn
      · exact (concludes_skip rfl goesOn).congr same.1 same.2
      · exact (concludes_advance goesOn).congr same.1 same.2

/-- A visit that is over has done what it reports. -/
theorem concludes (ends : visit.run.Ends exchanges (some report)) :
    visit.Concludes exchanges report := by
  obtain ⟨lock, located, rfl, takes⟩ := Program.ends_ask_iff.1 ends
  obtain ⟨_, later, rfl, inside⟩ := Program.ends_ask_iff.1 takes
  obtain ⟨value, last, early, rfl, evaluates, leaves⟩ := Program.ends_bind_iff.1 inside
  obtain ⟨_, none, rfl, returns⟩ := Program.ends_ask_iff.1 leaves
  obtain ⟨rfl, rfl⟩ := Program.ends_done_iff.1 returns
  refine (concludes_underLock evaluates).congr ?_ ?_
  · rw [Exchange.events_append, Exchange.events_append, Exchange.events_append]
    exact List.append_nil _
  · rw [Exchange.puts_append, Exchange.puts_append, Exchange.puts_append]
    exact Nat.zero_add _

end Visit

end AdMonitor
