import AdMonitor.Proofs.Program.Trace
import AdMonitor.Proofs.Trigger.Step
import AdMonitor.Proofs.Visit.Run

/-!
# What leads to a firing, and what a visit reports

A visit that announces a firing has loaded the stored state, has read metrics,
and has saved a step from the one by the other that fires.  A visit that reports
a target as skipped has saved nothing.
-/

namespace AdMonitor

namespace Visit

/-- Whether a visit has loaded a state, read a snapshot, and saved the step from the one by the
other, which fires. -/
structure Decides (visit : Visit) (history : List Exchange) (loaded : Option TargetState)
    (snapshot : Snapshot) (step : Step) : Prop where
  isStep : visit.step (loaded.getD visit.freshState) snapshot = some step
  fires : step.decision.fires = true
  done : ∃ lock readings members,
    (visit.agent.read visit.settings.fetchLimit visit.target).Ends readings
      (.available snapshot members) ∧
    ⟨.states (.put visit.key step.state), .ok ()⟩ ::
        readings ++ [⟨.states (.get visit.key), .ok loaded⟩, ⟨.lock (.acquire lock), ()⟩,
          ⟨.lock (.find (.target visit.key)), lock⟩] <:+ history

variable {visit : Visit} {key : StateKey} {history : List Exchange} {newest : Exchange}
  {final : Program (Option TargetReport)}

theorem not_skip (isAction : newest.call.IsAction) {status : TargetStatus} {reason : String} :
    ¬ (visit.skip status reason).Leads (newest :: history) final := by
  intro leads
  obtain ⟨_, later, -, returns⟩ := Program.leads_ask_of_ne leads (isAction.ne id)
  cases (Program.leads_done_iff.1 returns).1

/-- How a visit saves a step and announces its firing, the newest exchange first. -/
def announcement (visit : Visit) (step : Step) : List Exchange :=
  [⟨.publish (.targetFired visit.slot.tick visit.key step.state.firings.count), ()⟩,
    ⟨.publish (.targetEvaluated visit.slot.tick visit.key step.verdict step.satisfied
      step.decision), ()⟩,
    ⟨.states (.put visit.key step.state), .ok ()⟩]

/-- A visit that has come to an action has saved a step that fires, and announced the firing. -/
theorem fires_of_finish (isAction : newest.call.IsAction) {step : Step} {snapshot : Snapshot}
    {members : List Member} (leads : (visit.finish step snapshot members).Leads
      (newest :: history) final) :
    step.decision.fires = true ∧
      [⟨.states (.put visit.key step.state), .ok ()⟩] <:+ history ∧
      ∃ since, newest :: history = since ++ visit.announcement step := by
  obtain ⟨answer, saved, rfl, goesOn⟩ := Program.leads_ask_of_ne leads (isAction.ne id)
  cases answer with
  | error failure => exact absurd goesOn (not_skip isAction)
  | ok done =>
      obtain ⟨_, evaluated, rfl, acts⟩ := Program.leads_ask_of_ne goesOn (isAction.ne id)
      cases fires : step.decision.fires with
      | false =>
          rw [fires] at acts
          cases (Program.leads_done_iff.1 acts).1
      | true =>
          rw [fires] at acts
          refine ⟨rfl, List.suffix_append .., ?_⟩
          rcases Program.leads_call acts with ⟨isNil, -⟩ | ⟨_, since, parts, -⟩
          · cases isNil
          · refine ⟨since, ?_⟩
            rw [← List.cons_append, ← List.cons_append, parts, List.append_assoc, List.append_assoc]
            rfl

theorem underLock_of_action (isAction : newest.call.IsAction)
    (leads : visit.run.Leads (newest :: history) final) :
    ∃ lock later middle, history = later ++ [⟨.lock (.acquire lock), ()⟩,
        ⟨.lock (.find (.target visit.key)), lock⟩] ∧
      visit.underLock.Leads (newest :: later) middle := by
  obtain ⟨lock, located, rfl, takes⟩ := Program.leads_ask_of_ne leads (isAction.ne id)
  obtain ⟨_, later, rfl, inside⟩ := Program.leads_ask_of_ne takes (isAction.ne id)
  have parts : later ++ [⟨.lock (.acquire lock), ()⟩] ++
      [(⟨.lock (.find (.target visit.key)), lock⟩ : Exchange)] =
        later ++ [⟨.lock (.acquire lock), ()⟩, ⟨.lock (.find (.target visit.key)), lock⟩] :=
    List.append_assoc ..
  rcases Program.leads_bind inside with
    ⟨middle, leads, -⟩ | ⟨value, last, early, same, ends, leaves⟩
  · exact ⟨lock, later, middle, parts, leads⟩
  · rcases List.cons_eq_append_iff.1 same with ⟨rfl, rfl⟩ | ⟨last, rfl, rfl⟩
    · exact ⟨lock, later, _, parts, ends⟩
    · obtain ⟨_, none, -, returns⟩ := Program.leads_ask_of_ne leaves (isAction.ne id)
      cases (Program.leads_done_iff.1 returns).1

/-- A visit that reports has read its target, and has taken a step if there are data. -/
theorem ends_advance {state : TargetState} {exchanges : List Exchange} {report : TargetReport}
    (ends : (visit.advance state).Ends exchanges (some report)) :
    ∃ reading later early, exchanges = later ++ early ∧
      (visit.agent.read visit.settings.fetchLimit visit.target).Ends early reading ∧
      ((∃ reason, reading = .unavailable reason ∧
          (visit.skip (.skipped reason) reason).Ends later (some report)) ∨
        ∃ snapshot members step, reading = .available snapshot members ∧
          visit.step state snapshot = some step ∧
          (visit.finish step snapshot members).Ends later (some report)) := by
  obtain ⟨reading, later, early, rfl, reads, goesOn⟩ := Program.ends_bind_iff.1 ends
  refine ⟨reading, later, early, rfl, reads, ?_⟩
  cases reading with
  | unavailable reason => exact Or.inl ⟨reason, rfl, goesOn⟩
  | available snapshot members =>
      dsimp only at goesOn
      cases isStep : visit.step state snapshot with
      | none =>
          rw [isStep] at goesOn
          cases (Program.ends_done_iff.1 goesOn).2
      | some step =>
          rw [isStep] at goesOn
          exact Or.inr ⟨snapshot, members, step, rfl, isStep, goesOn⟩

/-- A visit that has come to an action has loaded a state and read metrics, and has gone on from
these. -/
theorem finish_of_action (isAction : newest.call.IsAction)
    (leads : visit.run.Leads (newest :: history) final) :
    ∃ lock loaded readings snapshot members step later middle,
      history = later ++ (readings ++ [⟨.states (.get visit.key), .ok loaded⟩,
        ⟨.lock (.acquire lock), ()⟩, ⟨.lock (.find (.target visit.key)), lock⟩]) ∧
      (loaded.getD visit.freshState).isStale visit.slot.tick = false ∧
      (visit.agent.read visit.settings.fetchLimit visit.target).Ends readings
        (.available snapshot members) ∧
      visit.step (loaded.getD visit.freshState) snapshot = some step ∧
      (visit.finish step snapshot members).Leads (newest :: later) middle := by
  obtain ⟨lock, later, middle, rfl, inside⟩ := underLock_of_action isAction leads
  obtain ⟨answer, last, rfl, goesOn⟩ := Program.leads_ask_of_ne inside (isAction.ne id)
  cases answer with
  | error failure => exact absurd goesOn (not_skip isAction)
  | ok loaded =>
      cases stale : (loaded.getD visit.freshState).isStale visit.slot.tick with
      | true =>
          simp only [stale, if_true] at goesOn
          exact absurd goesOn (not_skip isAction)
      | false =>
          simp only [stale, Bool.false_eq_true, if_false] at goesOn
          obtain ⟨reading, done, readings, rfl, read, finishes⟩ :=
            Program.leads_bind_of_uses (visit.agent.read_uses _ _) isAction.not_isReading goesOn
          cases reading with
          | unavailable reason => exact absurd finishes (not_skip isAction)
          | available snapshot members =>
              dsimp only at finishes
              cases isStep : visit.step (loaded.getD visit.freshState) snapshot with
              | none =>
                  rw [isStep] at finishes
                  cases (Program.leads_done_iff.1 finishes).1
              | some step =>
                  rw [isStep] at finishes
                  refine ⟨lock, loaded, readings, snapshot, members, step, done, middle, ?_, stale,
                    read, isStep, finishes⟩
                  simp only [List.append_assoc, List.cons_append, List.nil_append]

theorem decides_of_firing (isFiring : newest.starts key = true)
    (leads : visit.run.Leads (newest :: history) final) :
    ∃ loaded snapshot step, visit.Decides history loaded snapshot step := by
  have isAction : newest.call.IsAction := by
    obtain ⟨tick, count, rfl⟩ := Exchange.starts_iff.1 isFiring
    trivial
  obtain ⟨lock, loaded, readings, snapshot, members, step, later, middle, rfl, -, read, isStep,
    finishes⟩ := finish_of_action isAction leads
  obtain ⟨fires, ⟨earlier, rfl⟩, -⟩ := fires_of_finish isAction finishes
  refine ⟨loaded, snapshot, step, isStep, fires, lock, readings, members, read, earlier, ?_⟩
  simp only [List.append_assoc, List.cons_append, List.nil_append]

end Visit

/-! ## Loads -/

/-- The exchanges by which a visit has come to a stage are a run under its key. -/
theorem VisitRun.of_path {visit : Visit} {history : List Exchange} {stage : VisitStage}
    (path : Program.Path (VisitStep visit) .idle history stage) :
    VisitRun visit.key history stage := by
  induction path with
  | start => exact .idle
  | step path taken ih => exact .step visit rfl ih taken

/-- A visit asks for its state when it has taken its lock. -/
theorem VisitStep.get_cases {visit : Visit} {before after : VisitStage} {exchange : Exchange}
    (step : VisitStep visit before exchange after) {key : StateKey}
    (isGet : exchange.call = .states (.get key)) : ∃ lock, before = .locked lock := by
  cases step with
  | loadFails lock | loadStale lock | load lock => exact ⟨lock, rfl⟩
  | read lock stored exchange isReading =>
      rw [isGet] at isReading
      cases isReading
  | act lock exchange isErrand =>
      rw [isGet] at isErrand
      cases isErrand
  | change lock campaign own exchange concerns =>
      rw [isGet] at concerns
      cases concerns
  | _ => cases isGet

/-- What a visit can have been told of its state when it has come to a stage. -/
def VisitStage.Loads (key : StateKey) (history : List Exchange) : VisitStage → Prop
  | .idle | .located _ | .locked _ => ∀ answer, ⟨.states (.get key), answer⟩ ∉ history
  | .loaded _ stored => ∀ answer, ⟨.states (.get key), answer⟩ ∈ history ↔ answer = .ok stored
  | _ => ∀ first second, ⟨.states (.get key), first⟩ ∈ history →
      ⟨.states (.get key), second⟩ ∈ history → first = second

namespace VisitStage.Loads

variable {key : StateKey} {history : List Exchange} {stage : VisitStage}

/-- A visit is told its state once. -/
theorem once (loads : stage.Loads key history) {first second : Except Failure (Option TargetState)}
    (isFirst : ⟨.states (.get key), first⟩ ∈ history)
    (isSecond : ⟨.states (.get key), second⟩ ∈ history) : first = second := by
  cases stage with
  | idle | located lock | locked lock => exact absurd isFirst (loads first)
  | loaded lock stored => rw [(loads first).1 isFirst, (loads second).1 isSecond]
  | saved | due | acting | leaving | left => exact loads first second isFirst isSecond

end VisitStage.Loads

theorem VisitRun.loads {key : StateKey} {history : List Exchange} {stage : VisitStage}
    (run : VisitRun key history stage) : stage.Loads key history := by
  induction run with
  | idle => exact fun _ => List.not_mem_nil
  | @step history before after exchange visit isOwn run step ih =>
      subst isOwn
      have older : (∀ lock, before ≠ .locked lock) → ∀ answer,
          (⟨.states (.get visit.key), answer⟩ ∈ exchange :: history ↔
            ⟨.states (.get visit.key), answer⟩ ∈ history) := by
        intro isBusy answer
        refine List.mem_cons.trans (or_iff_right fun isNew => ?_)
        obtain ⟨lock, isLocked⟩ := step.get_cases (congrArg Exchange.call isNew.symm)
        exact isBusy lock isLocked
      have same : (∀ lock, before ≠ .locked lock) → ∀ first second,
          ⟨.states (.get visit.key), first⟩ ∈ exchange :: history →
          ⟨.states (.get visit.key), second⟩ ∈ exchange :: history → first = second :=
        fun isBusy first second isFirst isSecond =>
          ih.once ((older isBusy first).1 isFirst) ((older isBusy second).1 isSecond)
      cases step with
      | locate lock | enter lock =>
          exact fun answer found => ih answer ((older (by simp) answer).1 found)
      | read lock stored exchange isReading =>
          exact fun answer => (older (by simp) answer).trans (ih answer)
      | load lock stored isNew =>
          intro answer
          rw [List.mem_cons, or_iff_left (ih answer)]
          simp
      | loadFails lock failure | loadStale lock stored =>
          intro first second isFirst isSecond
          rw [List.mem_cons, or_iff_left (ih _)] at isFirst isSecond
          cases isFirst
          cases isSecond
          rfl
      | _ => exact same (by simp)

/-! ## Actions -/

/-- An action of a visit either starts the actions or is made when they have been started. -/
theorem VisitStep.starts_of_action {visit : Visit} {before after : VisitStage}
    {exchange : Exchange} (step : VisitStep visit before exchange after)
    (isAction : exchange.call.IsAction) :
    exchange.starts visit.key = true ∨ ∃ lock use, before = .acting lock use := by
  rcases step.action_cases isAction with ⟨lock, rfl⟩ | isActing
  · cases step with
    | fire lock count => exact Or.inl (Exchange.starts_iff.2 ⟨_, _, rfl⟩)
  · exact Or.inr isActing

theorem VisitStep.acting_cases {visit : Visit} {before : VisitStage} {exchange : Exchange}
    {lock : LockId} {use : CampaignUse}
    (step : VisitStep visit before exchange (.acting lock use)) :
    exchange.starts visit.key = true ∨ ∃ use, before = .acting lock use := by
  cases step with
  | fire lock count => exact Or.inl (Exchange.starts_iff.2 ⟨_, _, rfl⟩)
  | act | locateCampaign | enterCampaign | change | leaveCampaign => exact Or.inr ⟨_, rfl⟩

theorem VisitRun.starts_of_acting {key : StateKey} {history : List Exchange} {lock : LockId}
    {use : CampaignUse} {stage : VisitStage} (run : VisitRun key history stage)
    (isActing : stage = .acting lock use) : ∃ start ∈ history, start.starts key = true := by
  induction run generalizing use with
  | idle => cases isActing
  | step visit isOwn run step ih =>
      subst isOwn
      subst isActing
      rcases step.acting_cases with isStart | ⟨use, isActing⟩
      · exact ⟨_, List.mem_cons_self, isStart⟩
      · obtain ⟨start, found, isStart⟩ := ih isActing
        exact ⟨start, List.mem_cons_of_mem _ found, isStart⟩

/-- A visit has saved a state before it makes an action. -/
theorem VisitRun.saved_of_action {key : StateKey} {history past : List Exchange}
    {stage : VisitStage} {exchange : Exchange} (run : VisitRun key history stage)
    (isPast : exchange :: past <:+ history) (isAction : exchange.call.IsAction) :
    HasSaved key past := by
  induction run with
  | idle => exact absurd (List.suffix_nil.1 isPast) (List.cons_ne_nil _ _)
  | step visit isOwn run step ih =>
      rcases List.suffix_cons_iff.1 isPast with same | older
      · cases same
        have recalls := run.recalls
        rcases step.action_cases isAction with ⟨lock, found⟩ | ⟨lock, use, found⟩
        · rw [found] at recalls
          exact recalls.1
        · rw [found] at recalls
          exact recalls.1
      · exact ih older

/-- A visit makes no action that it has not announced. -/
theorem VisitRun.starts_of_action {key : StateKey} {history past : List Exchange}
    {stage : VisitStage} {exchange : Exchange} (run : VisitRun key history stage)
    (isPast : exchange :: past <:+ history) (isAction : exchange.call.IsAction) :
    ∃ start ∈ exchange :: past, start.starts key = true := by
  induction run with
  | idle => exact absurd (List.suffix_nil.1 isPast) (List.cons_ne_nil _ _)
  | step visit isOwn run step ih =>
      rcases List.suffix_cons_iff.1 isPast with same | older
      · cases same
        subst isOwn
        rcases step.starts_of_action isAction with isStart | ⟨lock, use, isActing⟩
        · exact ⟨_, List.mem_cons_self, isStart⟩
        · obtain ⟨start, found, isStart⟩ := run.starts_of_acting isActing
          exact ⟨start, List.mem_cons_of_mem _ found, isStart⟩
      · exact ih older

/-! ## Reports -/

/-- Whether an exchange turns a note that a state was saved for a key into a later one. -/
def Exchange.Notes (key : StateKey) (before : Bool) (exchange : Exchange) (after : Bool) : Prop :=
  after = (before || (exchange.saved? key).isSome)

section Notes

variable {key : StateKey}

theorem unsaved_of_path {history : List Exchange} {saved : Bool}
    (path : Program.Path (Exchange.Notes key) false history saved) (isUnsaved : saved = false) :
    ∀ exchange ∈ history, exchange.saved? key = none := by
  induction path with
  | start => exact List.forall_mem_nil _
  | step path notes ih =>
      subst isUnsaved
      obtain ⟨before, isNone⟩ := Bool.or_eq_false_iff.1 notes.symm
      refine List.forall_mem_cons.2 ⟨?_, ih before⟩
      rwa [Option.isSome_eq_false_iff, Option.isNone_iff_eq_none] at isNone

/-- What was saved stays noted, whatever a program does. -/
theorem Program.follows_noted {α : Type} (program : Program α) :
    program.Follows (Exchange.Notes key) (fun saved _ => saved = true) true := by
  induction program with
  | done value => rfl
  | call request next ih => exact fun answer => ⟨true, (Bool.true_or _).symm, ih answer⟩

end Notes

theorem TargetStatus.isSkipped_ofOutcome (verdict : Verdict) (decision : Decision)
    (count : UInt64) : (ofOutcome verdict decision count).isSkipped = false := by
  cases decision <;> cases verdict <;> rfl

namespace Visit

variable {visit : Visit}

/-- Whether a report, if there is one, is about the target of a visit, and does not hide that a
state was saved. -/
def Admits (visit : Visit) (saved : Bool) (report : Option TargetReport) : Prop :=
  ∀ own, report = some own →
    own.key = visit.key ∧ (own.status.isSkipped = true → saved = false)

theorem skip_notes (status : TargetStatus) (reason : String) :
    (visit.skip status reason).Follows (Exchange.Notes visit.key) visit.Admits false :=
  Program.Follows.ask fun _ => ⟨false, rfl, by rintro _ ⟨⟩; exact ⟨rfl, fun _ => rfl⟩⟩

theorem finish_notes (step : Step) (snapshot : Snapshot) (members : List Member) :
    (visit.finish step snapshot members).Follows (Exchange.Notes visit.key) visit.Admits false := by
  refine Program.Follows.ask fun answer => ?_
  cases answer with
  | error failure => exact ⟨false, rfl, skip_notes _ _⟩
  | ok done =>
      refine ⟨true, by simp [Exchange.Notes, Exchange.saved?], ?_⟩
      refine Program.Follows.ask fun _ => ⟨true, rfl, ?_⟩
      have isSaved : (TargetStatus.ofOutcome step.verdict step.decision
          step.state.firings.count).isSkipped = false := TargetStatus.isSkipped_ofOutcome ..
      cases fires : step.decision.fires with
      | false =>
          rintro _ ⟨⟩
          exact ⟨rfl, fun isSkipped => by simp [isSaved] at isSkipped⟩
      | true =>
          refine (Program.follows_noted (visit.fire _)).bind ?_
          rintro saved actions rfl _ ⟨⟩
          exact ⟨rfl, fun isSkipped => by simp [isSaved] at isSkipped⟩

theorem underLock_notes :
    visit.underLock.Follows (Exchange.Notes visit.key) visit.Admits false := by
  refine Program.Follows.ask fun answer => ⟨false, rfl, ?_⟩
  cases answer with
  | error failure => exact skip_notes _ _
  | ok stored =>
      dsimp only
      split
      · exact skip_notes _ _
      · have stays : ∀ exchange : Exchange, exchange.call.IsReading →
            Exchange.Notes visit.key false exchange false := by
          intro exchange isReading
          rw [Exchange.Notes, Exchange.saved?_eq_none (isReading.harmless visit.key).1]
          rfl
        refine (Program.Follows.of_uses (visit.agent.read_uses _ _) stays).bind ?_
        rintro saved reading ⟨rfl, -⟩
        cases reading with
        | unavailable reason => exact skip_notes _ _
        | available snapshot members =>
            dsimp only
            cases visit.step (stored.getD visit.freshState) snapshot with
            | none => exact fun _ => nofun
            | some step => exact finish_notes _ _ _

/-- A visit reports on its own target, and what it reports as skipped it has not saved. -/
theorem report_of_ends {exchanges : List Exchange} {report : TargetReport}
    (ends : visit.run.Ends exchanges (some report)) : report.key = visit.key ∧
      (report.status.isSkipped = true →
        ∀ exchange ∈ exchanges, exchange.saved? visit.key = none) := by
  have follows : visit.run.Follows (Exchange.Notes visit.key) visit.Admits false := by
    refine Program.Follows.ask fun lock => ⟨false, rfl, ?_⟩
    refine Program.Follows.ask fun _ => ⟨false, rfl, ?_⟩
    refine underLock_notes.bind fun saved report isAdmitted => ?_
    exact Program.Follows.ask fun _ => ⟨saved, (Bool.or_false saved).symm, isAdmitted⟩
  obtain ⟨saved, path, isAdmitted⟩ := follows.path ends
  obtain ⟨isOwn, unsaved⟩ := isAdmitted report rfl
  exact ⟨isOwn, fun isSkipped => unsaved_of_path path (unsaved isSkipped)⟩

end Visit

end AdMonitor
