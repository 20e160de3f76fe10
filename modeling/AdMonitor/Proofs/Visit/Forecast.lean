import AdMonitor.Monitor
import AdMonitor.Proofs.Condition.Explanation
import AdMonitor.Proofs.Visit.Outcome
import Mathlib.Data.List.Forall2

/-!
# What is made of a reading

An explanation and a visit each read a target and judge what was read: one says
it (`Settings.ends_explain`), the other reports it and tells of it, as long as
its state is loaded and saved and is not stale (`Visit.judges`).
-/

namespace AdMonitor

variable {settings : Settings} {limit : Span} {agent : Agent} {id : AgentId} {target : Target}
  {targets : List Target} {exchanges others : List Exchange} {reading : Reading}
  {explanation : Explanation} {explanations : List Explanation}

def Reading.explain (condition : Condition) : Reading → Except String Report
  | .available snapshot _ => .ok (condition.explain snapshot)
  | .unavailable reason => .error reason

namespace Agent

def Locates (limit : Span) (agent : Agent) (exchanges : List Exchange)
    (targets : List Target) : Prop :=
  ∃ lookup ⊆ exchanges, (agent.resolve limit).Ends lookup (.ok targets)

def Obtains (limit : Span) (agent : Agent) (exchanges : List Exchange) (target : Target)
    (reading : Reading) : Prop :=
  ∃ readings ⊆ exchanges, (agent.read limit target).Ends readings reading

theorem Obtains.mono (obtains : agent.Obtains limit exchanges target reading)
    (isPart : exchanges ⊆ others) : agent.Obtains limit others target reading := by
  obtain ⟨readings, areRead, ends⟩ := obtains
  exact ⟨readings, List.Subset.trans areRead isPart, ends⟩

structure Explains (limit : Span) (agent : Agent) (exchanges : List Exchange) (target : Target)
    (explanation : Explanation) : Prop where
  key : explanation.target = target.key
  outcome : ∃ reading, agent.Obtains limit exchanges target reading ∧
    explanation.outcome = reading.explain agent.condition

theorem Explains.mono (explains : agent.Explains limit exchanges target explanation)
    (isPart : exchanges ⊆ others) : agent.Explains limit others target explanation := by
  obtain ⟨isKey, reading, obtains, outcome⟩ := explains
  exact ⟨isKey, reading, obtains.mono isPart, outcome⟩

end Agent

/-! ## Explanations -/

namespace Settings

theorem ends_explainTargets
    (ends : (settings.explainTargets agent targets).Ends exchanges (.ok explanations)) :
    List.Forall₂ (agent.Explains settings.fetchLimit exchanges) targets explanations := by
  induction targets generalizing exchanges explanations with
  | nil =>
      cases (Program.ends_done_iff.1 ends).2
      exact .nil
  | cons target rest ih =>
      obtain ⟨answer, later, rfl, reads⟩ := Program.ends_ask_iff.1 ends
      cases answer with
      | error failure => cases (Program.ends_done_iff.1 reads).2
      | ok state =>
          obtain ⟨reading, after, readings, rfl, read, goesOn⟩ := Program.ends_bind_iff.1 reads
          obtain ⟨found, none, last, rfl, explains, returns⟩ := Program.ends_bind_iff.1 goesOn
          cases found with
          | error failure => cases (Program.ends_done_iff.1 returns).2
          | ok rest =>
              obtain ⟨rfl, same⟩ := Program.ends_done_iff.1 returns
              cases same
              refine .cons ⟨rfl, reading, ⟨readings, ?_, read⟩, rfl⟩ ((ih explains).imp ?_)
              · exact fun exchange found => by simp [found]
              · exact fun _ _ explains => explains.mono fun exchange found => by simp [found]

structure Explains [UrlParser] (settings : Settings) (agent : Agent) (exchanges : List Exchange)
    (targets : List Target) (explanations : List Explanation) : Prop where
  isValid : agent.validate settings.maxConditionDepth = .ok ()
  locates : agent.Locates settings.fetchLimit exchanges targets
  each : List.Forall₂ (agent.Explains settings.fetchLimit exchanges) targets explanations

theorem Explains.mono [UrlParser]
    (explains : settings.Explains agent exchanges targets explanations)
    (isPart : exchanges ⊆ others) : settings.Explains agent others targets explanations := by
  obtain ⟨isValid, ⟨lookup, areFound, resolves⟩, each⟩ := explains
  refine ⟨isValid, ⟨lookup, List.Subset.trans areFound isPart, resolves⟩, ?_⟩
  exact each.imp fun _ _ explains => explains.mono isPart

/-- An explanation that succeeds is that of an agent that was found, and of all its targets. -/
theorem ends_explain [UrlParser] (ends : (settings.explain id).Ends exchanges (.ok explanations)) :
    ∃ agent targets later, exchanges = later ++ [⟨.agents (.get id), .ok (some agent)⟩] ∧
      settings.Explains agent exchanges targets explanations := by
  obtain ⟨answer, later, rfl, finds⟩ := Program.ends_ask_iff.1 ends
  cases answer with
  | error failure => cases (Program.ends_done_iff.1 finds).2
  | ok found =>
      cases found with
      | none => cases (Program.ends_done_iff.1 finds).2
      | some agent =>
          dsimp only at finds
          split at finds
          · cases (Program.ends_done_iff.1 finds).2
          · rename_i isValid
            obtain ⟨resolved, last, lookup, rfl, resolves, explains⟩ :=
              Program.ends_bind_iff.1 finds
            cases resolved with
            | error failure => cases (Program.ends_done_iff.1 explains).2
            | ok targets =>
                refine ⟨agent, targets, _, rfl, isValid, ⟨lookup, ?_, resolves⟩, ?_⟩
                · exact fun exchange found => by simp [found]
                · exact (ends_explainTargets explains).imp fun _ _ explains =>
                    explains.mono fun exchange found => by simp [found]

end Settings

/-! ## Visits -/

namespace Visit

variable {visit : Visit} {state : TargetState} {snapshot : Snapshot} {members : List Member}
  {report : TargetReport}

inductive Judges (visit : Visit) (exchanges : List Exchange) : Reading → TargetReport → Prop where
  | skipped (reason : String) :
      Judges visit exchanges (.unavailable reason) ⟨visit.key, .skipped reason, []⟩
  | evaluated (snapshot : Snapshot) (members : List Member) (verdict : Verdict)
      (isVerdict : visit.agent.condition.evaluate snapshot = verdict) (satisfied : Bool)
      (decision : Decision) (count : UInt64) (actions : List ActionRecord)
      (tells : ⟨.publish (.targetEvaluated visit.slot.tick visit.key verdict satisfied decision),
        ()⟩ ∈ exchanges) :
      Judges visit exchanges (.available snapshot members)
        ⟨visit.key, .ofOutcome verdict decision count, actions⟩

theorem Judges.mono (judges : visit.Judges exchanges reading report)
    (isPart : exchanges ⊆ others) : visit.Judges others reading report := by
  cases judges with
  | skipped reason => exact .skipped reason
  | evaluated snapshot members verdict isVerdict satisfied decision count actions tells =>
      exact .evaluated snapshot members verdict isVerdict satisfied decision count actions
        (isPart tells)

/-- Whether a visit was given a state that is not stale, and could save the new one. -/
structure IsStored (visit : Visit) (exchanges : List Exchange) : Prop where
  loaded : ∀ answer, ⟨.states (.get visit.key), answer⟩ ∈ exchanges → ∃ stored,
    answer = .ok stored ∧ (stored.getD visit.freshState).isStale visit.slot.tick = false
  saved : ∀ state answer, ⟨.states (.put visit.key state), answer⟩ ∈ exchanges → answer = .ok ()

section Stored

variable (saved : ∀ state answer,
  ⟨.states (.put visit.key state), answer⟩ ∈ exchanges → answer = .ok ())

include saved

theorem judges_finish {step : Step}
    (isVerdict : visit.agent.condition.evaluate snapshot = step.verdict)
    (ends : (visit.finish step snapshot members).Ends exchanges (some report)) :
    visit.Judges exchanges (.available snapshot members) report := by
  obtain ⟨answer, later, rfl, goesOn⟩ := Program.ends_ask_iff.1 ends
  cases saved _ answer (List.mem_append_right _ List.mem_cons_self)
  obtain ⟨_, last, rfl, acts⟩ := Program.ends_ask_iff.1 goesOn
  dsimp only at acts
  split at acts <;>
  · obtain ⟨actions, none, early, rfl, -, returns⟩ := Program.ends_bind_iff.1 acts
    obtain ⟨rfl, ⟨⟩⟩ := Program.ends_done_iff.1 returns
    exact .evaluated snapshot members step.verdict isVerdict step.satisfied step.decision _ actions
      (by simp)

/-- What a visit reports is what it has read of its target. -/
theorem judges_advance (ends : (visit.advance state).Ends exchanges (some report)) :
    ∃ reading, visit.agent.Obtains visit.settings.fetchLimit exchanges visit.target reading ∧
      visit.Judges exchanges reading report := by
  obtain ⟨reading, later, readings, rfl, read, goesOn⟩ := ends_advance ends
  refine ⟨reading, ⟨readings, List.subset_append_right .., read⟩, ?_⟩
  rcases goesOn with ⟨reason, rfl, skips⟩ | ⟨snapshot, members, step, rfl, isStep, finishes⟩
  · obtain ⟨_, none, rfl, returns⟩ := Program.ends_ask_iff.1 skips
    obtain ⟨rfl, ⟨⟩⟩ := Program.ends_done_iff.1 returns
    exact .skipped reason
  · obtain ⟨progress, satisfied, -, rfl⟩ := step_eq_some.1 isStep
    refine (judges_finish (fun state answer found => ?_) rfl finishes).mono
      (List.subset_append_left ..)
    exact saved state answer (List.mem_append_left _ found)

end Stored

/-- What a visit reports is what it has read of its target, if its state is loaded and saved and is
not stale. -/
theorem judges (ends : visit.run.Ends exchanges (some report))
    (isStored : visit.IsStored exchanges) :
    ∃ reading, visit.agent.Obtains visit.settings.fetchLimit exchanges visit.target reading ∧
      visit.Judges exchanges reading report := by
  obtain ⟨lock, located, rfl, takes⟩ := Program.ends_ask_iff.1 ends
  obtain ⟨_, later, rfl, inside⟩ := Program.ends_ask_iff.1 takes
  obtain ⟨value, last, early, rfl, evaluates, leaves⟩ := Program.ends_bind_iff.1 inside
  obtain ⟨_, none, rfl, returns⟩ := Program.ends_ask_iff.1 leaves
  obtain ⟨rfl, rfl⟩ := Program.ends_done_iff.1 returns
  obtain ⟨answer, advanced, rfl, loads⟩ := Program.ends_ask_iff.1 evaluates
  obtain ⟨stored, rfl, isNew⟩ := isStored.loaded answer (by simp)
  simp only [isNew, Bool.false_eq_true, if_false] at loads
  obtain ⟨reading, obtains, judges⟩ := judges_advance
    (fun state answer found => isStored.saved state answer (by simp [found])) loads
  refine ⟨reading, obtains.mono ?_, judges.mono ?_⟩ <;>
  · intro exchange found
    simp [found]

end Visit

end AdMonitor
