import AdMonitor.Proofs.Visit.Reading

/-!
# Targets that were evaluated already

Of all that keeps a visit from evaluating its target, only a state that is not
older than the tick makes it report that the target was evaluated already
(`Visit.stale_of_alreadyEvaluated`): whatever an unavailable reading says, it
begins in another way.
-/

namespace AdMonitor

/-- What is reported of a target that was evaluated already when a tick came to it. -/
def TargetStatus.alreadyEvaluated (tick : TickNumber) : TargetStatus :=
  .skipped ("tick " ++ toString tick ++ " already evaluated")

def firstLetter? (text : String) : Option Char := text.toList.head?

theorem firstLetter?_append {first second : String} {letter : Char}
    (isFirst : firstLetter? first = some letter) :
    firstLetter? (first ++ second) = some letter := by
  obtain ⟨rest, isText⟩ := List.head?_eq_some_iff.1 isFirst
  rw [firstLetter?, String.toList_append, isText]
  rfl

theorem firstLetter?_append_ne {first second : String} {letter : Char}
    (isFirst : firstLetter? first = some letter) (differs : letter ≠ 't') :
    firstLetter? (first ++ second) ≠ some 't' := by
  rw [firstLetter?_append isFirst]
  exact fun same => differs (Option.some.inj same)

theorem Failure.firstLetter?_message (failure : Failure) :
    firstLetter? failure.message ≠ some 't' := by
  cases failure <;> exact firstLetter?_append_ne rfl (by decide)

def Reading.firstLetter? : Reading → Option Char
  | .available .. => none
  | .unavailable reason => AdMonitor.firstLetter? reason

section Readings

variable {limit : Span} {agent : Agent} {id : EntityId} {target : Target} {entities : List Entity}
  {exchanges : List Exchange} {reading : Reading}

theorem Reading.firstLetter?_ofEntity (found : Except Failure (List Member)) :
    (ofEntity id found).firstLetter? ≠ some 't' := by
  cases found with
  | error failure => exact failure.firstLetter?_message
  | ok members =>
      cases members with
      | cons =>
          intro same
          cases same
      | nil => exact firstLetter?_append_ne rfl (by decide)

theorem Reading.firstLetter?_ofMembers (found : Except Failure (List Member)) :
    (ofMembers found).firstLetter? ≠ some 't' := by
  cases found with
  | error failure => exact failure.firstLetter?_message
  | ok members =>
      cases members with
      | cons =>
          intro same
          cases same
      | nil => decide

theorem Agent.firstLetter?_readEntity (ends : (agent.readEntity limit id).Ends exchanges reading) :
    reading.firstLetter? ≠ some 't' := by
  obtain ⟨reply, later, rfl, goesOn⟩ := Program.ends_ask_iff.1 ends
  split at goesOn
  · rename_i failure _
    obtain ⟨rfl, rfl⟩ := Program.ends_done_iff.1 goesOn
    exact failure.firstLetter?_message
  · obtain ⟨rfl, rfl⟩ := Program.ends_done_iff.1 goesOn
    exact firstLetter?_append_ne (firstLetter?_append rfl) (by decide)
  · split at goesOn
    · obtain ⟨found, none, early, rfl, -, returns⟩ := Program.ends_bind_iff.1 goesOn
      obtain ⟨rfl, rfl⟩ := Program.ends_done_iff.1 returns
      exact Reading.firstLetter?_ofEntity found
    · obtain ⟨rfl, rfl⟩ := Program.ends_done_iff.1 goesOn
      exact firstLetter?_append_ne (firstLetter?_append rfl) (by decide)

theorem Agent.firstLetter?_readAggregate
    (ends : (agent.readAggregate limit entities).Ends exchanges reading) :
    reading.firstLetter? ≠ some 't' := by
  unfold readAggregate at ends
  split at ends
  · obtain ⟨rfl, rfl⟩ := Program.ends_done_iff.1 ends
    decide
  · obtain ⟨found, none, early, rfl, -, returns⟩ := Program.ends_bind_iff.1 ends
    obtain ⟨rfl, rfl⟩ := Program.ends_done_iff.1 returns
    exact Reading.firstLetter?_ofMembers found

theorem Agent.firstLetter?_read (ends : (agent.read limit target).Ends exchanges reading) :
    reading.firstLetter? ≠ some 't' := by
  cases target with
  | aggregate entities => exact firstLetter?_readAggregate ends
  | entity id => exact firstLetter?_readEntity ends

end Readings

namespace Visit

variable {visit : Visit} {exchanges : List Exchange} {report : TargetReport} {tick : TickNumber}

theorem status_of_skip {status : TargetStatus} {reason : String}
    (ends : (visit.skip status reason).Ends exchanges (some report)) : report.status = status := by
  obtain ⟨_, none, rfl, returns⟩ := Program.ends_ask_iff.1 ends
  obtain ⟨rfl, ⟨⟩⟩ := Program.ends_done_iff.1 returns
  rfl

/-- A visit that has read its target does not report that it was evaluated already. -/
theorem status_of_finish {step : Step} {snapshot : Snapshot} {members : List Member}
    (ends : (visit.finish step snapshot members).Ends exchanges (some report)) (reason : String) :
    report.status ≠ .skipped reason := by
  obtain ⟨answer, later, rfl, goesOn⟩ := Program.ends_ask_iff.1 ends
  cases answer with
  | error failure =>
      rw [status_of_skip goesOn]
      intro same
      cases same
  | ok done =>
      obtain ⟨_, last, rfl, acts⟩ := Program.ends_ask_iff.1 goesOn
      have isOutcome : report.status =
          .ofOutcome step.verdict step.decision step.state.firings.count := by
        dsimp only at acts
        split at acts <;>
        · obtain ⟨actions, none, early, rfl, -, returns⟩ := Program.ends_bind_iff.1 acts
          obtain ⟨rfl, ⟨⟩⟩ := Program.ends_done_iff.1 returns
          rfl
      intro isSkipped
      have isSaved := TargetStatus.isSkipped_ofOutcome step.verdict step.decision
        step.state.firings.count
      rw [← isOutcome, isSkipped] at isSaved
      cases isSaved

theorem status_of_advance {state : TargetState}
    (ends : (visit.advance state).Ends exchanges (some report)) :
    report.status ≠ .alreadyEvaluated tick := by
  obtain ⟨reading, later, early, rfl, reads, goesOn⟩ := ends_advance ends
  rcases goesOn with ⟨reason, rfl, skips⟩ | ⟨snapshot, members, step, -, -, finishes⟩
  · rw [status_of_skip skips]
    intro same
    refine Agent.firstLetter?_read reads ?_
    rw [Reading.firstLetter?, TargetStatus.skipped.inj same]
    exact firstLetter?_append (firstLetter?_append rfl)
  · exact status_of_finish finishes _

/-- Who reports that a target was evaluated already has loaded a state that is stale. -/
theorem stale_of_alreadyEvaluated (ends : visit.run.Ends exchanges (some report))
    (isSkipped : report.status = .alreadyEvaluated tick) : ∃ stored : TargetState,
      ⟨.states (.get visit.key), .ok (some stored)⟩ ∈ exchanges ∧
        stored.isStale visit.slot.tick = true := by
  obtain ⟨lock, located, rfl, takes⟩ := Program.ends_ask_iff.1 ends
  obtain ⟨_, later, rfl, inside⟩ := Program.ends_ask_iff.1 takes
  obtain ⟨value, last, early, rfl, evaluates, leaves⟩ := Program.ends_bind_iff.1 inside
  obtain ⟨_, none, rfl, returns⟩ := Program.ends_ask_iff.1 leaves
  obtain ⟨rfl, rfl⟩ := Program.ends_done_iff.1 returns
  obtain ⟨answer, advanced, rfl, loads⟩ := Program.ends_ask_iff.1 evaluates
  cases answer with
  | error failure =>
      rw [status_of_skip loads] at isSkipped
      cases isSkipped
  | ok found =>
      dsimp only at loads
      split at loads
      · rename_i isStale
        cases found with
        | none => cases isStale
        | some stored => exact ⟨stored, by simp, isStale⟩
      · exact absurd isSkipped (status_of_advance loads)

end Visit

end AdMonitor
