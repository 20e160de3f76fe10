import AdMonitor.Proofs.Visit.Outcome

/-!
# What follows an announcement

A visit that acts has saved a step that fires and announced the firing, and what
it does from then on is what the actions of the firing do, until all of them
have been run (`Visit.acts_of_action`).  So a visit announces at most once.
-/

namespace AdMonitor

namespace Visit

/-- Whether a call tells of an action that has been run, or gives a lock back. -/
def Notes (visit : Visit) (records : List ActionRecord) : Call → Prop
  | .publish (.actionCompleted tick key record) =>
      tick = visit.slot.tick ∧ key = visit.key ∧ record ∈ records
  | .lock (.release _) => True
  | _ => False

/-- How far a visit can have come with the actions of a firing. -/
inductive Performs (visit : Visit) (firing : Firing) : List Exchange → Prop where
  | underway (executed : List Exchange) (rest : Program (List ActionRecord))
      (leads : (firing.run visit.settings.execution).Leads executed rest) :
      Performs visit firing executed
  /-- All actions have been run. -/
  | ended (noted executed : List Exchange) (records : List ActionRecord)
      (ends : (firing.run visit.settings.execution).Ends executed records)
      (notes : ∀ exchange ∈ noted, visit.Notes records exchange.call) :
      Performs visit firing (noted ++ executed)

/-- Whether a visit has loaded a state, read metrics, saved the step from the one by the other,
which fires, and announced the firing, and has done since what the actions of the firing do. -/
def Acts (visit : Visit) (history : List Exchange) : Prop :=
  ∃ lock loaded readings snapshot members step since,
    (visit.agent.read visit.settings.fetchLimit visit.target).Ends readings
        (.available snapshot members) ∧
      visit.step (loaded.getD visit.freshState) snapshot = some step ∧
      step.decision.fires = true ∧
      visit.Performs (visit.firing snapshot members step.state.firings.count) since ∧
      history = since ++ (visit.announcement step ++
        (readings ++ [⟨.states (.get visit.key), .ok loaded⟩, ⟨.lock (.acquire lock), ()⟩,
          ⟨.lock (.find (.target visit.key)), lock⟩]))

variable {visit : Visit} {history : List Exchange} {final : Program (Option TargetReport)}

/-! ## From the announcement on -/

theorem announce_notes {records own : List ActionRecord} (areSome : own ⊆ records) :
    (visit.announce own).Uses (visit.Notes records) fun _ => True := by
  induction own with
  | nil => trivial
  | cons record rest ih =>
      obtain ⟨isOne, areSome⟩ := List.cons_subset.1 areSome
      exact Program.Uses.ask ⟨rfl, rfl, isOne⟩ fun _ => ih areSome

/-- Whether a program runs the actions of a firing and does nothing more than note them then. -/
def Discharges {α : Type} (visit : Visit) (firing : Firing) (program : Program α) : Prop :=
  ∃ rest, program = firing.run visit.settings.execution >>= rest ∧
    ∀ records, (rest records).Uses (visit.Notes records) fun _ => True

namespace Discharges

variable {α β : Type} {firing : Firing} {program rest : Program α}

theorem bind (discharges : visit.Discharges firing program) {next : α → Program β}
    (notes : ∀ records value, (next value).Uses (visit.Notes records) fun _ => True) :
    visit.Discharges firing (program >>= next) := by
  obtain ⟨rest, rfl, uses⟩ := discharges
  exact ⟨_, bind_assoc .., fun records => (uses records).bind fun value _ => notes records value⟩

theorem performs (discharges : visit.Discharges firing program)
    (leads : program.Leads history rest) : visit.Performs firing history := by
  obtain ⟨after, rfl, notes⟩ := discharges
  rcases Program.leads_bind leads with
    ⟨middle, runs, -⟩ | ⟨records, noted, executed, rfl, ends, tells⟩
  · exact .underway history middle runs
  · exact .ended noted executed records ends ((notes records).leads tells).1

end Discharges

/-- A visit that has saved a step that fires, and announced the firing, runs its actions next. -/
theorem finish_discharges (visit : Visit) (snapshot : Snapshot) (members : List Member)
    {step : Step} (fires : step.decision.fires = true) :
    ∃ program, (visit.finish step snapshot members).Leads (visit.announcement step) program ∧
      visit.Discharges (visit.firing snapshot members step.state.firings.count) program := by
  have begins : (visit.finish step snapshot members).Leads []
      (.call (.states (.put visit.key step.state)) _) := .start
  have saves := (begins.step (.ok ())).step ()
  simp only [fires, if_true] at saves
  have runs : visit.Discharges (visit.firing snapshot members step.state.firings.count) (do
      let records ← (visit.firing snapshot members step.state.firings.count).run
        visit.settings.execution
      visit.announce records
      return records) :=
    ⟨_, rfl, fun records => (announce_notes (List.Subset.refl records)).bind fun _ _ => trivial⟩
  exact ⟨_, saves.step (), runs.bind fun _ _ => trivial⟩

theorem run_discharges (lock : LockId) {loaded : Option TargetState} {readings : List Exchange}
    {snapshot : Snapshot} {members : List Member} {step : Step}
    (isNew : (loaded.getD visit.freshState).isStale visit.slot.tick = false)
    (read : (visit.agent.read visit.settings.fetchLimit visit.target).Ends readings
      (.available snapshot members))
    (isStep : visit.step (loaded.getD visit.freshState) snapshot = some step)
    (fires : step.decision.fires = true) :
    ∃ program, visit.run.Leads (visit.announcement step ++
        (readings ++ [⟨.states (.get visit.key), .ok loaded⟩, ⟨.lock (.acquire lock), ()⟩,
          ⟨.lock (.find (.target visit.key)), lock⟩])) program ∧
      visit.Discharges (visit.firing snapshot members step.state.firings.count) program := by
  obtain ⟨program, finishes, discharges⟩ := visit.finish_discharges snapshot members fires
  have locates : visit.run.Leads [] (.call (.lock (.find (.target visit.key))) _) := .start
  have loads := ((locates.step lock).step ()).step (.ok loaded)
  simp only [Program.andThen, isNew, Bool.false_eq_true, if_false] at loads
  have advances : (visit.advance (loaded.getD visit.freshState)).Leads readings _ := read.bind _
  simp only [Program.done_bind, isStep] at advances
  have whole := loads.trans ((advances.trans finishes).bind _)
  rw [List.append_assoc] at whole
  exact ⟨_, whole, discharges.bind fun _ _ => Program.Uses.ask trivial fun _ => trivial⟩

/-! ## Actions -/

/-- A visit that has come to an action has announced a firing, and runs the actions of it. -/
theorem acts_of_action {exchange : Exchange} (leads : visit.run.Leads history final)
    (found : exchange ∈ history) (isAction : exchange.call.IsAction) : visit.Acts history := by
  obtain ⟨later, past, rfl⟩ := List.append_of_mem found
  obtain ⟨middle, early, -⟩ := leads.split
  obtain ⟨lock, loaded, readings, snapshot, members, step, last, _, rfl, isNew, read, isStep,
    finishes⟩ := finish_of_action isAction early
  obtain ⟨fires, -, since, parts⟩ := fires_of_finish isAction finishes
  obtain ⟨program, announces, discharges⟩ := run_discharges lock isNew read isStep fires
  rw [← List.cons_append, parts, List.append_assoc, ← List.append_assoc] at leads ⊢
  refine ⟨lock, loaded, readings, snapshot, members, step, later ++ since, read, isStep, fires, ?_,
    rfl⟩
  exact discharges.performs (leads.after announces)

theorem Performs.unstarted {firing : Firing} (performs : visit.Performs firing history) :
    history.countP (Exchange.starts visit.key) = 0 := by
  have acting : ∀ {executed rest},
      (firing.run visit.settings.execution).Leads executed rest →
      ∀ exchange ∈ executed, ¬ exchange.starts visit.key = true := by
    intro executed rest leads exchange found isStart
    have acts := ((firing.run_uses _).leads leads).1 exchange found
    obtain ⟨tick, count, rfl⟩ := Exchange.starts_iff.1 isStart
    cases acts
  refine List.countP_eq_zero.2 fun exchange found isStart => ?_
  cases performs with
  | underway executed rest leads => exact acting leads exchange found isStart
  | ended noted executed records ends notes =>
      rcases List.mem_append.1 found with isNoted | isExecuted
      · have notes := notes exchange isNoted
        obtain ⟨tick, count, rfl⟩ := Exchange.starts_iff.1 isStart
        cases notes
      · exact acting ends exchange isExecuted isStart

/-- A visit announces one firing. -/
theorem Acts.announces_once (acts : visit.Acts history) :
    history.countP (Exchange.starts visit.key) = 1 := by
  obtain ⟨lock, loaded, readings, snapshot, members, step, since, read, -, -, performs, rfl⟩ := acts
  have reads : readings.countP (Exchange.starts visit.key) = 0 :=
    List.countP_eq_zero.2 fun exchange found => Bool.eq_false_iff.1
      (((visit.agent.read_uses _ _).leads read).1 exchange found |>.harmless visit.key).2.2.1
  simp [List.countP_append, performs.unstarted, reads, announcement, Exchange.starts]

end Visit

end AdMonitor
