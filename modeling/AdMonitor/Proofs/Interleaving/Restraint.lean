import AdMonitor.Proofs.Interleaving.Memory
import AdMonitor.Proofs.Interleaving.Visits

/-!
# Triggers hold over whole runs

An agent keeps its targets and is edited only between ticks.  Then its actions
are run only when its stored definition is satisfied and its trigger lets them
pass, counted over the whole log; and a tick that skips a target leaves the
state of it as it is (`System.performAll_restrains`).
-/

namespace AdMonitor

variable {outside : Outside} {settings : Settings} {key : StateKey} {id : AgentId}

def Deed.edits (id : AgentId) : Deed outside → Bool
  | .update agent _ => agent.id == id
  | _ => false

section Told

variable {shared after : Shared outside} {reaction : Reaction outside} {exchange : Exchange}

/-- An agent that is stored before and after a call has not been replaced by it. -/
theorem Shared.not_replaces
    (answered : shared.answer reaction exchange.call = some (exchange.answer, after))
    {stored next : Agent} (was : Table.get? shared.agents id = some stored)
    (isStill : Table.get? after.agents id = some next) : ¬ exchange.Replaces id := by
  obtain ⟨call, answer⟩ := exchange
  intro replaces
  rcases replaces.call_cases with ⟨agent, rfl⟩ | rfl
  · rcases Shared.answer_agents answered with ⟨⟨failure, rfl⟩, -⟩ | ⟨agents, isAnswer, -⟩
    · cases replaces
    · simp only [AgentQuery.answer] at isAnswer
      cases created : shared.agents.create agent with
      | error failure =>
          rw [created] at isAnswer
          cases isAnswer
          cases replaces
      | ok store =>
          rw [created] at isAnswer
          cases isAnswer
          obtain rfl : agent.id = id := replaces
          rw [(AgentStore.create_cases created).1] at was
          cases was
  · rcases Shared.answer_agents answered with ⟨⟨failure, rfl⟩, -⟩ | ⟨agents, isAnswer, rfl⟩
    · cases replaces
    · cases isAnswer
      have isGone : Table.get? (Table.erase shared.agents id) id = none := by
        rw [Table.get?_erase, if_pos rfl]
      cases isGone.symm.trans isStill

/-- An agent that a call tells to be active is stored. -/
theorem Shared.stored_of_told (keyed : shared.agents.IsKeyed) {agents : List Agent}
    (answered : shared.answer reaction (.agents .listActive) = some (.ok agents, after))
    {agent : Agent} (isTold : agent ∈ agents) :
    Table.get? shared.agents agent.id = some agent := by
  rcases Shared.answer_agents answered with ⟨⟨failure, wrong⟩, -⟩ | ⟨_, isAnswer, -⟩
  · cases wrong
  · cases isAnswer
    obtain ⟨id, isStored⟩ := AgentStore.mem_agents.1 (List.mem_filter.1 isTold).1
    rwa [keyed id agent isStored]

end Told

theorem History.Tells.cons_cases {index : Nat} {agent : Agent} {entry : Entry} {log : History}
    (tells : History.Tells index agent (entry :: log)) :
    log.Tells index agent ∨ entry.actor.job? = some (.tick index) ∧
      ∃ agents, entry.exchange = ⟨.agents .listActive, .ok agents⟩ ∧ agent ∈ agents := by
  obtain ⟨agents, told, isAgent⟩ := tells
  obtain ⟨actor, logged, isJob⟩ := History.mem_ofJob.1 told
  rcases List.mem_cons.1 logged with rfl | older
  · exact Or.inr ⟨isJob, agents, rfl, isAgent⟩
  · exact Or.inl ⟨agents, History.mem_ofJob.2 ⟨actor, older, isJob⟩, isAgent⟩

namespace System

variable {system after : System outside}

def isQuiet (system : System outside) : Bool :=
  system.ticks.all fun run => run.report?.isSome

/-- Whether an agent is edited only while no tick is under way. -/
def editsBetweenTicks [UrlParser] (settings : Settings) (id : AgentId) :
    System outside → List (Deed outside) → Bool
  | _, [] => true
  | system, deed :: rest => (!deed.edits id || system.isQuiet) &&
      editsBetweenTicks settings id (system.perform settings deed) rest

/-- Whether an agent is stored by some definition, and the ticks from some one on have been told
that one only. -/
structure Informs (id : AgentId) (definition : Agent) (first : Nat) (system : System outside) :
    Prop where
  stored : (Table.get? system.shared.agents id).map Agent.unmarked = some definition
  told : ∀ index agent, first ≤ index → History.Tells index agent system.log → agent.id = id →
    agent.unmarked = definition

theorem Informs.perform {definition : Agent} {first : Nat} {deed : Deed outside}
    (informs : system.Informs id definition first) (keyed : system.shared.agents.IsKeyed)
    (changes : system.Changes after deed) (isUnedited : deed.edits id = false)
    {next : Agent} (isStill : Table.get? after.shared.agents id = some next) :
    after.Informs id definition first := by
  obtain ⟨stored, told⟩ := informs
  obtain ⟨own, isStored, same⟩ := Option.map_eq_some_iff.1 stored
  cases changes with
  | none deed log shared => exact ⟨shared ▸ stored, log ▸ told⟩
  | call deed entry reaction log answered goesOn =>
      constructor
      · rw [Shared.unmarked_of_answer answered (Shared.not_replaces answered isStored isStill)]
        exact stored
      · rw [log]
        intro index agent isLater tells isOwn
        rcases tells.cons_cases with older | ⟨-, agents, isTold, isAgent⟩
        · exact told index agent isLater older isOwn
        · rw [isTold] at answered
          have isAgent := Shared.stored_of_told keyed answered isAgent
          rw [isOwn, isStored] at isAgent
          cases isAgent
          exact same
  | edit agent now log updated =>
      refine ⟨?_, log ▸ told⟩
      obtain ⟨changed, -, -, isAfter⟩ := AgentStore.update_cases updated
      have differs : id ≠ agent.id := fun same => by simp [Deed.edits, same] at isUnedited
      rw [isAfter, Table.get?_insert, if_neg differs]
      exact stored

/-- When nobody edits an agent while a tick is under way, the ticks that are under way have been
told the agent as it is stored. -/
structure IsTended [UrlParser] (settings : Settings) (key : StateKey) (system : System outside) :
    Prop where
  traced : system.Traced settings
  attends : ∃ stages, system.Attends settings (Regime.lasting key) stages
  informs : ∃ definition first, system.Informs key.agent definition first ∧
    ∀ index : Nat, first ≤ index ∨ (system.ticks[index]?.bind TickRun.report?).isSome = true

theorem IsTended.stored [UrlParser] (tended : system.IsTended settings key) :
    ∃ agent, Table.get? system.shared.agents key.agent = some agent := by
  obtain ⟨stages, attends⟩ := tended.attends
  obtain ⟨agent, isStored, -⟩ := attends.sound.lawful.2
  exact ⟨agent, isStored⟩

/-- No tick has been told anything before it began. -/
theorem Traced.begun_of_tells [UrlParser] (traced : system.Traced settings) {index : Nat}
    {agent : Agent} (tells : History.Tells index agent system.log) :
    index < system.ticks.length := by
  obtain ⟨agents, told, -⟩ := tells
  obtain ⟨actor, logged, isJob⟩ := History.mem_ofJob.1 told
  by_contra beyond
  exact traced.begun _ logged index (Nat.le_of_not_lt beyond) _ isJob rfl

theorem isSome_of_isQuiet (isQuiet : system.isQuiet = true) {index : Nat}
    (inside : index < system.ticks.length) :
    (system.ticks[index]?.bind TickRun.report?).isSome = true := by
  rw [List.getElem?_eq_getElem inside, Option.bind_some]
  exact List.all_eq_true.1 isQuiet _ (List.getElem_mem inside)

/-- What is stored while no tick is under way is all that later ticks are told. -/
theorem Traced.informs [UrlParser] (traced : system.Traced settings) {stored : Agent}
    (isStored : Table.get? system.shared.agents id = some stored) :
    system.Informs id stored.unmarked system.ticks.length := by
  refine ⟨by rw [isStored]; rfl, fun index agent isLater tells _ => ?_⟩
  exact absurd (traced.begun_of_tells tells) (Nat.not_lt.2 isLater)

theorem IsTended.perform [UrlParser] (tended : system.IsTended settings key) {deed : Deed outside}
    (leaves : deed.Leaves key) (isTimely : deed.edits key.agent = true → system.isQuiet = true) :
    (system.perform settings deed).IsTended settings key := by
  obtain ⟨traced, ⟨stages, attends⟩, definition, first, informs, areOver⟩ := tended
  obtain ⟨next, attends', -⟩ := attends.perform (Regime.lasting_admits leaves)
  obtain ⟨stored, isStored, -⟩ := attends'.sound.lawful.2
  have areStillOver : ∀ index : Nat, (system.ticks[index]?.bind TickRun.report?).isSome = true →
      ((system.perform settings deed).ticks[index]?.bind TickRun.report?).isSome = true := by
    intro index isOver
    obtain ⟨report, isOver⟩ := Option.isSome_iff_exists.1 isOver
    rw [report?_perform deed isOver]
    rfl
  refine ⟨traced.perform deed, ⟨next, attends'⟩, ?_⟩
  cases isEdit : deed.edits key.agent with
  | false =>
      refine ⟨definition, first, informs.perform traced.keyed (traced.changes deed) isEdit isStored,
        fun index => ?_⟩
      exact (areOver index).imp id (areStillOver index)
  | true =>
      refine ⟨_, _, (traced.perform deed).informs isStored, fun index => ?_⟩
      refine (Nat.lt_or_ge index _).symm.imp id fun inside => areStillOver index ?_
      have same : (system.perform settings deed).ticks = system.ticks := by
        cases deed with
        | update agent now =>
            simp only [System.perform]
            split <;> rfl
        | turn | submit | serve => cases isEdit
      rw [same] at inside
      exact isSome_of_isQuiet (isTimely isEdit) inside

theorem IsTended.performAll [UrlParser] (tended : system.IsTended settings key)
    {deeds : List (Deed outside)} (leaves : ∀ deed ∈ deeds, deed.Leaves key)
    (edits : editsBetweenTicks settings key.agent system deeds = true) :
    (system.performAll settings deeds).IsTended settings key := by
  induction deeds generalizing system with
  | nil => exact tended
  | cons deed rest ih =>
      obtain ⟨leaf, leaves⟩ := List.forall_mem_cons.1 leaves
      simp only [editsBetweenTicks, Bool.and_eq_true, Bool.or_eq_true, Bool.not_eq_true'] at edits
      obtain ⟨isTimely, edits⟩ := edits
      refine ih (tended.perform leaf fun isEdit => ?_) leaves edits
      rw [isEdit] at isTimely
      exact isTimely.resolve_left Bool.noConfusion

theorem start_isTended [UrlParser] {agents : List Agent}
    (hasTarget : (AgentStore.ofAgents agents).HasTarget key)
    (states : StateStore) (world : outside.World) :
    (start (.ofAgents agents) states world).IsTended settings key := by
  have keyed := AgentStore.ofAgents_keyed agents
  have ⟨stored, isStored, _⟩ := hasTarget
  have traced : (start (.ofAgents agents) states world).Traced settings := start_traced keyed
  refine ⟨traced, ⟨_, start_sound ⟨keyed, hasTarget⟩, fun job found => ?_⟩, _, _,
    traced.informs isStored, fun index => Or.inl (Nat.zero_le _)⟩
  cases found

end System

/-- A step that fires is satisfied, and the trigger does not withhold it. -/
theorem Visit.Decides.restraint {visit : Visit} {exchanges : List Exchange}
    {loaded : Option TargetState} {snapshot : Snapshot} {step : Step}
    (decides : visit.Decides exchanges loaded snapshot step) {history : History}
    (remembered : history.IsRemembered key loaded) :
    step.satisfied = true ∧
      (visit.agent.trigger.mode = .once → history.starts key = 0) ∧
      (visit.agent.trigger.mode = .cooldown → ∀ last, history.lastStart? key = some last →
        visit.agent.trigger.cooldown ≤ visit.slot.now.since last) := by
  obtain ⟨isStep, fires, -⟩ := decides
  obtain ⟨progress, isSatisfied, -, rfl⟩ := step_eq_some.1 isStep
  obtain ⟨satisfied, isFree⟩ := TriggerRule.fires_iff.1 fires
  refine ⟨satisfied, fun isOnce => ?_, fun isCooldown last isLast => ?_⟩
  · rcases remembered with unstarted | ⟨last, state, -, rfl, tells⟩
    · exact unstarted
    · have notFired : state.firings.firedOnce = false := TriggerRule.once_of_free isOnce isFree
      rw [tells.firedOnce] at notFired
      cases notFired
  · rcases remembered with unstarted | ⟨_, state, isLast', rfl, tells⟩
    · rw [History.lastStart?_eq_none unstarted] at isLast
      cases isLast
    · rw [isLast] at isLast'
      cases isLast'
      exact TriggerRule.cooldown_of_free isCooldown isFree tells.lastFiredAt

/-- What a visit has decided by is what it has loaded. -/
theorem Visit.Decides.loaded {visit : Visit} {history : List Exchange} {stage : VisitStage}
    {loaded told : Option TargetState} {snapshot : Snapshot} {step : Step}
    (decides : visit.Decides history told snapshot step) (run : VisitRun visit.key history stage)
    (isLoaded : ⟨.states (.get visit.key), .ok loaded⟩ ∈ history) : told = loaded := by
  obtain ⟨lock, readings, members, -, isPart⟩ := decides.done
  have isTold : ⟨.states (.get visit.key), .ok told⟩ ∈ history := isPart.subset (by simp)
  exact Except.ok.inj (run.loads.once isTold isLoaded)

namespace System

variable {system : System outside}

/-- Whether a visit that starts actions does so for an agent as it is stored, which is satisfied by
what the visit has read, and whose trigger lets the actions pass. -/
structure Permits (settings : Settings) (key : StateKey) (system : System outside) (index : Nat)
    (visit : Visit) : Prop where
  isSet : visit.settings = settings
  isOwn : visit.key = key
  slot : ∃ run : TickRun Program, system.ticks[index]? = some run ∧ run.slot = visit.slot
  stored : ∃ stored, Table.get? system.shared.agents key.agent = some stored ∧
    stored.isActive = true ∧ visit.agent.unmarked = stored.unmarked
  satisfied : ∃ loaded snapshot step,
    visit.Decides (History.ofVisit ⟨index, key⟩ system.log) loaded snapshot step ∧
      step.satisfied = true
  once : visit.agent.trigger.mode = .once → History.starts key system.log = 0
  cooldown : visit.agent.trigger.mode = .cooldown → ∀ last,
    History.lastStart? key system.log = some last →
      visit.agent.trigger.cooldown ≤ visit.slot.now.since last

/-- What a tick that is under way was told of an agent is stored, and active. -/
theorem IsTended.stored_of_tells [UrlParser] (tended : system.IsTended settings key) {index : Nat}
    {run : TickRun Program} (isTick : system.ticks[index]? = some run)
    (goesOn : run.report? = none) {agent : Agent}
    (tells : History.Tells index agent system.log) (isOwn : agent.id = key.agent) :
    ∃ stored, Table.get? system.shared.agents key.agent = some stored ∧
      stored.isActive = true ∧ agent.unmarked = stored.unmarked := by
  obtain ⟨traced, -, definition, first, ⟨isStored, told⟩, areOver⟩ := tended
  obtain ⟨stored, isFound, rfl⟩ := Option.map_eq_some_iff.1 isStored
  have isLater : first ≤ index := by
    refine (areOver index).resolve_right fun isOver => ?_
    rw [isTick, Option.bind_some, goesOn] at isOver
    cases isOver
  have same := told index agent isLater tells isOwn
  obtain ⟨agents, logged, isAgent⟩ := tells
  obtain ⟨actor, logged, -⟩ := History.mem_ofJob.1 logged
  have isActive := (traced.truthful _ logged agents rfl).2 agent isAgent
  exact ⟨stored, isFound, (congrArg Agent.isActive same).symm.trans isActive, same⟩

/-- Every visit that has made a call is made for an agent that its tick was told of. -/
theorem Traced.serves [UrlParser] (traced : system.Traced settings) {index : Nat} {visit : Visit}
    {exchange : Exchange} (logged : ⟨.visit index visit, exchange⟩ ∈ system.log) :
    ∃ run : TickRun Program, system.ticks[index]? = some run ∧
      History.Tells index visit.agent system.log ∧
      visit.Serves settings run.slot index system.log visit.agent := by
  have inside : index < system.ticks.length := by
    by_contra beyond
    exact traced.begun _ logged index (Nat.le_of_not_lt beyond) _ rfl rfl
  have isTick := List.getElem?_eq_getElem inside
  exact ⟨_, isTick, (traced.ticks index _ isTick).serves logged⟩

/-- Whoever has just made a call for a tick has not been done with it. -/
theorem Traced.goesOn [UrlParser] (traced : system.Traced settings) {deed : Deed outside}
    {entry : Entry} (log : (system.perform settings deed).log = entry :: system.log) {job : JobId}
    (isJob : entry.actor.job? = some job) :
    ∃ run : TickRun Program, system.ticks[job.index]? = some run ∧ run.report? = none := by
  cases traced.changes deed with
  | none deed same | edit agent now same =>
      exact absurd (log.symm.trans same) (List.cons_ne_self _ _)
  | call deed entry reaction same answered goesOn =>
      rw [log] at same
      cases same
      exact goesOn job isJob

/-- Whoever starts actions is permitted to. -/
theorem IsTended.permits [UrlParser] (tended : system.IsTended settings key)
    {stages : VisitId → VisitStage} {agents : AgentStore} {states : StateStore}
    {world : outside.World}
    (attends : system.Attends settings (Regime.lasting key) stages)
    (reached : Scene.Reachable settings (Regime.lasting key) (Scene.start agents states world)
      (system.scene stages))
    {deed : Deed outside} (leaves : deed.Leaves key) {entry : Entry}
    (log : (system.perform settings deed).log = entry :: system.log)
    (isStart : entry.exchange.starts key = true) :
    ∃ index visit, entry.actor = .visit index visit ∧
      system.Permits settings key index visit := by
  obtain ⟨next, -, same | step⟩ := attends.perform (Regime.lasting_admits leaves)
  · exact absurd (log.symm.trans (congrArg Scene.log same)) (List.cons_ne_self _ _)
  obtain ⟨index, visit, loaded, isActor, rfl, isLoaded, remembered⟩ :=
    step.remembered_of_start reached rfl log isStart
  obtain ⟨actor, exchange⟩ := entry
  obtain rfl : actor = .visit index visit := isActor
  have logged : ⟨.visit index visit, exchange⟩ ∈ (system.perform settings deed).log :=
    log ▸ List.mem_cons_self
  obtain ⟨-, -, -, -, -, -, job, isTraced⟩ := (tended.traced.perform deed).serves logged
  have leads := isTraced.leads
  rw [log, History.ofJob_cons_own rfl, History.ofJob_visit] at leads
  obtain ⟨told, snapshot, taken, decides⟩ := Visit.decides_of_firing isStart leads
  obtain rfl := decides.loaded (reached.runs ⟨index, visit.key⟩) isLoaded
  obtain ⟨satisfied, once, cooldown⟩ := decides.restraint remembered
  -- Before this call the visit has made others, from which its tick is known.
  obtain ⟨own, isLogged, sameKey⟩ := History.mem_ofVisit.1 isLoaded
  obtain rfl : own = visit :=
    isTraced.alone own _ (log ▸ List.mem_cons_of_mem _ isLogged) sameKey
  obtain ⟨run, isTick, tells, serves⟩ := tended.traced.serves isLogged
  obtain ⟨run', isTick', goesOn⟩ := tended.traced.goesOn log rfl
  obtain rfl : run = run' := Option.some.inj (isTick.symm.trans isTick')
  refine ⟨index, own, rfl, ?_⟩
  exact {
    isSet := serves.settings
    isOwn := rfl
    slot := ⟨run, isTick, serves.slot.symm⟩
    stored := tended.stored_of_tells isTick goesOn tells rfl
    satisfied := ⟨told, snapshot, taken, decides, satisfied⟩
    once
    cooldown }

/-! ## Ticks that skip a target -/

theorem IsTended.informs_run [UrlParser] (tended : system.IsTended settings key)
    {definition : Agent} {first : Nat} (informs : system.Informs key.agent definition first)
    (turns : List (Turn outside)) :
    (system.run settings turns).IsTended settings key ∧
      (system.run settings turns).Informs key.agent definition first := by
  induction turns generalizing system with
  | nil => exact ⟨tended, informs⟩
  | cons turn rest ih =>
      have tended' : (system.perform settings (.turn turn)).IsTended settings key :=
        tended.perform trivial nofun
      obtain ⟨stored, isStored⟩ := tended'.stored
      exact ih tended'
        (informs.perform tended.traced.keyed (tended.traced.changes (.turn turn)) rfl isStored)

/-- Once some ticks are over, turns add to the log only what later ticks do. -/
theorem Traced.run_log [UrlParser] (traced : system.Traced settings) {first : Nat}
    (areOver : ∀ index < first, (system.ticks[index]?.bind TickRun.report?).isSome = true)
    (turns : List (Turn outside)) :
    ∃ newer, (system.run settings turns).log = newer ++ system.log ∧
      ∀ entry ∈ newer, ∀ job, entry.actor.job? = some job → first ≤ job.index := by
  induction turns generalizing system with
  | nil => exact ⟨[], rfl, List.forall_mem_nil _⟩
  | cons turn rest ih =>
      have areStillOver : ∀ index < first,
          ((system.take settings turn).ticks[index]?.bind TickRun.report?).isSome = true := by
        intro index isEarly
        obtain ⟨report, isOver⟩ := Option.isSome_iff_exists.1 (areOver index isEarly)
        have stays : (system.take settings turn).ticks[index]?.bind TickRun.report? =
            some report := report?_perform (.turn turn) isOver
        rw [stays]
        rfl
      obtain ⟨newer, log, areLater⟩ := ih (traced.take turn) areStillOver
      cases traced.changes (.turn turn) with
      | none deed same => exact ⟨newer, log.trans (congrArg (newer ++ ·) same), areLater⟩
      | call deed entry reaction same answered goesOn =>
          refine ⟨newer ++ [entry], ?_, fun other found => ?_⟩
          · rw [List.append_assoc]
            exact log.trans (congrArg (newer ++ ·) same)
          · rcases List.mem_append.1 found with isNewer | isFirst
            · exact areLater other isNewer
            · obtain rfl := List.mem_singleton.1 isFirst
              intro job isJob
              obtain ⟨run, isTick, notOver⟩ := goesOn job isJob
              by_contra isEarly
              have isOver := areOver job.index (Nat.lt_of_not_le isEarly)
              rw [isTick, Option.bind_some, notOver] at isOver
              cases isOver

theorem length_run [UrlParser] {turns : List (Turn outside)}
    (alone : ∀ turn ∈ turns, turn.begins = false) :
    (system.run settings turns).ticks.length = system.ticks.length := by
  induction turns generalizing system with
  | nil => rfl
  | cons turn rest ih =>
      obtain ⟨isAlone, alone⟩ := List.forall_mem_cons.1 alone
      refine (ih alone).trans ?_
      cases turn with
      | begin now => cases isAlone
      | settle index position => cases position <;> exact List.length_modify ..
      | proceed index spot reaction =>
          simp only [System.take]
          split
          · rfl
          · exact List.length_set ..

/-- A visit of a tick that is over has saved nothing if the agent was paused, or if all that the
tick reports of the target is that it was skipped. -/
theorem IsTended.unsaved [UrlParser] (tended : system.IsTended settings key) {definition : Agent}
    {first : Nat} (informs : system.Informs key.agent definition first) {index : Nat}
    (isLater : first ≤ index)
    {report : TickReport} (isOver : system.ticks[index]?.bind TickRun.report? = some report)
    (idles : definition.isActive = false ∨
      ∀ own ∈ report.targets, own.key = key → own.status.isSkipped = true)
    {visit : Visit} (isOwn : visit.key = key) {exchange : Exchange}
    (logged : ⟨.visit index visit, exchange⟩ ∈ system.log) : exchange.saved? key = none := by
  obtain ⟨run, isTick, isOver⟩ := Option.bind_eq_some_iff.1 isOver
  have isTraced := tended.traced.ticks index run isTick
  obtain ⟨tells, -⟩ := isTraced.serves logged
  rcases idles with isPaused | areSkipped
  · have ⟨agents, told, isAgent⟩ := tells
    obtain ⟨actor, told, -⟩ := History.mem_ofJob.1 told
    have isActive := (tended.traced.truthful _ told agents rfl).2 visit.agent isAgent
    have same := informs.told index visit.agent isLater tells (congrArg StateKey.agent isOwn)
    rw [← same] at isPaused
    cases isActive.symm.trans isPaused
  · rw [TickRun.eq_closed isOver] at isTraced
    obtain ⟨own, isReport, traced⟩ := Slot.Yields.reports isTraced logged
    obtain ⟨isKey, unsaved⟩ := visit.report_of_ends traced.leads
    subst isOwn
    exact unsaved (areSkipped own isReport isKey) exchange (History.mem_ofJob.2 ⟨_, logged, rfl⟩)

/-- A tick that nothing overlaps saves no state of a paused agent, or of a target that it reports as
skipped. -/
theorem IsTended.unsaved_run [UrlParser] (tended : system.IsTended settings key)
    (isQuiet : system.isQuiet = true) {now : Instant} {turns : List (Turn outside)}
    (alone : ∀ turn ∈ turns, turn.begins = false) {report : TickReport}
    (isOver : (system.run settings (.begin now :: turns)).ticks[system.ticks.length]?.bind
      TickRun.report? = some report)
    (idles : (∀ stored, Table.get? system.shared.agents key.agent = some stored →
        stored.isActive = false) ∨
      ∀ own ∈ report.targets, own.key = key → own.status.isSkipped = true) :
    ∃ newer, (system.run settings (.begin now :: turns)).log = newer ++ system.log ∧
      ∀ index visit exchange, ⟨.visit index visit, exchange⟩ ∈ newer → visit.key = key →
        exchange.saved? key = none := by
  obtain ⟨stored, isStored⟩ := tended.stored
  obtain ⟨tended', informs⟩ :=
    tended.informs_run (tended.traced.informs isStored) (.begin now :: turns)
  obtain ⟨newer, log, areLater⟩ := tended.traced.run_log
    (fun index inside => isSome_of_isQuiet isQuiet inside) (.begin now :: turns)
  refine ⟨newer, log, fun index visit exchange found isOwn => ?_⟩
  have logged := log ▸ List.mem_append_left system.log found
  obtain ⟨run, isTick, -⟩ := tended'.traced.serves logged
  have isLater : system.ticks.length ≤ index := areLater _ found _ rfl
  have inside := (List.getElem?_eq_some_iff.1 isTick).1
  have length : (system.run settings (.begin now :: turns)).ticks.length =
      system.ticks.length + 1 :=
    (length_run alone).trans List.length_append
  obtain rfl : index = system.ticks.length := by omega
  refine tended'.unsaved informs (Nat.le_refl _) isOver (idles.imp_left fun isPaused => ?_) isOwn
    logged
  exact isPaused stored isStored

/-- A tick that nothing overlaps leaves the state of a paused agent, or of a target that it reports
as skipped, as it is. -/
theorem IsTended.get?_run [UrlParser] (tended : system.IsTended settings key)
    {stages : VisitId → VisitStage} {agents : AgentStore} {states : StateStore}
    {world : outside.World}
    (attends : system.Attends settings (Regime.lasting key) stages)
    (reached : Scene.Reachable settings (Regime.lasting key) (Scene.start agents states world)
      (system.scene stages))
    (isQuiet : system.isQuiet = true) {now : Instant} {turns : List (Turn outside)}
    (alone : ∀ turn ∈ turns, turn.begins = false) {report : TickReport}
    (isOver : (system.run settings (.begin now :: turns)).ticks[system.ticks.length]?.bind
      TickRun.report? = some report)
    (idles : (∀ stored, Table.get? system.shared.agents key.agent = some stored →
        stored.isActive = false) ∨
      ∀ own ∈ report.targets, own.key = key → own.status.isSkipped = true) :
    Table.get? (system.run settings (.begin now :: turns)).shared.states key =
      Table.get? system.shared.states key := by
  have admits : ∀ deed ∈ (Turn.begin now :: turns).map Deed.turn,
      (Regime.lasting key).Admits deed := by
    intro deed found
    obtain ⟨turn, -, rfl⟩ := List.mem_map.1 found
    trivial
  obtain ⟨stages', -, reached'⟩ := attends.performAll reached admits
  rw [System.performAll_turns] at reached'
  obtain ⟨newer, log, unsaved⟩ := tended.unsaved_run isQuiet alone isOver idles
  have isSpared : (Regime.lasting key).spared key := rfl
  have areUnsaved : History.saves key newer = [] := by
    refine History.saves_eq_nil fun entry found state saved => ?_
    obtain ⟨past, isPast⟩ := History.exists_past (log ▸ List.mem_append_left system.log found)
    obtain ⟨index, visit, isActor, isOwn, -⟩ := (reached'.serial isSpared).advances _ past state
      isPast (congrArg Exchange.call (Exchange.saved?_eq_some.1 saved))
    obtain ⟨actor, exchange⟩ := entry
    obtain rfl : actor = .visit index visit := isActor
    rw [unsaved index visit exchange found isOwn] at saved
    cases saved
  calc Table.get? (system.run settings (.begin now :: turns)).shared.states key
      = History.lastSaved states key (system.run settings (.begin now :: turns)).log :=
        reached'.recorded.stored key isSpared
    _ = History.lastSaved states key system.log := by
        rw [log, History.lastSaved_append areUnsaved]
    _ = Table.get? system.shared.states key := (reached.recorded.stored key isSpared).symm

/--
As long as an agent has a target and is edited only between ticks: no action is
made for the target that was not announced; whoever announces one is permitted
to, for the accumulation of the stored agent is satisfied, and its trigger lets
the actions pass as often and as soon as it says, counted over all that has
happened; and a tick that nothing overlaps leaves the state of the target as it
is if the agent is paused or the target is skipped.
-/
theorem performAll_restrains [UrlParser] (settings : Settings) {agents : List Agent}
    (hasTarget : (AgentStore.ofAgents agents).HasTarget key) (states : StateStore)
    (world : outside.World) {deeds : List (Deed outside)}
    (leaves : ∀ deed ∈ deeds, deed.Leaves key)
    (edits : editsBetweenTicks settings key.agent (start (.ofAgents agents) states world) deeds =
      true) :
    let system := (start (.ofAgents agents) states world).performAll settings deeds
    (∀ index exchange past, exchange :: past <:+ History.ofVisit ⟨index, key⟩ system.log →
      exchange.call.IsAction → ∃ first ∈ exchange :: past, first.starts key = true) ∧
    (∀ deed : Deed outside, deed.Leaves key → ∀ entry,
      (system.perform settings deed).log = entry :: system.log →
      entry.exchange.starts key = true → ∃ index visit, entry.actor = .visit index visit ∧
        system.Permits settings key index visit) ∧
    ∀ now turns report, system.isQuiet = true → (∀ turn ∈ turns, turn.begins = false) →
      let later := system.run settings (.begin now :: turns)
      later.ticks[system.ticks.length]?.bind TickRun.report? = some report →
      (∀ stored, Table.get? system.shared.agents key.agent = some stored →
          stored.isActive = false) ∨
        (∀ own ∈ report.targets, own.key = key → own.status.isSkipped = true) →
      Table.get? later.shared.states key = Table.get? system.shared.states key := by
  intro system
  have tended : system.IsTended settings key :=
    (start_isTended hasTarget states world).performAll leaves edits
  have lawful : (Regime.lasting key).lawful (.ofAgents agents) :=
    ⟨AgentStore.ofAgents_keyed agents, hasTarget⟩
  obtain ⟨stages, attends, reached⟩ := performAll_reachable settings lawful states world deeds
    fun deed found => Regime.lasting_admits (leaves deed found)
  refine ⟨fun index exchange past isPast isAction => ?_, fun deed leaf entry log isStart => ?_, ?_⟩
  · exact (reached.runs ⟨index, key⟩).starts_of_action isPast isAction
  · exact tended.permits attends reached leaf log isStart
  · intro now turns report isQuiet alone later isOver idles
    exact tended.get?_run attends reached isQuiet alone isOver idles

def spending : Outside where
  World := Unit
  Mood := Unit
  answer _ _ call := (call.spending, ())

/-- A tick in which the agent fires, after which it is to fire once an hour. -/
def exampleDeeds : List (Deed spending) :=
  let next (spot : Spot) : Deed spending := .turn (.proceed 0 spot ⟨(), none, fun _ => false⟩)
  let settle (position : Option Nat) : Deed spending := .turn (.settle 0 position)
  [.turn (.begin ⟨1000000, 0⟩)] ++ List.replicate 3 (next .tick) ++
    [settle none, settle (some 0)] ++
    List.replicate 12 (next (.visit 0 0)) ++ [settle (some 0)] ++
    List.replicate 2 (next (.agent 0)) ++ [settle (some 0), settle none] ++
    List.replicate 4 (next .tick) ++
    [settle none, .update { Agent.watcher with trigger := ⟨.cooldown, 60⟩ } default]

attribute [local instance] UrlParser.refusing

/-- Whoever starts actions next does so for a tick that is an hour later. -/
theorem performAll_restrains_exampleDeeds :
    let key : StateKey := ⟨"a", "x"⟩
    let system := (start (.ofAgents [.watcher]) .empty ()).performAll .standard exampleDeeds
    History.starts key system.log = 1 ∧
      ∀ deed : Deed spending, deed.Leaves key → ∀ entry,
        (system.perform .standard deed).log = entry :: system.log →
        entry.exchange.starts key = true → ∃ index visit, entry.actor = .visit index visit ∧
          3600 * Instant.nanosPerSecond ≤ visit.slot.now.since ⟨1000000, 0⟩ := by
  intro key system
  have hasTarget : (AgentStore.ofAgents [.watcher]).HasTarget key :=
    ⟨.watcher, Table.get?_insert.trans (if_pos rfl), List.mem_singleton_self "x"⟩
  have leaves : ∀ deed ∈ exampleDeeds, deed.Leaves key := by
    simp [exampleDeeds, Deed.Leaves, key, Agent.watcher, Scope.targetKeys]
    decide
  have edited : (Table.get? system.shared.agents key.agent).map Agent.trigger =
      some ⟨.cooldown, 60⟩ := by
    decide +kernel
  have isLast : History.lastStart? key system.log = some ⟨1000000, 0⟩ := by decide +kernel
  obtain ⟨-, permits, -⟩ := performAll_restrains .standard hasTarget .empty () leaves
    (by decide +kernel)
  refine ⟨by decide +kernel, fun deed leaf entry log isStart => ?_⟩
  obtain ⟨index, visit, isActor, permitted⟩ := permits deed leaf entry log isStart
  change system.Permits .standard key index visit at permitted
  clear_value system
  obtain ⟨stored, isStored, -, same⟩ := permitted.stored
  rw [isStored] at edited
  have isTrigger : visit.agent.trigger = ⟨.cooldown, 60⟩ :=
    (congrArg Agent.trigger same).trans (Option.some.inj edited)
  refine ⟨index, visit, isActor, ?_⟩
  have waits := permitted.cooldown (by rw [isTrigger]) _ isLast
  rwa [isTrigger] at waits

end System

end AdMonitor
