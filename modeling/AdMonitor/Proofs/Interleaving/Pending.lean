import AdMonitor.Proofs.Interleaving.Provenance

/-!
# What is under way

The calls that the programs of a system are about to make, and by whom.  A call
that can be answered can be made (`System.canMove_of_answered`), and a tick
none of whose programs makes a call can be moved on
(`TickRun.canSettle_of_quiet`), so a system is stuck only if all that is under
way waits.
-/

namespace AdMonitor

inductive Process where
  | job (id : JobId)
  | request (index : Nat)
  deriving DecidableEq

def Actor.process : Actor → Process
  | .tick index => .job (.tick index)
  | .agent index own => .job (.agent index own)
  | .visit index own => .job (.visit ⟨index, own.key⟩)
  | .request index => .request index

namespace History

/-- What a process has done so far, the newest exchange first. -/
def ofProcess : Process → History → List Exchange
  | .job id, history => history.ofJob id
  | .request index, history => history.ofRequest index

variable {process : Process} {history : History} {entry : Entry}

theorem ofProcess_cons_own (isOwn : entry.actor.process = process) :
    ofProcess process (entry :: history) = entry.exchange :: ofProcess process history := by
  obtain ⟨actor, exchange⟩ := entry
  subst isOwn
  cases actor with
  | request index => exact ofRequest_cons_own rfl
  | tick | agent | visit => exact ofJob_cons_own rfl

theorem ofProcess_cons_other (isOther : entry.actor.process ≠ process) :
    ofProcess process (entry :: history) = ofProcess process history := by
  obtain ⟨actor, exchange⟩ := entry
  cases process with
  | request index =>
      refine ofRequest_cons_other fun same => isOther ?_
      rw [same]
      rfl
  | job id =>
      refine ofJob_cons_other fun isJob => isOther ?_
      cases actor with
      | request => cases isJob
      | tick | agent | visit =>
          cases isJob
          rfl

theorem mem_ofProcess {exchange : Exchange} (found : exchange ∈ ofProcess process history) :
    ∃ actor, ⟨actor, exchange⟩ ∈ history ∧ actor.process = process := by
  cases process with
  | request index => exact ⟨_, mem_ofRequest.1 found, rfl⟩
  | job id =>
      obtain ⟨actor, logged, isJob⟩ := mem_ofJob.1 found
      refine ⟨actor, logged, ?_⟩
      cases actor with
      | request => cases isJob
      | tick | agent | visit =>
          cases isJob
          rfl

end History

/-! ## Pending calls -/

/-- Calls whose answer may take any time: those of collaborators and stores, and timers. -/
def Call.isDelayed : Call → Bool
  | .agents _ | .states _ | .metrics .. | .snapshots .. | .platform .. | .enqueue .. | .post ..
  | .sleep _ => true
  | .lock _ | .publish _ | .jitter _ | .clock => false

def Program.pending {α : Type} (process : Process) : Program α → List (Process × Call)
  | .done _ => []
  | .call request _ => [(process, request)]

theorem Program.mem_pending {α : Type} {job : Program α} {process own : Process} {call : Call}
    (isPending : (own, call) ∈ job.pending process) :
    own = process ∧ ∃ next, job = .call call next := by
  cases job with
  | done value => cases isPending
  | call request next =>
      cases List.mem_singleton.1 isPending
      exact ⟨rfl, next, rfl⟩

theorem Program.eq_done_of_quiet {α : Type} {job : Program α} {process : Process}
    (isQuiet : job.pending process = []) : ∃ value, job = .done value := by
  cases job with
  | done value => exact ⟨value, rfl⟩
  | call request next => cases isQuiet

def AgentRun.pending (index : Nat) (run : AgentRun Program) : List (Process × Call) :=
  match run.phase with
  | .opening job => job.pending (.job (.agent index run.agent.id))
  | .visiting targets visits =>
      (targets.zip visits).flatMap fun (target, job) =>
        job.pending (.job (.visit ⟨index, run.agent.id, target.key⟩))
  | .closing _ job => job.pending (.job (.agent index run.agent.id))
  | .closed _ => []

def TickRun.pending (index : Nat) (run : TickRun Program) : List (Process × Call) :=
  match run.phase with
  | .opening job => job.pending (.job (.tick index))
  | .working pool => pool.running.flatMap (AgentRun.pending index)
  | .closing job => job.pending (.job (.tick index))
  | .closed _ => []

variable {outside : Outside} {settings : Settings} {slot : Slot} {index : Nat}
  {history : History} {process : Process} {call : Call}

namespace System

def pending (system : System outside) : List (Process × Call) :=
  (system.ticks.zipIdx.flatMap fun (run, index) => run.pending index) ++
    system.requests.zipIdx.flatMap fun (job, index) => job.pending (.request index)

theorem mem_pending {system : System outside} :
    (process, call) ∈ system.pending ↔
      (∃ (index : Nat) (run : TickRun Program), system.ticks[index]? = some run ∧
        (process, call) ∈ run.pending index) ∨
      ∃ (index : Nat) (job : Program Unit), system.requests[index]? = some job ∧
        (process, call) ∈ job.pending (.request index) := by
  simp only [pending, List.mem_append, List.mem_flatMap, Prod.exists,
    List.mem_zipIdx_iff_getElem?]
  rw [exists_comm, exists_comm (α := Program Unit)]

end System

/-! ## Calls that can be made -/

section Proceeding

variable {shared : Shared outside} {reaction : Reaction outside}

theorem Shared.proceed_of_answered {α : Type} (next : call.Answer → Program α)
    (answered : (shared.answer reaction call).isSome) :
    ∃ answer after,
      shared.proceed reaction (.call call next) = some (⟨call, answer⟩, next answer, after) := by
  obtain ⟨⟨answer, after⟩, isAnswer⟩ := Option.isSome_iff_exists.1 answered
  exact ⟨answer, after, by rw [Shared.proceed, isAnswer, Option.map_some]⟩

variable (outside settings) in
theorem AgentRun.proceed_of_pending (slot : Slot) {run : AgentRun Program}
    (isPending : (process, call) ∈ run.pending index) :
    ∃ target, ∀ (shared : Shared outside) reaction, (shared.answer reaction call).isSome →
      ∃ entry next after, run.proceed settings slot index shared reaction target =
        some (entry, next, after) ∧ entry.exchange.call = call := by
  obtain ⟨agent, phase⟩ := run
  cases phase with
  | opening job | closing reports job =>
      obtain ⟨-, next, rfl⟩ := Program.mem_pending isPending
      refine ⟨none, fun shared reaction answered => ?_⟩
      obtain ⟨answer, after, proceeds⟩ := Shared.proceed_of_answered next answered
      simp [AgentRun.proceed, proceeds]
  | visiting targets visits =>
      obtain ⟨⟨target, job⟩, found, isPending⟩ := List.mem_flatMap.1 isPending
      obtain ⟨-, next, rfl⟩ := Program.mem_pending isPending
      obtain ⟨position, isAt⟩ := List.mem_iff_getElem?.1 found
      obtain ⟨isTarget, isJob⟩ := List.getElem?_zip_eq_some.1 isAt
      refine ⟨some position, fun shared reaction answered => ?_⟩
      obtain ⟨answer, after, proceeds⟩ := Shared.proceed_of_answered next answered
      simp [AgentRun.proceed, isTarget, isJob, proceeds]
  | closed outcome => cases isPending

variable (outside settings) in
theorem TickRun.proceed_of_pending {run : TickRun Program}
    (isPending : (process, call) ∈ run.pending index) :
    ∃ spot, ∀ (shared : Shared outside) reaction, (shared.answer reaction call).isSome →
      ∃ entry next after, run.proceed settings index shared reaction spot =
        some (entry, next, after) ∧ entry.exchange.call = call := by
  obtain ⟨slot, phase⟩ := run
  cases phase with
  | opening job | closing job =>
      obtain ⟨-, next, rfl⟩ := Program.mem_pending isPending
      refine ⟨.tick, fun shared reaction answered => ?_⟩
      obtain ⟨answer, after, proceeds⟩ := Shared.proceed_of_answered next answered
      simp [TickRun.proceed, proceeds]
  | working pool =>
      obtain ⟨agent, isRunning, isPending⟩ := List.mem_flatMap.1 isPending
      obtain ⟨position, isAt⟩ := List.mem_iff_getElem?.1 isRunning
      obtain ⟨target, proceeds⟩ := AgentRun.proceed_of_pending outside settings slot isPending
      have proceeds' : ∀ (shared : Shared outside) reaction,
          (shared.answer reaction call).isSome →
          ∃ entry next after, TickRun.proceedAgent settings index shared reaction
            ⟨slot, .working pool⟩ position target = some (entry, next, after) ∧
              entry.exchange.call = call := by
        intro shared reaction answered
        obtain ⟨entry, next, after, proceeds, isCall⟩ := proceeds shared reaction answered
        simp [TickRun.proceedAgent, isAt, proceeds, isCall]
      cases target with
      | none => exact ⟨.agent position, proceeds'⟩
      | some target => exact ⟨.visit position target, proceeds'⟩
  | closed report => cases isPending

end Proceeding

/-! ## What can be moved on -/

/-- Programs that have ended and did not overflow have all come to a report. -/
theorem reports_of_quiet {α : Type} {jobs : List (Program (Option α))}
    (areDone : ∀ job ∈ jobs, ∃ value, job = .done value)
    (fits : (jobs.any fun job => (Running.value? job).any Option.isNone) = false) :
    ∃ reports, jobs.mapM (fun job => (Running.value? job).join) = some reports := by
  induction jobs with
  | nil => exact ⟨[], rfl⟩
  | cons job rest ih =>
      obtain ⟨⟨value, rfl⟩, othersDone⟩ := List.forall_mem_cons.1 areDone
      obtain ⟨isReported, othersFit⟩ := Bool.or_eq_false_iff.1 fits
      obtain ⟨reports, found⟩ := ih othersDone othersFit
      cases value with
      | none => cases isReported
      | some report =>
          refine ⟨report :: reports, ?_⟩
          rw [List.mapM_cons, found]
          rfl

/-- The work on an agent that is not done goes on when none of its programs makes a call. -/
theorem AgentRun.settle_ne [UrlParser] {run : AgentRun Program}
    (traced : run.Traced settings slot index history) (isQuiet : run.pending index = [])
    (goesOn : run.outcome? = none) (fits : run.hasOverflowed = false) :
    run.settle settings slot ≠ run := by
  obtain ⟨agent, phase⟩ := run
  intro same
  have samePhase := congrArg AgentRun.phase same
  cases phase with
  | opening job =>
      obtain ⟨found, rfl⟩ := Program.eq_done_of_quiet isQuiet
      cases found <;> cases samePhase
  | visiting targets visits =>
      have areDone : ∀ job ∈ visits, ∃ value, job = .done value := by
        intro job isJob
        obtain ⟨position, isAt⟩ := List.mem_iff_getElem?.1 isJob
        have inside := (List.getElem?_eq_some_iff.1 isAt).1
        have isTarget := List.getElem?_eq_getElem (traced.2.each.length_eq.symm ▸ inside)
        have isPair : (_, job) ∈ targets.zip visits :=
          List.mem_of_getElem? (List.getElem?_zip_eq_some.2 ⟨isTarget, isAt⟩)
        exact Program.eq_done_of_quiet (List.flatMap_eq_nil_iff.1 isQuiet _ isPair)
      obtain ⟨reports, found⟩ := reports_of_quiet areDone fits
      simp [AgentRun.settle, found] at samePhase
  | closing reports job =>
      obtain ⟨collected, rfl⟩ := Program.eq_done_of_quiet isQuiet
      cases samePhase
  | closed outcome => cases goesOn

namespace Pool

/-- Whether agents wait only while others are worked on. -/
def IsBusy (pool : Pool Program) : Prop :=
  pool.running = [] → pool.waiting = []

theorem fill_isBusy [UrlParser] (pool : Pool Program) : (pool.fill settings slot).IsBusy := by
  intro isIdle
  obtain ⟨noneRuns, noneStarts⟩ := List.append_eq_nil_iff.1 isIdle
  rw [List.map_eq_nil_iff, noneRuns] at noneStarts
  have room : 0 < max settings.maxConcurrentAgents 1 - ([] : List (AgentRun Program)).length := by
    simp
  rcases List.take_eq_nil_iff.1 noneStarts with none | noneWaits
  · exact absurd none (Nat.ne_of_gt room)
  · simp [fill, noneWaits]

end Pool

namespace TickRun

variable {run : TickRun Program}

def IsBusy (run : TickRun Program) : Prop :=
  ∀ pool, run.phase = .working pool → pool.IsBusy

theorem start_isBusy : (TickRun.start slot : TickRun Program).IsBusy := fun _ => nofun

theorem IsBusy.settle [UrlParser] (isBusy : run.IsBusy) : (run.settle settings).IsBusy := by
  obtain ⟨slot, phase⟩ := run
  cases phase with
  | opening job =>
      cases job with
      | call request next => exact isBusy
      | done opening =>
          obtain ⟨startedAt, agents⟩ := opening
          cases agents with
          | error report =>
              rintro pool ⟨⟩
          | ok agents =>
              rintro pool ⟨⟩
              exact Pool.fill_isBusy _
  | working pool =>
      simp only [TickRun.settle]
      split
      · rintro pool ⟨⟩
      · exact isBusy
  | closing job =>
      cases job with
      | call request next => exact isBusy
      | done report =>
          rintro pool ⟨⟩
  | closed report => exact isBusy

theorem IsBusy.settleAgent [UrlParser] (isBusy : run.IsBusy) (position : Nat) :
    (run.settleAgent settings position).IsBusy := by
  obtain ⟨slot, phase⟩ := run
  cases phase with
  | working pool =>
      unfold TickRun.settleAgent
      cases found : pool.running[position]? with
      | none =>
          simp only [found]
          exact isBusy
      | some agent =>
          simp only [found]
          cases (agent.settle settings slot).outcome? with
          | none =>
              rintro _ ⟨⟩ noneRuns
              exact isBusy pool rfl ((List.set_eq_nil_iff ..).1 noneRuns)
          | some outcome =>
              rintro _ ⟨⟩
              exact Pool.fill_isBusy _
  | opening | closing | closed => exact isBusy

theorem IsBusy.proceed {next : TickRun Program} {shared after : Shared outside}
    {reaction : Reaction outside} {spot : Spot} {entry : Entry} (isBusy : run.IsBusy)
    (found : run.proceed settings index shared reaction spot = some (entry, next, after)) :
    next.IsBusy := by
  have ofAgent : ∀ position target,
      run.proceedAgent settings index shared reaction position target = some (entry, next, after) →
        next.IsBusy := by
    intro position target found
    obtain ⟨slot, phase⟩ := run
    cases phase with
    | working pool =>
        obtain ⟨agent, isAgent, found⟩ := Option.bind_eq_some_iff.1 found
        obtain ⟨⟨entry', agent', shared'⟩, -, same⟩ := Option.bind_eq_some_iff.1 found
        cases same
        rintro _ ⟨⟩ noneRuns
        exact isBusy pool rfl ((List.set_eq_nil_iff ..).1 noneRuns)
    | opening | closing | closed => cases found
  cases spot with
  | agent position => exact ofAgent position none found
  | visit position target => exact ofAgent position (some target) found
  | tick =>
      obtain ⟨slot, phase⟩ := run
      cases phase with
      | opening job | closing job =>
          obtain ⟨⟨exchange, job', shared'⟩, -, same⟩ := Option.bind_eq_some_iff.1 found
          cases same
          exact fun _ => nofun
      | working | closed => cases found

/-- A tick that is not over can be moved on when none of its programs makes a call. -/
theorem canSettle_of_quiet [UrlParser] (traced : run.Traced settings index history)
    (isBusy : run.IsBusy) (isQuiet : run.pending index = []) (goesOn : run.report? = none)
    (fits : run.hasOverflowed = false) :
    run.settle settings ≠ run ∨ run.settleAgent settings 0 ≠ run := by
  obtain ⟨slot, phase⟩ := run
  cases phase with
  | opening job =>
      obtain ⟨⟨startedAt, agents⟩, rfl⟩ := Program.eq_done_of_quiet isQuiet
      refine Or.inl fun same => ?_
      have samePhase := congrArg TickRun.phase same
      cases agents <;> cases samePhase
  | working pool =>
      obtain ⟨agents, -, worked⟩ := traced
      cases isRunning : pool.running with
      | nil =>
          have isDone : pool.isDone = true := by
            rw [Pool.isDone, isRunning, isBusy pool rfl isRunning]
            rfl
          refine Or.inl fun same => ?_
          simp [TickRun.settle, isDone] at same
      | cons agent rest =>
          have isFirst : agent ∈ pool.running := isRunning ▸ List.mem_cons_self
          have isAt : pool.running[0]? = some agent := by rw [isRunning, List.getElem?_cons_zero]
          have isSilent : agent.pending index = [] :=
            List.flatMap_eq_nil_iff.1 isQuiet agent isFirst
          refine Or.inr fun same => ?_
          simp only [TickRun.settleAgent, isAt] at same
          cases isDone : (agent.settle settings slot).outcome? with
          | some outcome =>
              -- The pool has one outcome more.
              simp only [isDone] at same
              have samePool := TickPhase.working.inj (congrArg TickRun.phase same)
              have sameOutcomes := congrArg Pool.outcomes samePool
              simp [Pool.retire, Pool.fill] at sameOutcomes
          | none =>
              simp only [isDone] at same
              have samePool := TickPhase.working.inj (congrArg TickRun.phase same)
              have sameRunning := congrArg Pool.running samePool
              simp only [isRunning, List.set_cons_zero] at sameRunning
              have same := (List.cons.inj sameRunning).1
              refine AgentRun.settle_ne (worked.running agent isFirst) isSilent ?_ ?_ same
              · rwa [same] at isDone
              · exact Bool.eq_false_iff.2 (List.any_eq_false.1 fits agent isFirst)
  | closing job =>
      obtain ⟨report, rfl⟩ := Program.eq_done_of_quiet isQuiet
      exact Or.inl fun same => by cases congrArg TickRun.phase same
  | closed report => cases goesOn

end TickRun

namespace System

variable {system : System outside}

/-- Whether something that is under way can go on without the answer to a delayed call. -/
inductive CanMove [UrlParser] (settings : Settings) (system : System outside) : Prop where
  | proceed (index : Nat) (spot : Spot)
      (moves : ∀ reaction, ∃ entry,
        (system.take settings (.proceed index spot reaction)).log = entry :: system.log ∧
          entry.exchange.call.isDelayed = false)
  | serve (index : Nat)
      (moves : ∀ reaction, ∃ entry,
        (system.perform settings (.serve index reaction)).log = entry :: system.log ∧
          entry.exchange.call.isDelayed = false)
  | settle (index : Nat) (position : Option Nat)
      (moves : system.take settings (.settle index position) ≠ system)

/-- A call that can be answered can be made. -/
theorem canMove_of_answered [UrlParser] (isPending : (process, call) ∈ system.pending)
    (isPrompt : call.isDelayed = false)
    (answered : ∀ reaction, (system.shared.answer reaction call).isSome) :
    system.CanMove settings := by
  rcases mem_pending.1 isPending with ⟨index, run, isTick, isPending⟩ |
    ⟨index, job, isRequest, isPending⟩
  · obtain ⟨spot, proceeds⟩ := run.proceed_of_pending outside settings isPending
    refine .proceed index spot fun reaction => ?_
    obtain ⟨entry, next, shared, found, rfl⟩ :=
      proceeds system.shared reaction (answered reaction)
    exact ⟨entry, by simp [System.take, isTick, found], isPrompt⟩
  · obtain ⟨-, next, rfl⟩ := Program.mem_pending isPending
    refine .serve index fun reaction => ?_
    obtain ⟨answer, shared, found⟩ := Shared.proceed_of_answered next (answered reaction)
    exact ⟨⟨.request index, call, answer⟩, by simp [System.perform, isRequest, found], isPrompt⟩

/-- Whether all requests are done, and all ticks but those in which a count has overflowed. -/
structure IsOver (system : System outside) : Prop where
  ticks : ∀ run ∈ system.ticks, run.report?.isSome = true ∨ run.hasOverflowed = true
  requests : ∀ job ∈ system.requests, job.value?.isSome = true

/-- A system in which nobody makes a call is over, or one of its ticks can be moved on. -/
theorem isOver_or_canMove [UrlParser] (traced : system.Traced settings)
    (areBusy : ∀ run ∈ system.ticks, run.IsBusy) (isQuiet : system.pending = []) :
    system.IsOver ∨ system.CanMove settings := by
  obtain ⟨ticks, requests⟩ := List.append_eq_nil_iff.1 isQuiet
  by_cases areOver : ∀ run ∈ system.ticks, run.report?.isSome = true ∨ run.hasOverflowed = true
  · refine Or.inl ⟨areOver, fun job isJob => ?_⟩
    obtain ⟨index, isAt⟩ := List.mem_iff_getElem?.1 isJob
    have isPair : (job, index) ∈ system.requests.zipIdx := List.mem_zipIdx_iff_getElem?.2 isAt
    obtain ⟨value, rfl⟩ := Program.eq_done_of_quiet (List.flatMap_eq_nil_iff.1 requests _ isPair)
    rfl
  · obtain ⟨run, isRun, goesOn, fits⟩ :
        ∃ run ∈ system.ticks, run.report? = none ∧ run.hasOverflowed = false := by
      simpa using areOver
    obtain ⟨index, isAt⟩ := List.mem_iff_getElem?.1 isRun
    have isPair : (run, index) ∈ system.ticks.zipIdx := List.mem_zipIdx_iff_getElem?.2 isAt
    have isSilent : run.pending index = [] := List.flatMap_eq_nil_iff.1 ticks _ isPair
    have moves : ∀ change : TickRun Program → TickRun Program, change run ≠ run →
        system.ticks.modify index change ≠ system.ticks := by
      intro change differs same
      have own := congrArg (fun ticks : List (TickRun Program) => ticks[index]?) same
      simp only [List.getElem?_modify, isAt, if_true] at own
      exact differs (Option.some.inj own)
    have isTraced : run.Traced settings index system.log := traced.ticks index run isAt
    rcases TickRun.canSettle_of_quiet isTraced (areBusy run isRun) isSilent goesOn fits
      with differs | differs
    · exact Or.inr (.settle index none fun same => moves _ differs (congrArg System.ticks same))
    · exact Or.inr (.settle index (some 0) fun same =>
        moves _ differs (congrArg System.ticks same))

theorem perform_isBusy [UrlParser] (areBusy : ∀ run ∈ system.ticks, run.IsBusy)
    (deed : Deed outside) : ∀ run ∈ (system.perform settings deed).ticks, run.IsBusy := by
  have modified : ∀ (index : Nat) (change : TickRun Program → TickRun Program),
      (∀ run, run.IsBusy → (change run).IsBusy) →
        ∀ run ∈ system.ticks.modify index change, run.IsBusy := by
    intro index change keeps run isRun
    obtain ⟨other, isAt⟩ := List.mem_iff_getElem?.1 isRun
    rw [List.getElem?_modify] at isAt
    obtain ⟨before, isBefore, rfl⟩ := Option.map_eq_some_iff.1 isAt
    have isBusy := areBusy before (List.mem_of_getElem? isBefore)
    split
    · exact keeps before isBusy
    · exact isBusy
  cases deed with
  | turn turn =>
      cases turn with
      | begin now =>
          intro run isRun
          rcases List.mem_append.1 isRun with old | isNew
          · exact areBusy run old
          · cases List.mem_singleton.1 isNew
            exact TickRun.start_isBusy
      | settle index position =>
          cases position with
          | none => exact modified index _ fun run isBusy => isBusy.settle
          | some position => exact modified index _ fun run isBusy => isBusy.settleAgent position
      | proceed index spot reaction =>
          simp only [System.perform, System.take]
          split
          · exact areBusy
          · rename_i entry next shared found
            obtain ⟨run, isTick, proceeds⟩ := Option.bind_eq_some_iff.1 found
            intro other isOther
            rcases List.mem_or_eq_of_mem_set isOther with old | rfl
            · exact areBusy other old
            · exact (areBusy run (List.mem_of_getElem? isTick)).proceed proceeds
  | submit request => exact areBusy
  | serve index reaction =>
      simp only [System.perform]
      split <;> exact areBusy
  | update agent now =>
      simp only [System.perform]
      split <;> exact areBusy

/-- Whatever happens, agents of a tick wait only while others are worked on. -/
theorem performAll_isBusy [UrlParser] (areBusy : ∀ run ∈ system.ticks, run.IsBusy)
    (deeds : List (Deed outside)) :
    ∀ run ∈ (system.performAll settings deeds).ticks, run.IsBusy := by
  induction deeds generalizing system with
  | nil => exact areBusy
  | cons deed rest ih => exact ih (perform_isBusy areBusy deed)

end System

end AdMonitor
