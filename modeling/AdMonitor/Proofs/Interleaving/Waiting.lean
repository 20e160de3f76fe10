import AdMonitor.Proofs.Interleaving.Pending
import AdMonitor.Proofs.Interleaving.Restraint
import AdMonitor.Proofs.Visit.Holding
import Mathlib.Logic.Relation

/-!
# Nobody waits for ever

Only visits wait for locks, and they wait in order: first for the lock of their
target, with nothing in hand, and then for one campaign at a time, with nothing
but the lock of their target.  A lock that is not free is held by a visit that
is still under way.  So no circle of processes can wait for each other, and a
system in which nothing moves is over or waits for a collaborator, a store or a
timer (`System.performAll_deadlockFree`).
-/

namespace AdMonitor

variable {outside : Outside} {settings : Settings} {slot : Slot} {index : Nat}
  {history : History} {process : Process} {lock : LockId}

/-! ## Locks and the log -/

namespace History

/-- The locks that a process has taken and not given back, the newest first. -/
def held (process : Process) (history : History) : List LockId :=
  locksHeld (history.ofProcess process)

def Finds (history : History) (name : LockName) (lock : LockId) : Prop :=
  ∃ actor, ⟨actor, ⟨.lock (.find name), lock⟩⟩ ∈ history

variable {entry : Entry}

theorem held_cons_own (isOwn : entry.actor.process = process) :
    held process (entry :: history) = entry.exchange.hold (history.held process) := by
  rw [held, ofProcess_cons_own isOwn, locksHeld_cons, held]

theorem held_cons_other (isOther : entry.actor.process ≠ process) :
    held process (entry :: history) = history.held process := by
  rw [held, ofProcess_cons_other isOther, held]

/-- Nobody gains or loses a lock by a call that takes none and gives none back. -/
theorem held_cons_idle (isIdle : ∀ held, entry.exchange.hold held = held) :
    held process (entry :: history) = history.held process := by
  by_cases isOwn : entry.actor.process = process
  · rw [held_cons_own isOwn, isIdle]
  · exact held_cons_other isOwn

theorem Finds.cons {name : LockName} (finds : Finds (entry :: history) name lock)
    (isOther : ∀ actor, entry ≠ ⟨actor, ⟨.lock (.find name), lock⟩⟩) : history.Finds name lock := by
  obtain ⟨actor, logged⟩ := finds
  exact ⟨actor, (List.mem_cons.1 logged).resolve_left (isOther actor).symm⟩

end History

namespace LockTable

def Stands (table : LockTable) (history : History) (name : LockName) (lock : LockId) : Prop :=
  (name, lock) ∈ table.names ∨ history.Finds name lock

/-- Whether every lock that was ever found exists, and is that of one name. -/
structure Named (table : LockTable) (history : History) : Prop where
  exists_lock : ∀ name lock, table.Stands history name lock → lock < table.locks.length
  name_eq : ∀ name other lock, table.Stands history name lock →
    table.Stands history other lock → name = other

/-- Whether every lock is free or held, and nobody is in its queue. -/
structure Kept (table : LockTable) (history : History) : Prop where
  nobodyQueues : ∀ l ∈ table.locks, l.waiting = []
  holder : ∀ lock < table.locks.length, table.isFree lock = false →
    ∃ process, lock ∈ history.held process

variable {table other : LockTable} {later : History} {entry : Entry}

namespace Named

theorem empty : LockTable.empty.Named [] where
  exists_lock := by simp [Stands, History.Finds, LockTable.empty]
  name_eq := by simp [Stands, History.Finds, LockTable.empty]

theorem mono (named : table.Named history)
    (stands : ∀ name lock, other.Stands later name lock → table.Stands history name lock)
    (length : table.locks.length ≤ other.locks.length) : other.Named later where
  exists_lock name lock isStanding :=
    Nat.lt_of_lt_of_le (named.exists_lock name lock (stands name lock isStanding)) length
  name_eq name own lock first second :=
    named.name_eq name own lock (stands _ _ first) (stands _ _ second)

/-- Only finding locks settles what they stand for. -/
theorem cons (named : table.Named history)
    (notFind : ∀ name, entry.exchange.call ≠ .lock (.find name)) (names : other.names ⊆ table.names)
    (length : table.locks.length ≤ other.locks.length) : other.Named (entry :: history) := by
  refine named.mono (fun name lock isStanding => ?_) length
  rcases isStanding with isNamed | isFound
  · exact Or.inl (names isNamed)
  · refine Or.inr (isFound.cons fun actor same => notFind name ?_)
    rw [same]

theorem find (named : table.Named history) (actor : Actor) (name : LockName) :
    (table.find name).2.Named
      (⟨actor, ⟨.lock (.find name), (table.find name).1⟩⟩ :: history) := by
  have finds : ∀ own lock,
      History.Finds (⟨actor, ⟨.lock (.find name), (table.find name).1⟩⟩ :: history) own lock →
        history.Finds own lock ∨ own = name ∧ lock = (table.find name).1 := by
    rintro own lock ⟨actor', logged⟩
    rcases List.mem_cons.1 logged with isNew | older
    · cases isNew
      exact Or.inr ⟨rfl, rfl⟩
    · exact Or.inl ⟨actor', older⟩
  rcases find_cases table name with ⟨known, found, -, isNamed⟩ | ⟨found, -⟩
  · rw [found] at finds ⊢
    refine named.mono (fun own lock isStanding => ?_) (Nat.le_refl _)
    rcases isStanding with isOld | isFound
    · exact Or.inl isOld
    · rcases finds own lock isFound with older | ⟨rfl, rfl⟩
      · exact Or.inr older
      · exact Or.inl isNamed
  · rw [found] at finds ⊢
    -- A lock that is made now is none of those that anything stands for.
    have stands : ∀ own lock,
        Stands ⟨(name, table.locks.length) :: table.names, table.locks ++ [⟨none, [], 0⟩]⟩
          (⟨actor, ⟨.lock (.find name), table.locks.length⟩⟩ :: history) own lock →
        table.Stands history own lock ∨ own = name ∧ lock = table.locks.length := by
      rintro own lock (isNamed | isFound)
      · rcases List.mem_cons.1 isNamed with isNew | older
        · exact Or.inr (Prod.mk.inj isNew)
        · exact Or.inl (Or.inl older)
      · exact (finds own lock isFound).imp_left Or.inr
    refine ⟨fun own lock isStanding => ?_, fun first second lock isFirst isSecond => ?_⟩
    · rw [List.length_append]
      rcases stands own lock isStanding with old | ⟨-, rfl⟩
      · exact Nat.lt_succ_of_lt (named.exists_lock own lock old)
      · exact Nat.lt_succ_self _
    · rcases stands _ _ isFirst with old | ⟨rfl, rfl⟩ <;>
        rcases stands _ _ isSecond with old' | ⟨rfl, same⟩
      · exact named.name_eq first second lock old old'
      · exact absurd (named.exists_lock _ _ old) (by simp [same])
      · exact absurd (named.exists_lock _ _ old') (Nat.lt_irrefl _)
      · rfl

end Named

namespace Kept

theorem empty : LockTable.empty.Kept [] where
  nobodyQueues := List.forall_mem_nil _
  holder lock inside := absurd inside (Nat.not_lt_zero lock)

theorem mono (kept : table.Kept history) (same : other.locks = table.locks)
    (holds : ∀ process, later.held process = history.held process) : other.Kept later where
  nobodyQueues := by
    rw [same]
    exact kept.nobodyQueues
  holder lock inside isTaken := by
    unfold isFree at isTaken
    rw [same] at inside isTaken
    obtain ⟨process, isHeld⟩ := kept.holder lock inside isTaken
    exact ⟨process, (holds process).symm ▸ isHeld⟩

/-- A lock that is made is free. -/
theorem find (kept : table.Kept history) (name : LockName)
    (holds : ∀ process, later.held process = history.held process) :
    (table.find name).2.Kept later := by
  rcases find_cases table name with ⟨known, found, -⟩ | ⟨found, -⟩
  · rw [found]
    exact kept.mono rfl holds
  · rw [found]
    refine ⟨fun l isLock => ?_, fun lock inside isTaken => ?_⟩
    · rcases List.mem_append.1 isLock with old | isNew
      · exact kept.nobodyQueues l old
      · rw [List.mem_singleton.1 isNew]
    · rcases Nat.lt_or_ge lock table.locks.length with before | beyond
      · rw [isFree_append before] at isTaken
        obtain ⟨process, isHeld⟩ := kept.holder lock before isTaken
        exact ⟨process, (holds process).symm ▸ isHeld⟩
      · rw [List.length_append, List.length_singleton] at inside
        obtain rfl : lock = table.locks.length := by omega
        simp [isFree] at isTaken

/-- What happens to one lock happens to no other. -/
theorem modify (kept : table.Kept history) {change : Lock → Lock}
    (empties : ∀ l, table.locks[lock]? = some l → l.waiting = [] → (change l).waiting = [])
    (others : ∀ process own, own ≠ lock → own ∈ history.held process → own ∈ later.held process)
    (own : ∀ l, table.locks[lock]? = some l → l.waiting = [] → (change l).holder ≠ none →
      ∃ process, lock ∈ later.held process) :
    (table.modify lock change).Kept later := by
  have length : (table.modify lock change).locks.length = table.locks.length :=
    List.length_modify ..
  refine ⟨fun l isLock => ?_, fun other inside isTaken => ?_⟩
  · obtain ⟨position, isAt⟩ := List.mem_iff_getElem?.1 isLock
    simp only [LockTable.modify, List.getElem?_modify] at isAt
    obtain ⟨before, isBefore, rfl⟩ := Option.map_eq_some_iff.1 isAt
    have nobody := kept.nobodyQueues before (List.mem_of_getElem? isBefore)
    split
    · next same => exact empties before (same ▸ isBefore) nobody
    · exact nobody
  · rw [length] at inside
    by_cases isLock : other = lock
    · subst isLock
      have isAt := List.getElem?_eq_getElem inside
      refine own _ isAt (kept.nobodyQueues _ (List.mem_of_getElem? isAt)) fun isNone => ?_
      simp [isFree, LockTable.modify, isAt, isNone] at isTaken
    · rw [isFree_modify isLock] at isTaken
      obtain ⟨process, isHeld⟩ := kept.holder other inside isTaken
      exact ⟨process, others process other isLock isHeld⟩

theorem acquire (kept : table.Kept history) (actor : Actor) (isFree : table.isFree lock = true) :
    (table.enter lock 0).Kept (⟨actor, ⟨.lock (.acquire lock), ()⟩⟩ :: history) := by
  have holds : History.held actor.process (⟨actor, ⟨.lock (.acquire lock), ()⟩⟩ :: history) =
      lock :: history.held actor.process := History.held_cons_own rfl
  refine kept.modify (fun l isLock nobody => ?_) (fun process own differs isHeld => ?_)
    fun l isLock nobody isTaken => ⟨actor.process, holds ▸ List.mem_cons_self⟩
  · have isNone : l.holder = none := by simpa [LockTable.isFree, isLock] using isFree
    simpa [isNone] using nobody
  · by_cases isOwn : actor.process = process
    · subst isOwn
      exact holds ▸ List.mem_cons_of_mem _ isHeld
    · rwa [History.held_cons_other isOwn]

theorem release (kept : table.Kept history) (actor : Actor) :
    (table.release lock 0).Kept (⟨actor, ⟨.lock (.release lock), ()⟩⟩ :: history) := by
  have holds : History.held actor.process (⟨actor, ⟨.lock (.release lock), ()⟩⟩ :: history) =
      (history.held actor.process).erase lock := History.held_cons_own rfl
  refine kept.modify (fun l isLock nobody => by simp [nobody])
    (fun process own differs isHeld => ?_) fun l isLock nobody isTaken => ?_
  · by_cases isOwn : actor.process = process
    · subst isOwn
      exact holds ▸ (List.mem_erase_of_ne differs).2 isHeld
    · rwa [History.held_cons_other isOwn]
  · simp [nobody] at isTaken

end Kept

end LockTable

/-- Whether a log accounts for all locks: whose they are, and for which one name they were made. -/
structure Shared.Accounted (shared : Shared outside) (history : History) : Prop where
  named : shared.locks.Named history
  kept : shared.locks.Kept history

theorem Shared.Accounted.cons {shared after : Shared outside} {reaction : Reaction outside}
    {entry : Entry} (accounted : shared.Accounted history)
    (answered : shared.answer reaction entry.exchange.call = some (entry.exchange.answer, after)) :
    after.Accounted (entry :: history) := by
  obtain ⟨named, kept⟩ := accounted
  obtain ⟨actor, ⟨call, answer⟩⟩ := entry
  cases call with
  | lock query =>
      obtain ⟨locks, moved, rfl⟩ := Shared.answer_lock answered
      cases query with
      | find name =>
          obtain ⟨rfl, rfl⟩ := Prod.mk.inj (Option.some.inj moved)
          exact ⟨named.find actor name,
            kept.find name fun process => History.held_cons_idle fun _ => rfl⟩
      | acquire lock =>
          obtain ⟨isFree, moved⟩ := Option.ite_none_right_eq_some.1 moved
          obtain ⟨-, rfl⟩ := Prod.mk.inj (Option.some.inj moved)
          exact ⟨named.cons (fun _ => nofun) (List.Subset.refl _)
            (Nat.le_of_eq (List.length_modify ..).symm), kept.acquire actor isFree⟩
      | release lock =>
          obtain ⟨-, rfl⟩ := Prod.mk.inj (Option.some.inj moved)
          exact ⟨named.cons (fun _ => nofun) (List.Subset.refl _)
            (Nat.le_of_eq (List.length_modify ..).symm), kept.release actor⟩
      | forget agent keep =>
          obtain ⟨-, rfl⟩ := Prod.mk.inj (Option.some.inj moved)
          exact ⟨named.cons (fun _ => nofun) (List.filter_sublist ..).subset (Nat.le_refl _),
            kept.mono rfl fun process => History.held_cons_idle fun _ => rfl⟩
  | _ =>
      have same : after.locks = shared.locks := Shared.locks_of_answer (fun _ => by simp) answered
      refine ⟨?_, ?_⟩
      · rw [same]
        exact named.cons (fun _ => nofun) (List.Subset.refl _) (Nat.le_refl _)
      · rw [same]
        exact kept.mono rfl fun process => History.held_cons_idle fun _ => rfl

namespace System

variable {system : System outside}

theorem perform_accounted [UrlParser] (accounted : system.shared.Accounted system.log)
    (deed : Deed outside) :
    (system.perform settings deed).shared.Accounted (system.perform settings deed).log := by
  cases deed with
  | turn turn =>
      cases turn with
      | begin now => exact accounted
      | settle index position => cases position <;> exact accounted
      | proceed index spot reaction =>
          simp only [System.perform, System.take]
          split
          · exact accounted
          · rename_i entry next shared found
            obtain ⟨run, -, proceeds⟩ := Option.bind_eq_some_iff.1 found
            exact accounted.cons (run.answered_of_proceed proceeds)
  | submit request => exact accounted
  | serve index reaction =>
      simp only [System.perform]
      split
      · exact accounted
      · rename_i exchange next shared found
        obtain ⟨job, -, proceeds⟩ := Option.bind_eq_some_iff.1 found
        exact accounted.cons (Shared.proceed_eq_some proceeds).1
  | update agent now =>
      simp only [System.perform]
      split
      · exact accounted
      · exact ⟨accounted.named, accounted.kept⟩

/-- Whatever happens, the log accounts for all locks. -/
theorem performAll_accounted [UrlParser] (accounted : system.shared.Accounted system.log)
    (deeds : List (Deed outside)) :
    (system.performAll settings deeds).shared.Accounted (system.performAll settings deeds).log := by
  induction deeds generalizing system with
  | nil => exact accounted
  | cons deed rest ih => exact ih (perform_accounted accounted deed)

end System

/-! ## Who waits -/

/-- Whether a process is a visit that is about to take a lock, and holds what it may. -/
def History.Waits (index : Nat) (history : History) (process : Process) (lock : LockId) : Prop :=
  ∃ visit : Visit, process = .job (.visit ⟨index, visit.key⟩) ∧
    visit.Holds (history.ofProcess process) lock

/-- Of the programs of an agent, only visits take locks. -/
theorem AgentRun.Traced.waits [UrlParser] {run : AgentRun Program}
    (traced : run.Traced settings slot index history)
    (isPending : (process, .lock (.acquire lock)) ∈ run.pending index) :
    history.Waits index process lock := by
  obtain ⟨agent, phase⟩ := run
  cases phase with
  | opening job =>
      obtain ⟨-, next, rfl⟩ := Program.mem_pending isPending
      exact (((slot.openAgent_uses settings agent).leads traced.1).2.1).elim
  | visiting targets visits =>
      obtain ⟨⟨target, job⟩, found, isPending⟩ := List.mem_flatMap.1 isPending
      obtain ⟨rfl, next, rfl⟩ := Program.mem_pending isPending
      have isTraced := (List.forall₂_iff_zip.1 traced.2.each).2 found
      exact ⟨{ settings, slot, agent, target }, rfl, Visit.holds_of_leads isTraced.leads⟩
  | closing reports job =>
      obtain ⟨-, next, rfl⟩ := Program.mem_pending isPending
      obtain ⟨targets, later, early, -, -, -, leads⟩ := traced
      exact (((slot.closeAgent_uses agent targets).leads leads).2.1).elim
  | closed outcome => cases isPending

theorem TickStep.not_acquire {before after : TickView} :
    ¬ TickStep before ⟨.lock (.acquire lock), ()⟩ after := by
  intro step
  cases step with
  | note _ _ isNote => cases isNote

theorem TickRun.Traced.waits [UrlParser] {run : TickRun Program}
    (traced : run.Traced settings index history)
    (isPending : (process, .lock (.acquire lock)) ∈ run.pending index) :
    history.Waits index process lock := by
  obtain ⟨slot, phase⟩ := run
  cases phase with
  | opening job =>
      obtain ⟨-, next, rfl⟩ := Program.mem_pending isPending
      obtain ⟨view, -, follows⟩ := slot.openTick_follows.path traced.1
      obtain ⟨after, step, -⟩ := follows ()
      exact absurd step TickStep.not_acquire
  | working pool =>
      obtain ⟨agents, -, worked⟩ := traced
      obtain ⟨run, isRunning, isPending⟩ := List.mem_flatMap.1 isPending
      exact AgentRun.Traced.waits (worked.running run isRunning) isPending
  | closing job =>
      obtain ⟨-, next, rfl⟩ := Program.mem_pending isPending
      obtain ⟨agents, pool, later, early, -, -, -, -, leads⟩ := traced
      obtain ⟨view, -, follows⟩ := (slot.closeTick_follows _ _).path leads
      obtain ⟨after, step, -⟩ := follows ()
      exact absurd step TickStep.not_acquire
  | closed report => cases isPending

theorem Request.not_acquire {request : Request} : ¬ request.Makes (.lock (.acquire lock)) := by
  intro makes
  cases request with
  | register | delete => cases makes
  | explain id => rcases makes with isReading | isOpening <;> contradiction

/-- In a tick none but visits take locks. -/
theorem Entry.Belongs.visit_of_acquire {actor : Actor}
    (belongs : Entry.Belongs settings slot index history ⟨actor, ⟨.lock (.acquire lock), ()⟩⟩) :
    ∃ visit, actor = .visit index visit := by
  cases belongs with
  | tick exchange before after step isTold => exact absurd step TickStep.not_acquire
  | opening agent isTold exchange isOpening => cases isOpening
  | closing agent isTold exchange isClosing => cases isClosing
  | visit agent isTold target isTarget exchange before after step => exact ⟨_, rfl⟩

/-! ## Who holds -/

def Visit.IsUnderway (index : Nat) (history : History) (pending : List (Process × Call))
    (visit : Visit) : Prop :=
  ∃ job, visit.Traced index history job ∧ job.pending (.job (.visit ⟨index, visit.key⟩)) ⊆ pending

section Underway

variable {agent : Agent} {targets : List Target} {visit : Visit} {exchange : Exchange}
  {pending : List (Process × Call)}

theorem Agent.Visited.isUnderway {visits : List (Program (Option TargetReport))}
    (visited : agent.Visited settings slot index history targets visits)
    (logged : ⟨.visit index visit, exchange⟩ ∈ history) (isOwn : visit.key.agent = agent.id)
    (arePending : ∀ target job, (target, job) ∈ targets.zip visits →
      job.pending (.job (.visit ⟨index, agent.id, target.key⟩)) ⊆ pending) :
    visit.IsUnderway index history pending := by
  obtain ⟨target, isTarget, -, -, rfl, -⟩ := visited.visit logged isOwn
  obtain ⟨position, isAt⟩ := List.mem_iff_getElem?.1 isTarget
  have inside := (List.getElem?_eq_some_iff.1 isAt).1
  have isJob := List.getElem?_eq_getElem (visited.each.length_eq ▸ inside)
  have isPair : (target, _) ∈ targets.zip visits :=
    List.mem_of_getElem? (List.getElem?_zip_eq_some.2 ⟨isAt, isJob⟩)
  exact ⟨_, (List.forall₂_iff_zip.1 visited.each).2 isPair, arePending target _ isPair⟩

/-- Visits that have ended make no call. -/
theorem Agent.Visited.isUnderway_of_done {reports : List TargetReport}
    (visited : agent.Visited settings slot index history targets (reports.map (.done ∘ some)))
    (logged : ⟨.visit index visit, exchange⟩ ∈ history) (isOwn : visit.key.agent = agent.id) :
    visit.IsUnderway index history pending := by
  refine visited.isUnderway logged isOwn fun target job isPair => ?_
  obtain ⟨report, -, rfl⟩ := List.mem_map.1 (List.of_mem_zip isPair).2
  exact List.nil_subset _

theorem AgentRun.Traced.isUnderway [UrlParser] {run : AgentRun Program}
    (traced : run.Traced settings slot index history)
    (logged : ⟨.visit index visit, exchange⟩ ∈ history) (isOwn : visit.key.agent = run.agent.id) :
    visit.IsUnderway index history (run.pending index) := by
  obtain ⟨agent, phase⟩ := run
  cases phase with
  | opening job =>
      have found := History.mem_ofJob.2 ⟨_, logged, rfl⟩
      have nothing := traced.2 visit.key.target
      rw [← isOwn] at nothing
      exact absurd found (nothing ▸ List.not_mem_nil)
  | visiting targets visits =>
      refine Agent.Visited.isUnderway traced.2 logged isOwn fun target job isPair => ?_
      exact fun call isPending => List.mem_flatMap.2 ⟨_, isPair, isPending⟩
  | closing reports job =>
      obtain ⟨targets, later, early, -, -, visited, -⟩ := traced
      exact visited.isUnderway_of_done logged isOwn
  | closed outcome =>
      obtain ⟨targets, attended⟩ := Agent.Yields.attended traced logged isOwn
      exact attended.visited.isUnderway_of_done logged isOwn

theorem Pool.Traced.isUnderway [UrlParser] {agents : List Agent} {pool : Pool Program}
    (traced : pool.Traced settings slot index history agents)
    (logged : ⟨.visit index visit, exchange⟩ ∈ history) :
    visit.IsUnderway index history (pool.running.flatMap (AgentRun.pending index)) := by
  have isId : visit.key.agent ∈ agents.map Agent.id := by
    by_contra isNone
    exact (traced.others _ isNone).not_visit logged rfl
  obtain ⟨agent, isAgent, isOwn⟩ := List.mem_map.1 isId
  obtain ⟨finished, yields, isPerm⟩ := traced.finished
  rcases List.mem_append.1 (isPerm.symm.subset isAgent) with isDone | isOpen
  · obtain ⟨outcome, -, yields⟩ := forall₂_left yields isDone
    obtain ⟨targets, attended⟩ := yields.attended logged isOwn.symm
    exact attended.visited.isUnderway_of_done logged isOwn.symm
  · rcases List.mem_append.1 isOpen with isRunning | waits
    · obtain ⟨run, isRun, rfl⟩ := List.mem_map.1 isRunning
      obtain ⟨job, isTraced, arePending⟩ :=
        AgentRun.Traced.isUnderway (traced.running run isRun) logged isOwn.symm
      exact ⟨job, isTraced, fun call isPending =>
        List.mem_flatMap.2 ⟨run, isRun, arePending isPending⟩⟩
    · exact absurd isOwn.symm ((traced.waiting agent waits).not_visit logged)

theorem Pool.Traced.isUnderway_of_done [UrlParser] {agents : List Agent} {pool : Pool Program}
    (traced : pool.Traced settings slot index history agents) (isDone : pool.isDone = true)
    (logged : ⟨.visit index visit, exchange⟩ ∈ history) :
    visit.IsUnderway index history pending := by
  have noneRuns : pool.running = [] := by
    rw [Pool.isDone, Bool.and_eq_true, List.isEmpty_iff] at isDone
    exact isDone.1
  obtain ⟨job, isTraced, arePending⟩ := traced.isUnderway logged
  rw [noneRuns] at arePending
  exact ⟨job, isTraced, fun call isPending => absurd (arePending isPending) List.not_mem_nil⟩

/-- A visit that has begun has ended, or its next call is pending. -/
theorem TickRun.Traced.isUnderway [UrlParser] {run : TickRun Program}
    (traced : run.Traced settings index history)
    (logged : ⟨.visit index visit, exchange⟩ ∈ history) :
    visit.IsUnderway index history (run.pending index) := by
  obtain ⟨slot, phase⟩ := run
  cases phase with
  | opening job => exact absurd rfl ((traced.2 _).not_visit logged)
  | working pool =>
      obtain ⟨agents, -, worked⟩ := traced
      exact worked.isUnderway logged
  | closing job =>
      obtain ⟨agents, pool, later, early, -, -, worked, isDone, -⟩ := traced
      exact worked.isUnderway_of_done isDone logged
  | closed report =>
      cases traced with
      | failed startedAt report opened leaves => exact absurd rfl ((leaves _).not_visit logged)
      | finished agents pool report later early parts opened worked isDone closed =>
          exact worked.isUnderway_of_done isDone logged

end Underway

/-- A call that is not answered is one to take a lock that somebody holds. -/
theorem Shared.eq_acquire_of_unanswered {shared : Shared outside} {reaction : Reaction outside}
    {call : Call} (unanswered : ¬ (shared.answer reaction call).isSome) :
    ∃ lock, call = .lock (.acquire lock) ∧ shared.locks.isFree lock = false := by
  cases call with
  | lock query =>
      cases query with
      | acquire lock =>
          refine ⟨lock, rfl, ?_⟩
          rw [Bool.eq_false_iff]
          intro isFree
          exact unanswered (by simp [Shared.answer, LockTable.answer, isFree])
      | find | release | forget => exact absurd rfl unanswered
  | agents | states =>
      refine absurd ?_ unanswered
      unfold Shared.answer
      cases reaction.failure <;> rfl
  | _ => exact absurd rfl unanswered

def Call.acquires? : Call → Option LockId
  | .lock (.acquire own) => some own
  | _ => none

namespace System

variable {system : System outside} {requests : List Request}

def Awaits (system : System outside) (process : Process) (lock : LockId) : Prop :=
  (process, .lock (.acquire lock)) ∈ system.pending

theorem awaits_iff :
    system.Awaits process lock ↔
      (process, lock) ∈ system.pending.filterMap fun pending =>
        pending.2.acquires?.map (pending.1, ·) := by
  rw [Awaits, List.mem_filterMap]
  constructor
  · exact fun isPending => ⟨_, isPending, rfl⟩
  · rintro ⟨⟨own, call⟩, isPending, same⟩
    cases call with
    | lock query =>
        cases query with
        | acquire =>
            cases same
            exact isPending
        | find | release | forget => cases same
    | _ => cases same

instance (system : System outside) (process : Process) (lock : LockId) :
    Decidable (system.Awaits process lock) := decidable_of_iff _ awaits_iff.symm

/-- Whether a process is about to take a lock that another one holds. -/
def WaitsFor (system : System outside) (process other : Process) : Prop :=
  ∃ lock, system.Awaits process lock ∧ lock ∈ History.held other system.log

/-- Whether everyone who waits for a lock holds what may be held then. -/
structure IsOrdered (system : System outside) : Prop where
  isFound : ∀ process lock, system.Awaits process lock →
    ∃ name, History.Finds system.log name lock
  name_eq : ∀ name other lock, History.Finds system.log name lock →
    History.Finds system.log other lock → name = other
  target : ∀ process lock key, system.Awaits process lock →
    History.Finds system.log (.target key) lock → History.held process system.log = []
  campaign : ∀ process lock campaign, system.Awaits process lock →
    History.Finds system.log (.campaign campaign) lock → ∃ id own, process = .job (.visit id) ∧
      ⟨.lock (.find (.target id.key)), own⟩ ∈ History.ofProcess process system.log ∧
      History.held process system.log = [own]

theorem waits_of_awaits [UrlParser] (traced : system.Traced settings)
    (handles : system.Handles settings requests) (awaits : system.Awaits process lock) :
    ∃ index, History.Waits index system.log process lock := by
  rcases mem_pending.1 awaits with ⟨index, run, isTick, isPending⟩ |
    ⟨index, job, isJob, isPending⟩
  · exact ⟨index, TickRun.Traced.waits (traced.ticks index run isTick) isPending⟩
  · obtain ⟨-, next, rfl⟩ := Program.mem_pending isPending
    have inside := (List.getElem?_eq_some_iff.1 isJob).1
    have isRequest := List.getElem?_eq_getElem (handles.length ▸ inside)
    have leads := handles.each index _ _ isRequest isJob
    exact absurd ((Request.program_uses settings _).leads leads).2.1 Request.not_acquire

theorem isOrdered [UrlParser] (traced : system.Traced settings)
    (handles : system.Handles settings requests) (named : system.shared.locks.Named system.log) :
    system.IsOrdered := by
  have finds : ∀ {process name lock},
      ⟨.lock (.find name), lock⟩ ∈ History.ofProcess process system.log →
        History.Finds system.log name lock := by
    intro process name lock found
    obtain ⟨actor, logged, -⟩ := History.mem_ofProcess found
    exact ⟨actor, logged⟩
  have name_eq : ∀ name other lock, History.Finds system.log name lock →
      History.Finds system.log other lock → name = other :=
    fun name other lock first second => named.name_eq name other lock (Or.inr first) (Or.inr second)
  refine ⟨fun process lock awaits => ?_, name_eq, fun process lock key awaits isTarget => ?_,
    fun process lock campaign awaits isCampaign => ?_⟩
  all_goals obtain ⟨index, visit, rfl, holds⟩ := waits_of_awaits traced handles awaits
  · cases holds with
    | none isFound => exact ⟨_, finds isFound⟩
    | target campaign own isFound => exact ⟨_, finds isFound⟩
  · cases holds with
    | none isFound holds => exact holds
    | target campaign own isFound => cases name_eq _ _ lock isTarget (finds isFound)
  · cases holds with
    | none isFound => cases name_eq _ _ lock isCampaign (finds isFound)
    | target other own isFound isOwn holds => exact ⟨_, own, rfl, isOwn, holds⟩

namespace IsOrdered

variable {first second third fourth : Process}

/-- Whoever waits and holds something holds no lock that anybody waits for who holds something. -/
theorem not_waitsFor (isOrdered : system.IsOrdered) (waits : system.WaitsFor first second)
    (waits' : system.WaitsFor second third) : ¬ system.WaitsFor third fourth := by
  rintro ⟨last, awaits, -⟩
  obtain ⟨lock, -, isHeld⟩ := waits
  obtain ⟨campaignLock, awaits', isHeld'⟩ := waits'
  have campaign : ∀ {process own lock}, system.Awaits process lock →
      own ∈ History.held process system.log →
        ∃ campaign, History.Finds system.log (.campaign campaign) lock := by
    intro process own lock awaits isHeld
    obtain ⟨name, isFound⟩ := isOrdered.isFound process lock awaits
    cases name with
    | campaign campaign => exact ⟨campaign, isFound⟩
    | target key =>
        rw [isOrdered.target process lock key awaits isFound] at isHeld
        cases isHeld
  obtain ⟨_, isCampaign⟩ := campaign awaits' isHeld
  obtain ⟨_, isCampaign'⟩ := campaign awaits isHeld'
  -- The third process holds nothing but the lock of its target, and the second waits for that.
  obtain ⟨id, own, -, isTarget, holds⟩ := isOrdered.campaign third last _ awaits isCampaign'
  rw [holds, List.mem_singleton] at isHeld'
  subst isHeld'
  obtain ⟨actor, logged, -⟩ := History.mem_ofProcess isTarget
  cases isOrdered.name_eq _ _ _ isCampaign ⟨actor, logged⟩

theorem acyclic (isOrdered : system.IsOrdered) (process : Process) :
    ¬ Relation.TransGen system.WaitsFor process process := by
  intro circle
  obtain ⟨second, waits, goesOn⟩ := Relation.TransGen.head'_iff.1 circle
  obtain ⟨third, waits', goesOn'⟩ := Relation.TransGen.head'_iff.1 (.tail' goesOn waits)
  obtain ⟨fourth, waits'', -⟩ := Relation.TransGen.head'_iff.1 (.tail' goesOn' waits')
  exact isOrdered.not_waitsFor waits waits' waits''

end IsOrdered

/-- Whoever holds a lock is a visit whose next call is pending. -/
theorem pending_of_held [UrlParser] (traced : system.Traced settings)
    (handles : system.Handles settings requests) (isHeld : lock ∈ History.held process system.log) :
    ∃ call, (process, call) ∈ system.pending := by
  obtain ⟨actor, logged, rfl⟩ := History.mem_ofProcess (taken_of_mem_locksHeld isHeld)
  rcases origin traced handles logged with ⟨index, run, isTick, belongs⟩ |
    ⟨index, request, -, -, makes⟩
  · obtain ⟨visit, rfl⟩ := belongs.visit_of_acquire
    obtain ⟨job, isTraced, arePending⟩ :=
      TickRun.Traced.isUnderway (traced.ticks index run isTick) logged
    cases job with
    | done report =>
        have holds : History.held (.job (.visit ⟨index, visit.key⟩)) system.log = [] :=
          Visit.locksHeld_of_ends isTraced.leads
        exact absurd isHeld (holds ▸ List.not_mem_nil)
    | call call next =>
        exact ⟨call, mem_pending.2 (Or.inl ⟨index, run, isTick,
          arePending (List.mem_singleton_self _)⟩)⟩
  · exact absurd makes Request.not_acquire

/--
A process that waits for the lock of a target holds none, and one that waits for
that of a campaign holds only the lock of its own target, so no processes wait
for each other in a circle.  When no collaborator, store or timer is waited for,
all ticks and requests are done or something can go on.
-/
theorem performAll_deadlockFree [UrlParser] (settings : Settings) (agents : List Agent)
    (states : StateStore) (world : outside.World) (deeds : List (Deed outside)) :
    let system := (start (.ofAgents agents) states world).performAll settings deeds
    system.IsOrdered ∧ (∀ process, ¬ Relation.TransGen system.WaitsFor process process) ∧
      ((∀ process call, (process, call) ∈ system.pending → call.isDelayed = false) →
        system.IsOver ∨ system.CanMove settings) := by
  intro system
  have first : (start (.ofAgents agents) states world).Traced settings :=
    start_traced (AgentStore.ofAgents_keyed agents)
  have traced : system.Traced settings := performAll_traced first deeds
  have handles : system.Handles settings (deeds.filterMap Deed.request?) :=
    performAll_handles start_handles first deeds
  have accounted : system.shared.Accounted system.log :=
    performAll_accounted ⟨.empty, .empty⟩ deeds
  have areBusy : ∀ run ∈ system.ticks, run.IsBusy := performAll_isBusy (List.forall_mem_nil _) deeds
  have ordered := isOrdered traced handles accounted.named
  refine ⟨ordered, ordered.acyclic, fun arePrompt => ?_⟩
  by_contra isStuck
  obtain ⟨goesOn, cannotMove⟩ := not_or.1 isStuck
  -- Whoever makes a call waits for somebody who makes a call.
  have isBlocked : ∀ process call, (process, call) ∈ system.pending →
      ∃ other next, system.WaitsFor process other ∧ (other, next) ∈ system.pending := by
    intro process call isPending
    have unanswered : ¬ ∀ reaction, (system.shared.answer reaction call).isSome :=
      fun answered => cannotMove (canMove_of_answered isPending (arePrompt _ _ isPending) answered)
    obtain ⟨reaction, unanswered⟩ := not_forall.1 unanswered
    obtain ⟨lock, rfl, isTaken⟩ := Shared.eq_acquire_of_unanswered unanswered
    obtain ⟨name, isFound⟩ := ordered.isFound process lock isPending
    have inside := accounted.named.exists_lock name lock (Or.inr isFound)
    obtain ⟨other, isHeld⟩ := accounted.kept.holder lock inside isTaken
    obtain ⟨next, isPending'⟩ := pending_of_held traced handles isHeld
    exact ⟨other, next, ⟨lock, isPending, isHeld⟩, isPending'⟩
  cases someone : system.pending with
  | nil => exact isStuck (isOver_or_canMove traced areBusy someone)
  | cons pending rest =>
      obtain ⟨process, call⟩ := pending
      have isPending : (process, call) ∈ system.pending := someone ▸ List.mem_cons_self
      obtain ⟨second, _, waits, isPending⟩ := isBlocked process call isPending
      obtain ⟨third, _, waits', isPending⟩ := isBlocked second _ isPending
      obtain ⟨fourth, _, waits'', -⟩ := isBlocked third _ isPending
      exact ordered.not_waitsFor waits waits' waits''

/-- Two ticks that overlap: the first is about to give back the lock that the second waits for. -/
def exampleOverlap : List (Deed spending) :=
  let next (index : Nat) (spot : Spot) : Deed spending :=
    .turn (.proceed index spot ⟨(), none, fun _ => false⟩)
  let settle (index : Nat) (position : Option Nat) : Deed spending := .turn (.settle index position)
  let opened (index : Nat) : List (Deed spending) :=
    [.turn (.begin default)] ++ List.replicate 3 (next index .tick) ++
      [settle index none, settle index (some 0)]
  opened 0 ++ List.replicate 11 (next 0 (.visit 0 0)) ++ opened 1 ++ [next 1 (.visit 0 0)]

attribute [local instance] UrlParser.refusing

theorem performAll_deadlockFree_exampleOverlap :
    let system := (start (.ofAgents [.watcher]) .empty ()).performAll .standard exampleOverlap
    let visit (index : Nat) : Process := .job (.visit ⟨index, "a", "x"⟩)
    system.WaitsFor (visit 1) (visit 0) ∧ ¬ system.WaitsFor (visit 0) (visit 1) ∧
      system.CanMove .standard := by
  intro system visit
  have waits : system.WaitsFor (visit 1) (visit 0) :=
    ⟨0, by decide +kernel, by decide +kernel⟩
  have arePrompt : ∀ pending ∈ system.pending, pending.2.isDelayed = false := by decide +kernel
  have goesOn : ¬ ∀ run ∈ system.ticks, run.report?.isSome = true ∨ run.hasOverflowed = true := by
    decide +kernel
  obtain ⟨-, acyclic, progress⟩ :=
    performAll_deadlockFree .standard [.watcher] .empty () exampleOverlap
  refine ⟨waits, fun waits' => acyclic _ (.tail (.single waits) waits'), ?_⟩
  have moves := progress fun process call isPending => arePrompt _ isPending
  exact moves.resolve_left fun isOver => goesOn isOver.ticks

end System

end AdMonitor
