import AdMonitor.Proofs.Interleaving.Provenance

/-!
# The order of the work of a tick

What is done for the agents of a tick is done after the tick was told of them,
and before the tick begins to collect what is left over (`History.phases`).
-/

namespace AdMonitor

variable {outside : Outside} {settings : Settings} {slot : Slot} {index : Nat}
  {history : History} {entry : Entry}

/-- Whether a tick had been told of its agents whenever something was done for one of them. -/
def Slot.Staged (index : Nat) (history : History) (slot : Slot) : Prop :=
  ∀ entry past, entry :: past <:+ history → ∀ id, entry.owner? = some (index, id) →
    ∃ opening, slot.openTick.Ends (History.ofJob (.tick index) past) opening

theorem Slot.Staged.cons (staged : slot.Staged index history)
    (opened : ∀ id, entry.owner? = some (index, id) →
      ∃ opening, slot.openTick.Ends (history.ofJob (.tick index)) opening) :
    slot.Staged index (entry :: history) := by
  intro other past isPast id isOwn
  rcases List.suffix_cons_iff.1 isPast with same | older
  · cases same
    exact opened id isOwn
  · exact staged other past older id isOwn

namespace TickRun

variable {run next : TickRun Program} {shared after : Shared outside}
  {reaction : Reaction outside}

/-- Something is done for an agent only while a tick is at work on its agents. -/
theorem Traced.opened_of_proceed [UrlParser] (traced : run.Traced settings index history)
    {spot : Spot}
    (found : run.proceed settings index shared reaction spot = some (entry, next, after))
    {id : AgentId} (isOwn : entry.owner? = some (index, id)) :
    ∃ opening, run.slot.openTick.Ends (history.ofJob (.tick index)) opening := by
  obtain ⟨slot, phase⟩ := run
  cases phase with
  | working pool =>
      obtain ⟨agents, opened, -⟩ := traced
      exact ⟨_, opened⟩
  | opening job | closing job =>
      cases spot with
      | agent | visit => cases found
      | tick =>
          obtain ⟨⟨exchange, job', shared'⟩, -, same⟩ := Option.bind_eq_some_iff.1 found
          cases same
          cases isOwn
  | closed report => cases spot <;> cases found

end TickRun

namespace System

variable {system : System outside}

/-- Whether every tick of a system was told of its agents before anything was done for them. -/
def Staged (system : System outside) : Prop :=
  ∀ (index : Nat) (run : TickRun Program), system.ticks[index]? = some run →
    run.slot.Staged index system.log

theorem start_staged {agents : AgentStore} {states : StateStore} {world : outside.World} :
    (start agents states world).Staged := fun _ _ => nofun

namespace Staged

theorem begin [UrlParser] (staged : system.Staged) (traced : system.Traced settings) (slot : Slot) :
    Staged { system with ticks := system.ticks ++ [.start slot] } := by
  intro index run found
  by_cases inside : index < system.ticks.length
  · rw [List.getElem?_append_left inside] at found
    exact staged index run found
  · intro entry past isPast id isOwn
    have logged : entry ∈ system.log := isPast.subset List.mem_cons_self
    exact absurd isOwn
      ((traced.begun entry logged index (Nat.le_of_not_lt inside)).owner?_ne id)

theorem modify (staged : system.Staged) {index : Nat} {change : TickRun Program → TickRun Program}
    (keeps : ∀ run, (change run).slot = run.slot) :
    Staged { system with ticks := system.ticks.modify index change } := by
  intro other run found
  rw [List.getElem?_modify] at found
  obtain ⟨before, isBefore, rfl⟩ := Option.map_eq_some_iff.1 found
  have isStaged := staged other before isBefore
  by_cases isIndex : index = other
  · rw [if_pos isIndex, keeps]
    exact isStaged
  · rw [if_neg isIndex]
    exact isStaged

theorem proceed [UrlParser] (staged : system.Staged) (traced : system.Traced settings) {index : Nat}
    {run next : TickRun Program} {spot : Spot} {reaction : Reaction outside} {entry : Entry}
    {shared : Shared outside} (isTick : system.ticks[index]? = some run)
    (found : run.proceed settings index system.shared reaction spot =
      some (entry, next, shared)) :
    Staged { system with
      ticks := system.ticks.set index next, shared, log := entry :: system.log } := by
  have isTraced := traced.ticks index run isTick
  obtain ⟨⟨job, isJob, isIndex⟩, -⟩ := isTraced.proceed found
  intro other own isOwn
  by_cases same : index = other
  · subst same
    rw [List.getElem?_set_self (List.getElem?_eq_some_iff.1 isTick).1] at isOwn
    cases isOwn
    rw [TickRun.slot_proceed found]
    exact (staged index run isTick).cons fun id => isTraced.opened_of_proceed found
  · rw [List.getElem?_set_ne same] at isOwn
    refine (staged other own isOwn).cons fun id isOwner => absurd ?_ same
    obtain ⟨job', isJob', isOwner⟩ := Option.bind_eq_some_iff.1 isOwner
    rw [isJob] at isJob'
    cases isJob'
    exact isIndex.symm.trans (JobId.index_eq_of_owner? isOwner)

theorem perform [UrlParser] (staged : system.Staged) (traced : system.Traced settings)
    (deed : Deed outside) : (system.perform settings deed).Staged := by
  cases deed with
  | turn turn =>
      cases turn with
      | begin now => exact staged.begin traced (settings.slot now)
      | settle index position =>
          cases position with
          | none => exact staged.modify fun run => run.slot_settle
          | some position => exact staged.modify fun run => run.slot_settleAgent position
      | proceed index spot reaction =>
          simp only [System.perform, System.take]
          split
          · exact staged
          · rename_i entry next shared found
            obtain ⟨run, isTick, proceeds⟩ := Option.bind_eq_some_iff.1 found
            exact staged.proceed traced isTick proceeds
  | submit request => exact staged
  | serve index reaction =>
      simp only [System.perform]
      split
      · exact staged
      · intro other run isTick
        refine (staged other run isTick).cons fun id isOwn => ?_
        cases isOwn
  | update agent now =>
      simp only [System.perform]
      split <;> exact staged

end Staged

/-- Whatever happens, ticks are told of their agents before anything is done for these. -/
theorem performAll_staged [UrlParser] (staged : system.Staged) (traced : system.Traced settings)
    (deeds : List (Deed outside)) : (system.performAll settings deeds).Staged := by
  induction deeds generalizing system with
  | nil => exact staged
  | cons deed rest ih => exact ih (staged.perform traced deed) (traced.perform deed)

end System

def Entry.serves (index : Nat) (entry : Entry) : Bool :=
  entry.owner?.any fun owner => owner.1 == index

theorem Entry.serves_iff : entry.serves index = true ↔ ∃ id, entry.owner? = some (index, id) := by
  rw [Entry.serves, Option.any_eq_true]
  constructor
  · rintro ⟨⟨own, id⟩, isOwn, same⟩
    exact ⟨id, beq_iff_eq.1 same ▸ isOwn⟩
  · rintro ⟨id, isOwn⟩
    exact ⟨_, isOwn, beq_self_eq_true index⟩

namespace History

theorem leaves_iff : (∀ id, history.Leaves index id) ↔
    ∀ entry ∈ history, entry.serves index = false := by
  constructor
  · refine fun leaves entry found => Bool.eq_false_iff.2 fun serves => ?_
    obtain ⟨id, isOwn⟩ := Entry.serves_iff.1 serves
    exact leaves id entry found isOwn
  · intro free id entry found isOwn
    exact Bool.eq_false_iff.1 (free entry found) (Entry.serves_iff.2 ⟨id, isOwn⟩)

section Parts

variable {newer past : History} {later early : List Exchange} {opening : Slot.Opening}
  {id : AgentId}

theorem ofJob_append {job : JobId} :
    ofJob job (newer ++ past) = ofJob job newer ++ ofJob job past :=
  List.filterMap_append

/-- What is done for an agent comes between the opening and the closing of its tick. -/
theorem ofJob_of_owner (staged : slot.Staged index (newer ++ entry :: past))
    (parts : ofJob (.tick index) (newer ++ entry :: past) = later ++ early)
    (opened : slot.openTick.Ends early opening) (isOwn : entry.owner? = some (index, id)) :
    ofJob (.tick index) newer = later ∧ ofJob (.tick index) past = early := by
  obtain ⟨own, isOpened⟩ := staged entry past (List.suffix_append ..) id isOwn
  have isOther : entry.actor.job? ≠ some (.tick index) := by
    intro isTick
    rw [Entry.owner?, isTick] at isOwn
    cases isOwn
  rw [ofJob_append, ofJob_cons_other isOther] at parts
  have same : ofJob (.tick index) past = early := isOpened.eq_of_suffix opened
    (parts ▸ List.suffix_append ..) (List.suffix_append ..)
  rw [same] at parts
  exact ⟨List.append_cancel_right parts, same⟩

/-- Whenever something was done for an agent, the tick has gone on to look for agents that are
gone. -/
theorem collects_after [UrlParser] {report : TickReport}
    (staged : slot.Staged index (newer ++ entry :: past))
    (yields : slot.Yields settings index (newer ++ entry :: past) report)
    (isOwn : entry.owner? = some (index, id)) :
    ∃ exchanges collected, Slot.collectDeleted.Ends exchanges collected ∧
      ∀ exchange ∈ exchanges, ∃ actor, ⟨actor, exchange⟩ ∈ newer := by
  cases yields with
  | failed startedAt report opened leaves =>
      exact absurd isOwn (leaves id entry (List.mem_append_right _ List.mem_cons_self))
  | finished agents pool report later early parts opened worked isDone closed =>
      obtain ⟨isLater, -⟩ := ofJob_of_owner staged parts opened isOwn
      obtain ⟨collected, exchanges, finishedAt, deleted, -, rfl⟩ := Slot.ends_closeTick closed
      refine ⟨exchanges, collected, deleted, fun exchange found => ?_⟩
      have isNewer := isLater.symm ▸ List.mem_append_right _ found
      obtain ⟨actor, isNewer, -⟩ := mem_ofJob.1 isNewer
      exact ⟨actor, isNewer⟩

end Parts

def ofTick (index : Nat) (history : History) : History :=
  history.filter fun entry => entry.actor.job?.any fun job => job.index == index

theorem mem_ofTick : entry ∈ history.ofTick index ↔
    entry ∈ history ∧ ∃ job, entry.actor.job? = some job ∧ job.index = index := by
  rw [ofTick, List.mem_filter, Option.any_eq_true]
  simp only [beq_iff_eq]

theorem ofJob_ofTick {job : JobId} (isIndex : job.index = index) :
    ofJob job (ofTick index history) = ofJob job history := by
  rw [ofJob, ofTick, List.filterMap_filter]
  refine List.filterMap_congr fun entry _ => ?_
  by_cases isJob : entry.actor.job? = some job
  · simp [isJob, isIndex]
  · simp [isJob]

/-- What was done in a tick, but for none of its agents, was done by the tick itself. -/
theorem Leaves.ofTick_eq (leaves : ∀ id, history.Leaves index id) :
    history.ofTick index =
      (history.ofJob (.tick index)).map fun exchange => ⟨.tick index, exchange⟩ := by
  induction history with
  | nil => rfl
  | cons entry rest ih =>
      have isFree : ∀ id, entry.owner? ≠ some (index, id) :=
        fun id => leaves id entry List.mem_cons_self
      have others := ih fun id => (List.forall_mem_cons.1 (leaves id)).2
      by_cases isTick : entry.actor.job? = some (.tick index)
      · obtain ⟨actor, exchange⟩ := entry
        obtain rfl : actor = .tick index := by
          cases actor <;> cases isTick
          rfl
        rw [ofJob_cons_own rfl, List.map_cons, ← others]
        simp [ofTick, Actor.job?, JobId.index]
      · rw [ofJob_cons_other isTick, ← others, ofTick, List.filter_cons_of_neg, ofTick]
        rw [Option.any_eq_true]
        rintro ⟨job, isJob, isIndex⟩
        obtain rfl : job.index = index := beq_iff_eq.1 isIndex
        rcases Entry.job?_cases isJob with isActor | ⟨id, isOwn⟩
        · exact isTick (isActor ▸ rfl)
        · exact isFree id isOwn

/-- Of the entries with some property the first and the last one, unless there is none. -/
theorem exists_first_last {test : Entry → Bool} (found : ∃ entry ∈ history, test entry = true) :
    ∃ front middle back : History, history = front ++ middle ++ back ∧
      (∀ entry ∈ front ++ back, test entry = false) ∧
      (∃ first rest, middle = first :: rest ∧ test first = true) ∧
      ∃ rest last, middle = rest ++ [last] ∧ test last = true := by
  obtain ⟨first, isFirst⟩ := Option.isSome_iff_exists.1 (List.find?_isSome.2 found)
  obtain ⟨holds, front, past, rfl, isFront⟩ := List.find?_eq_some_iff_append.1 isFirst
  have inside : ∃ entry ∈ (first :: past).reverse, test entry = true :=
    ⟨first, by simp, holds⟩
  obtain ⟨last, isLast⟩ := Option.isSome_iff_exists.1 (List.find?_isSome.2 inside)
  obtain ⟨holdsLast, back, rest, parts, isBack⟩ := List.find?_eq_some_iff_append.1 isLast
  have parts : first :: past = rest.reverse ++ [last] ++ back.reverse := by
    rw [← List.reverse_reverse (first :: past), parts]
    simp
  refine ⟨front, rest.reverse ++ [last], back.reverse, ?_, fun entry found => ?_, ?_, _, _, rfl,
    holdsLast⟩
  · rw [parts, List.append_assoc front]
  · rcases List.mem_append.1 found with early | late
    · simpa using isFront entry early
    · simpa using isBack entry (List.mem_reverse.1 late)
  · cases isMiddle : rest.reverse with
    | nil =>
        rw [isMiddle] at parts
        cases parts
        exact ⟨first, [], rfl, holds⟩
    | cons own others =>
        rw [isMiddle] at parts
        cases parts
        exact ⟨first, _, rfl, holds⟩

/--
The log of a tick that was told of its agents: first its opening, then what was
done for the agents, and then its closing.
-/
theorem phases (staged : slot.Staged index history) {later early : List Exchange}
    {opening : Slot.Opening} (parts : history.ofJob (.tick index) = later ++ early)
    (opened : slot.openTick.Ends early opening) :
    ∃ worked : History, (∀ entry ∈ worked, ∃ id, entry.owner? = some (index, id)) ∧
      history.ofTick index = later.map (⟨.tick index, ·⟩) ++ worked ++
        early.map (⟨.tick index, ·⟩) := by
  by_cases found : ∃ entry ∈ history, entry.serves index = true
  · obtain ⟨front, middle, back, rfl, free, ⟨first, past, isMiddle, isFirst⟩, rest, last, same,
      isLast⟩ := exists_first_last found
    obtain ⟨freeFront, freeBack⟩ := List.forall_mem_append.1 free
    obtain ⟨id, isOwn⟩ := Entry.serves_iff.1 isFirst
    obtain ⟨own, isOwner⟩ := Entry.serves_iff.1 isLast
    have isLater : ofJob (.tick index) front = later := by
      rw [isMiddle, List.append_assoc, List.cons_append] at staged parts
      exact (ofJob_of_owner staged parts opened isOwn).1
    have ⟨isAll, isEarly⟩ : ofJob (.tick index) (front ++ rest) = later ∧
        ofJob (.tick index) back = early := by
      have order : front ++ middle ++ back = front ++ rest ++ last :: back := by simp [same]
      rw [order] at staged parts
      exact ofJob_of_owner staged parts opened isOwner
    have nothing : ofJob (.tick index) rest = [] := by
      rw [ofJob_append, isLater] at isAll
      exact List.append_right_eq_self.1 isAll
    refine ⟨middle.ofTick index, fun entry found => ?_, ?_⟩
    · obtain ⟨isPart, job, isJob, rfl⟩ := mem_ofTick.1 found
      rcases Entry.job?_cases isJob with isTick | isOwn
      · rw [same] at isPart
        rcases List.mem_append.1 isPart with early | late
        · have wrong : entry.exchange ∈ ofJob (.tick job.index) rest :=
            mem_ofJob.2 ⟨_, early, congrArg Actor.job? isTick⟩
          exact absurd wrong (nothing ▸ List.not_mem_nil)
        · rw [List.mem_singleton.1 late]
          exact ⟨own, isOwner⟩
      · exact isOwn
    · have isFront := Leaves.ofTick_eq (leaves_iff.2 freeFront)
      have isBack := Leaves.ofTick_eq (leaves_iff.2 freeBack)
      rw [← isLater, ← isEarly, ← isFront, ← isBack]
      simp only [ofTick, List.filter_append]
  · have free : ∀ entry ∈ history, entry.serves index = false := by simpa using found
    refine ⟨[], List.forall_mem_nil _, ?_⟩
    rw [Leaves.ofTick_eq (leaves_iff.2 free), parts, List.map_append, List.append_nil]

end History

end AdMonitor
