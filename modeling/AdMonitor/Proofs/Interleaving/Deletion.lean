import AdMonitor.Proofs.Interleaving.Collection
import AdMonitor.Proofs.Interleaving.Phases
import AdMonitor.Proofs.Interleaving.Restraint

/-!
# What is left of a deleted agent

A tick that was told of an agent may save a state of it after a deletion has
removed those that there were.  The same tick removes it again: when it looks
for agents that are gone, either it finds the agent gone, or the deletion has
not removed the states of the agent yet.  So nothing is left once everything
has come to its end (`System.performAll_forgets`).
-/

namespace AdMonitor

variable {outside : Outside} {settings : Settings} {id : AgentId} {history : History}
  {entry : Entry} {key : StateKey}

/-! ## Deleted agents -/

/-- Whether an agent was deleted and has not been registered again since. -/
def History.hasDeleted (id : AgentId) : History → Bool
  | [] => false
  | entry :: past =>
      match entry.exchange with
      | ⟨.agents (.delete own), .ok _⟩ => own == id || hasDeleted id past
      | ⟨.agents (.create agent), .ok _⟩ => agent.id != id && hasDeleted id past
      | _ => hasDeleted id past

namespace History

/-- An agent that is deleted has just been, or it was already and has not been put back. -/
theorem hasDeleted_cons (isDeleted : hasDeleted id (entry :: history) = true) :
    (∃ existed, entry.exchange = ⟨.agents (.delete id), .ok existed⟩) ∨
      history.hasDeleted id = true ∧ ¬ entry.exchange.Replaces id := by
  obtain ⟨actor, exchange⟩ := entry
  simp only [hasDeleted] at isDeleted
  split at isDeleted
  · rename_i own existed
    by_cases same : own = id
    · exact Or.inl ⟨existed, by rw [same]⟩
    · exact Or.inr ⟨by simpa [same] using isDeleted, same⟩
  · rename_i agent answer
    rw [Bool.and_eq_true, bne_iff_ne] at isDeleted
    exact Or.inr ⟨isDeleted.2, isDeleted.1⟩
  · rename_i notDelete notCreate
    refine Or.inr ⟨isDeleted, fun replaces => ?_⟩
    unfold Exchange.Replaces at replaces
    split at replaces
    · exact notCreate _ _ ‹_›
    · exact notDelete _ _ ‹_›
    · exact replaces

/-- An agent that has come to be deleted was deleted at some point. -/
theorem exists_deleted {newer past : History} (isDeleted : hasDeleted id (newer ++ past) = true)
    (isKept : hasDeleted id past = false) :
    ∃ later actor existed rest,
      newer = later ++ ⟨actor, ⟨.agents (.delete id), .ok existed⟩⟩ :: rest := by
  induction newer with
  | nil => cases isKept.symm.trans isDeleted
  | cons entry newer ih =>
      rcases hasDeleted_cons isDeleted with ⟨existed, same⟩ | ⟨older, -⟩
      · obtain ⟨actor, exchange⟩ := entry
        obtain rfl : exchange = _ := same
        exact ⟨[], actor, existed, newer, rfl⟩
      · obtain ⟨later, actor, existed, rest, rfl⟩ := ih older
        exact ⟨entry :: later, actor, existed, rest, rfl⟩

/-- Either no state was saved for a key, or one was saved last. -/
theorem saves_cases (key : StateKey) (history : History) : saves key history = [] ∨
    ∃ newer entry past state, history = newer ++ entry :: past ∧ saves key newer = [] ∧
      entry.exchange.saved? key = some state := by
  induction history with
  | nil => exact Or.inl rfl
  | cons entry rest ih =>
      cases saved : entry.exchange.saved? key with
      | some state => exact Or.inr ⟨[], entry, rest, state, rfl, rfl, saved⟩
      | none =>
          rcases ih with unsaved | ⟨newer, last, past, state, rfl, unsaved, isLast⟩
          · exact Or.inl ((saves_cons_none saved).trans unsaved)
          · exact Or.inr ⟨entry :: newer, last, past, state, rfl,
              (saves_cons_none saved).trans unsaved, isLast⟩

end History

/-- A deletion goes on to remove the states of the agent, once this is gone. -/
theorem AgentStore.removes_of_dismiss {exchanges later early : List Exchange}
    {result : Except Failure Bool} {existed : Bool}
    (ends : (AgentStore.dismiss id).Ends exchanges result)
    (parts : exchanges = later ++ ⟨.agents (.delete id), .ok existed⟩ :: early) :
    ∃ answer, (⟨.states (.remove id), answer⟩ : Exchange) ∈ later := by
  obtain ⟨answer, rest, rfl, goesOn⟩ := Program.ends_ask_iff.1 ends
  have isFirst : (∀ exchange ∈ rest, exchange.call ≠ .agents (.delete id)) → later = rest := by
    intro differs
    rcases List.eq_nil_or_concat early with rfl | ⟨others, last, rfl⟩
    · exact (List.append_inj_left' parts rfl).symm
    · rw [List.concat_eq_append, ← List.cons_append, ← List.append_assoc] at parts
      have found := List.append_inj_left' parts rfl
      exact absurd rfl (differs ⟨.agents (.delete id), .ok existed⟩ (found ▸ by simp))
  cases answer with
  | error failure =>
      obtain ⟨rfl, -⟩ := Program.ends_done_iff.1 goesOn
      obtain rfl := isFirst (List.forall_mem_nil _)
      cases parts
  | ok found =>
      obtain ⟨answer, last, rfl, announces⟩ := Program.ends_ask_iff.1 goesOn
      have others : ∀ exchange ∈ last, exchange.call ≠ .agents (.delete id) := by
        cases answer with
        | error failure =>
            obtain ⟨rfl, -⟩ := Program.ends_done_iff.1 announces
            exact List.forall_mem_nil _
        | ok removed =>
            obtain ⟨_, announced, rfl, returns⟩ := Program.ends_ask_iff.1 announces
            dsimp only at returns
            split at returns
            · obtain ⟨_, none, rfl, rest⟩ := Program.ends_ask_iff.1 returns
              obtain ⟨rfl, -⟩ := Program.ends_done_iff.1 rest
              simp
            · obtain ⟨rfl, -⟩ := Program.ends_done_iff.1 returns
              simp
      rw [isFirst (List.forall_mem_append.2 ⟨others, by simp⟩)]
      exact ⟨answer, List.mem_append_right _ (List.mem_singleton_self _)⟩

/-- Only a request to delete an agent deletes it. -/
theorem Request.eq_delete {request : Request} (makes : request.Makes (.agents (.delete id))) :
    request = .delete id := by
  cases request with
  | register agent => cases makes
  | delete own => exact congrArg Request.delete (Eq.symm makes)
  | explain own => rcases makes with isReading | isOpening <;> contradiction

/-- Only visits save states. -/
theorem Request.not_put {request : Request} {state : TargetState} :
    ¬ request.Makes (.states (.put key state)) := by
  intro makes
  cases request with
  | register agent => cases makes
  | delete own => cases makes
  | explain own => rcases makes with isReading | isOpening <;> contradiction

/-! ## What the log tells of deletions -/

namespace Shared

variable {shared after : Shared outside} {reaction : Reaction outside} {exchange : Exchange}

theorem get?_of_delete {existed : Bool}
    (answered : shared.answer reaction (.agents (.delete id)) = some (.ok existed, after)) :
    Table.get? after.agents id = none := by
  rcases answer_agents answered with ⟨⟨failure, wrong⟩, -⟩ | ⟨agents, isAnswer, rfl⟩
  · cases wrong
  · cases isAnswer
    exact Table.get?_erase.trans (if_pos rfl)

/-- An agent that a call tells of is stored. -/
theorem stored_of_list (keyed : shared.agents.IsKeyed) {known : List Agent}
    (answered : shared.answer reaction (.agents .list) = some (.ok known, after)) {agent : Agent}
    (isKnown : agent ∈ known) : Table.get? shared.agents agent.id = some agent := by
  rcases answer_agents answered with ⟨⟨failure, wrong⟩, -⟩ | ⟨_, isAnswer, -⟩
  · cases wrong
  · cases isAnswer
    obtain ⟨id, isStored⟩ := AgentStore.mem_agents.1 isKnown
    rwa [keyed id agent isStored]

end Shared

namespace System

variable {system after : System outside}

/-- What has become of agents that were deleted and of states that were removed. -/
structure Forgets (system : System outside) : Prop where
  absent : ∀ id, History.hasDeleted id system.log = true →
    Table.get? system.shared.agents id = none
  /-- Nobody is told of an agent that is gone. -/
  told : ∀ actor known past agent,
    ⟨actor, ⟨.agents .list, .ok known⟩⟩ :: past <:+ system.log → agent ∈ known →
      History.hasDeleted agent.id past = false
  cleared : ∀ key newer past, system.log = newer ++ past → History.saves key newer = [] →
    (∃ entry ∈ newer, entry.exchange.Clears key) → Table.get? system.shared.states key = none

theorem start_forgets {agents : AgentStore} {states : StateStore} {world : outside.World} :
    (start agents states world).Forgets where
  absent _ := nofun
  told _ _ _ _ isPast := absurd (List.suffix_nil.1 isPast) (List.cons_ne_nil _ _)
  cleared key newer past isAll unsaved cleared := by
    obtain ⟨rfl, -⟩ := List.append_eq_nil_iff.1 isAll.symm
    simp at cleared

theorem Forgets.changes (forgets : system.Forgets) (keyed : system.shared.agents.IsKeyed)
    {deed : Deed outside} (changes : system.Changes after deed) : after.Forgets := by
  obtain ⟨absent, told, cleared⟩ := forgets
  cases changes with
  | none deed log shared => exact ⟨shared ▸ log ▸ absent, log ▸ told, shared ▸ log ▸ cleared⟩
  | call deed entry reaction log answered goesOn =>
      obtain ⟨actor, exchange⟩ := entry
      refine ⟨fun id isDeleted => ?_, fun other known past agent isPast isKnown => ?_,
        fun key newer past isAll unsaved isCleared => ?_⟩
      · rw [log] at isDeleted
        rcases History.hasDeleted_cons isDeleted with ⟨existed, same⟩ | ⟨older, notReplaces⟩
        · obtain rfl : exchange = _ := same
          exact Shared.get?_of_delete answered
        · have same := Shared.unmarked_of_answer answered notReplaces
          rw [absent id older] at same
          exact Option.map_eq_none_iff.1 same
      · rw [log] at isPast
        rcases List.suffix_cons_iff.1 isPast with same | older
        · cases same
          refine Bool.eq_false_iff.2 fun isDeleted => ?_
          have isStored := Shared.stored_of_list keyed answered isKnown
          rw [absent _ isDeleted] at isStored
          cases isStored
        · exact told other known past agent older isKnown
      · rw [log] at isAll
        rcases List.cons_eq_append_iff.1 isAll with ⟨rfl, -⟩ | ⟨newer, rfl, parts⟩
        · simp at isCleared
        · have isUnsaved : exchange.saved? key = Option.none :=
            List.filterMap_eq_nil_iff.1 unsaved _ List.mem_cons_self
          rw [History.saves_cons_none isUnsaved] at unsaved
          obtain ⟨entry, found, clears⟩ := isCleared
          rcases List.mem_cons.1 found with rfl | older
          · exact Shared.get?_of_clears answered clears
          · exact Shared.get?_of_none answered isUnsaved
              (cleared key newer past parts unsaved ⟨entry, older, clears⟩)
  | edit agent now log updated states =>
      refine ⟨fun id isDeleted => ?_, log ▸ told, states ▸ log ▸ cleared⟩
      obtain ⟨stored, isStored⟩ := AgentStore.stored_of_update updated
      obtain ⟨changed, -, -, isAfter⟩ := AgentStore.update_cases updated
      have wasNone := absent id (log ▸ isDeleted)
      have differs : id ≠ agent.id := by
        rintro rfl
        cases isStored.symm.trans wasNone
      rw [isAfter, Table.get?_insert, if_neg differs, wasNone]

theorem Forgets.performAll [UrlParser] (forgets : system.Forgets) (traced : system.Traced settings)
    (deeds : List (Deed outside)) : (system.performAll settings deeds).Forgets := by
  induction deeds generalizing system with
  | nil => exact forgets
  | cons deed rest ih =>
      exact ih (forgets.changes traced.keyed (traced.changes deed)) (traced.perform deed)

/-! ## Nothing is left -/

/-- Whether all deletions of an agent that were asked for have come to their end. -/
def HasServed (system : System outside) (requests : List Request) (id : AgentId) : Prop :=
  ∀ index : Nat, requests[index]? = some (.delete id) →
    (system.requests[index]?.bind Program.value?).isSome = true

section Ends

variable [UrlParser] {requests : List Request} (traced : system.Traced settings)
  (handles : system.Handles settings requests)
  (succeeds : ∀ entry ∈ system.log, entry.exchange.isLapse = false)
  (served : system.HasServed requests key.agent)
  (isDeleted : History.hasDeleted key.agent system.log = true) {newer past : History}

include traced handles succeeds served isDeleted

/-- The states that an agent had when it was deleted have been removed since. -/
theorem clears_of_deleted (parts : system.log = newer ++ past)
    (isKept : History.hasDeleted key.agent past = false) :
    ∃ entry ∈ newer, entry.exchange.Clears key := by
  rw [parts] at isDeleted
  obtain ⟨later, actor, existed, rest, rfl⟩ := History.exists_deleted isDeleted isKept
  have logged : ⟨actor, ⟨.agents (.delete key.agent), .ok existed⟩⟩ ∈ system.log := by
    simp [parts]
  rcases origin traced handles logged with ⟨index, run, -, belongs⟩ |
    ⟨index, request, isActor, isRequest, makes⟩
  · exact absurd rfl (belongs.not_replaces key.agent)
  · obtain rfl : actor = .request index := isActor
    obtain rfl := Request.eq_delete makes
    obtain ⟨value, isOver⟩ := Option.isSome_iff_exists.1 (served index isRequest)
    obtain ⟨job, isJob, isOver⟩ := Option.bind_eq_some_iff.1 isOver
    obtain rfl := Program.eq_done isOver
    obtain ⟨result, none, exchanges, isAll, dismissed, returns⟩ :=
      Program.ends_bind_iff.1 (handles.each index _ _ isRequest isJob)
    obtain ⟨rfl, -⟩ := Program.ends_done_iff.1 returns
    rw [parts, List.append_assoc, List.cons_append, History.ofRequest_append,
      History.ofRequest_cons_own rfl, List.nil_append] at isAll
    obtain ⟨answer, found⟩ := AgentStore.removes_of_dismiss dismissed isAll.symm
    have isLater := History.mem_ofRequest.1 found
    cases answer with
    | error failure =>
        cases succeeds ⟨.request index, ⟨.states (.remove key.agent), .error failure⟩⟩
          (by simp [parts, isLater])
    | ok removed => exact ⟨_, List.mem_append_left _ isLater, beq_self_eq_true key.agent⟩

/-- A state that was saved by a tick that is over has been removed since. -/
theorem clears_of_saved (forgets : system.Forgets) (staged : system.Staged)
    (isQuiet : system.isQuiet = true) {entry : Entry} {state : TargetState}
    (parts : system.log = newer ++ entry :: past)
    (saved : entry.exchange.saved? key = some state) :
    ∃ entry ∈ newer, entry.exchange.Clears key := by
  have logged : entry ∈ system.log := by simp [parts]
  rcases origin traced handles logged with ⟨index, run, isTick, belongs⟩ |
    ⟨index, request, -, -, makes⟩
  · obtain ⟨agent, -, -, -, visit, isActor, isKey⟩ := belongs.saved_cases saved
    have isOwn : entry.owner? = some (index, key.agent) := by
      rw [Entry.owner?, isActor, ← isKey]
      rfl
    have isOver := isSome_of_isQuiet isQuiet (List.getElem?_eq_some_iff.1 isTick).1
    rw [isTick, Option.bind_some] at isOver
    obtain ⟨report, isOver⟩ := Option.isSome_iff_exists.1 isOver
    obtain ⟨exchanges, collected, deleted, areNewer⟩ := History.collects_after
      (parts ▸ staged index run isTick) (parts ▸ (traced.ticks index run isTick).yields isOver)
      isOwn
    obtain ⟨known, listed, clears⟩ := Slot.clears_of_collectDeleted deleted
      fun exchange found => (areNewer exchange found).elim fun actor isNewer =>
        succeeds _ (parts ▸ List.mem_append_left _ isNewer)
    by_cases isKnown : ∃ agent ∈ known, agent.id = key.agent
    · -- The agent was deleted after the tick was told that it was there.
      obtain ⟨agent, isKnown, isId⟩ := isKnown
      obtain ⟨actor, listed⟩ := areNewer _ listed
      obtain ⟨front, back, rfl⟩ := List.append_of_mem listed
      rw [List.append_assoc, List.cons_append] at parts
      have isKept := forgets.told actor known _ agent (parts ▸ List.suffix_append ..) isKnown
      rw [isId] at isKept
      obtain ⟨cleared, found, clears⟩ :=
        clears_of_deleted traced handles succeeds served isDeleted parts isKept
      exact ⟨cleared, List.mem_append_left _ found, clears⟩
    · obtain ⟨exchange, found, clears⟩ := clears key (by simpa using isKnown)
      obtain ⟨actor, isNewer⟩ := areNewer exchange found
      exact ⟨_, isNewer, clears⟩
  · rw [Exchange.saved?_eq_some.1 saved] at makes
    exact absurd makes Request.not_put

end Ends

/-- An agent is deleted while its only target is visited, and the visit saves a state afterwards. -/
def exampleDeletion : List (Deed spending) :=
  let next (spot : Spot) : Deed spending := .turn (.proceed 0 spot ⟨(), none, fun _ => false⟩)
  let settle (position : Option Nat) : Deed spending := .turn (.settle 0 position)
  [.turn (.begin default)] ++ List.replicate 3 (next .tick) ++ [settle none, settle (some 0)] ++
    List.replicate 5 (next (.visit 0 0)) ++ [.submit (.delete "a")] ++
    List.replicate 3 (.serve 0 ⟨(), none, fun _ => false⟩) ++
    List.replicate 7 (next (.visit 0 0)) ++ [settle (some 0)] ++
    List.replicate 2 (next (.agent 0)) ++ [settle (some 0), settle none] ++
    List.replicate 7 (next .tick) ++ [settle none]

attribute [local instance] UrlParser.refusing

end System

end AdMonitor
