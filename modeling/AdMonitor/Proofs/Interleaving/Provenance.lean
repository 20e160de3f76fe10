import AdMonitor.Proofs.Interleaving.Requests
import AdMonitor.Proofs.Interleaving.Visits

/-!
# Where calls come from

Every entry of a log was made for a tick that had begun or for a request that
had been submitted, and it is one of the calls that these make
(`System.origin`).  This holds while they are under way as well as afterwards.
A request has made exactly the exchanges that the log has of it.
-/

namespace AdMonitor

variable {outside : Outside} {settings : Settings} {slot : Slot} {index : Nat}
  {history : History} {entry : Entry}

/-! ## Ticks under way -/

namespace Entry

/-- What is done for an agent is done by its own programs or by one of its visits. -/
theorem owner?_cases {id : AgentId} (isOwn : entry.owner? = some (index, id)) :
    entry.actor = .agent index id ∨
      ∃ visit, entry.actor = .visit index visit ∧ visit.key.agent = id := by
  obtain ⟨actor, exchange⟩ := entry
  cases actor with
  | tick | request => cases isOwn
  | agent =>
      cases isOwn
      exact Or.inl rfl
  | visit own visit =>
      cases isOwn
      exact Or.inr ⟨visit, rfl, rfl⟩

/-- What is done in a tick is done by the tick itself or for one of its agents. -/
theorem job?_cases {job : JobId} (isJob : entry.actor.job? = some job) :
    entry.actor = .tick job.index ∨ ∃ id, entry.owner? = some (job.index, id) := by
  obtain ⟨actor, exchange⟩ := entry
  cases actor with
  | request => cases isJob
  | tick =>
      cases isJob
      exact Or.inl rfl
  | agent | visit =>
      cases isJob
      exact Or.inr ⟨_, rfl⟩

end Entry

/-- What is done for an agent that is being worked on belongs to its tick. -/
theorem AgentRun.Traced.belongs [UrlParser] {run : AgentRun Program}
    (traced : run.Traced settings slot index history) (isTold : history.Tells index run.agent)
    (logged : entry ∈ history) (isOwn : entry.owner? = some (index, run.agent.id)) :
    entry.Belongs settings slot index history := by
  rcases Entry.owner?_cases isOwn with isActor | ⟨visit, isActor, isAgent⟩
  · have found : entry.exchange ∈ history.ofJob (.agent index run.agent.id) :=
      History.mem_ofJob.2 ⟨_, logged, congrArg Actor.job? isActor⟩
    obtain ⟨actor, exchange⟩ := entry
    obtain rfl : actor = .agent index run.agent.id := isActor
    have opens : ∀ {exchanges job},
        (slot.openAgent settings run.agent).Leads exchanges job → exchange ∈ exchanges →
          Entry.Belongs settings slot index history ⟨.agent index run.agent.id, exchange⟩ :=
      fun leads found => .opening run.agent isTold exchange
        (((slot.openAgent_uses settings run.agent).leads leads).1 exchange found)
    obtain ⟨agent, phase⟩ := run
    cases phase with
    | opening job => exact opens traced.1 found
    | visiting targets visits => exact opens traced.1 found
    | closing reports job =>
        obtain ⟨targets, later, early, parts, opened, -, leads⟩ := traced
        rw [parts] at found
        rcases List.mem_append.1 found with isLate | isEarly
        · have uses := (slot.closeAgent_uses agent targets).leads leads
          rw [Slot.keys_of_opened opened] at uses
          exact .closing agent isTold exchange (uses.1 exchange isLate)
        · exact opens opened isEarly
    | closed outcome => exact .of_yields isTold traced logged isOwn
  · obtain ⟨actor, exchange⟩ := entry
    obtain rfl : actor = .visit index visit := isActor
    obtain ⟨targets, visits, ⟨early, -, opened⟩, visited⟩ := traced.attended logged isAgent
    exact .of_visited isTold visited (Slot.keys_of_opened opened) logged isAgent

theorem Pool.Traced.belongs [UrlParser] {agents : List Agent} {pool : Pool Program}
    (worked : pool.Traced settings slot index history agents)
    (told : ⟨.agents .listActive, .ok agents⟩ ∈ history.ofJob (.tick index))
    (logged : entry ∈ history) {id : AgentId} (isOwn : entry.owner? = some (index, id)) :
    entry.Belongs settings slot index history := by
  have isId : id ∈ agents.map Agent.id := by
    by_contra isNone
    exact worked.others id isNone entry logged isOwn
  obtain ⟨agent, isAgent, rfl⟩ := List.mem_map.1 isId
  have isTold : history.Tells index agent := ⟨agents, told, isAgent⟩
  obtain ⟨finished, yields, isPerm⟩ := worked.finished
  rcases List.mem_append.1 (isPerm.symm.subset isAgent) with isDone | isOpen
  · obtain ⟨outcome, -, yields⟩ := forall₂_left yields isDone
    exact .of_yields isTold yields logged isOwn
  · rcases List.mem_append.1 isOpen with isRunning | waits
    · obtain ⟨run, isRun, rfl⟩ := List.mem_map.1 isRunning
      exact (worked.running run isRun).belongs isTold logged isOwn
    · exact absurd isOwn (worked.waiting agent waits entry logged)

/-- Whatever a log has of a tick belongs to it, also while the tick is under way. -/
theorem TickRun.Traced.belongs [UrlParser] {run : TickRun Program}
    (traced : run.Traced settings index history) (logged : entry ∈ history) {job : JobId}
    (isJob : entry.actor.job? = some job) (isIndex : job.index = index) :
    entry.Belongs settings run.slot index history := by
  obtain ⟨slot, phase⟩ := run
  subst isIndex
  cases phase with
  | closed report => exact Slot.Yields.belongs traced logged isJob rfl
  | opening tick =>
      rcases Entry.job?_cases isJob with isActor | ⟨id, isOwn⟩
      · obtain ⟨actor, exchange⟩ := entry
        obtain rfl : actor = .tick job.index := isActor
        obtain ⟨view, path, -⟩ := slot.openTick_follows.path traced.1
        exact .of_path path (List.Subset.refl _) (History.mem_ofJob.2 ⟨_, logged, rfl⟩)
      · exact absurd isOwn (traced.2 id entry logged)
  | working pool =>
      obtain ⟨agents, opened, worked⟩ := traced
      rcases Entry.job?_cases isJob with isActor | ⟨id, isOwn⟩
      · obtain ⟨actor, exchange⟩ := entry
        obtain rfl : actor = .tick job.index := isActor
        obtain ⟨view, path, -⟩ := slot.openTick_follows.path opened
        exact .of_path path (List.Subset.refl _) (History.mem_ofJob.2 ⟨_, logged, rfl⟩)
      · exact worked.belongs (Slot.told_of_opened opened) logged isOwn
  | closing tick =>
      obtain ⟨agents, pool, later, early, parts, opened, worked, -, leads⟩ := traced
      rcases Entry.job?_cases isJob with isActor | ⟨id, isOwn⟩
      · obtain ⟨actor, exchange⟩ := entry
        obtain rfl : actor = .tick job.index := isActor
        have found : exchange ∈ history.ofJob (.tick job.index) :=
          History.mem_ofJob.2 ⟨_, logged, rfl⟩
        rw [parts] at found
        rcases List.mem_append.1 found with isLate | isEarly
        · obtain ⟨view, path, -⟩ := (slot.closeTick_follows _ _).path leads
          exact .of_path path (parts ▸ List.subset_append_left ..) isLate
        · obtain ⟨view, path, -⟩ := slot.openTick_follows.path opened
          exact .of_path path (parts ▸ List.subset_append_right ..) isEarly
      · have told := List.mem_append_right later (Slot.told_of_opened opened)
        exact worked.belongs (parts ▸ told) logged isOwn

/-! ## Requests -/

namespace History

/-- What a request has done so far, the newest exchange first. -/
def ofRequest (index : Nat) (history : History) : List Exchange :=
  history.filterMap fun entry =>
    match entry.actor with
    | .request own => if own = index then some entry.exchange else none
    | _ => none

theorem ofRequest_cons_own (isOwn : entry.actor = .request index) :
    ofRequest index (entry :: history) = entry.exchange :: ofRequest index history := by
  simp [ofRequest, isOwn]

theorem ofRequest_cons_other (isOther : entry.actor ≠ .request index) :
    ofRequest index (entry :: history) = ofRequest index history := by
  obtain ⟨actor, exchange⟩ := entry
  cases actor with
  | request own =>
      have differs : own ≠ index := fun same => isOther (congrArg Actor.request same)
      simp [ofRequest, differs]
  | tick | agent | visit => simp [ofRequest]

theorem ofRequest_append {newer past : History} :
    ofRequest index (newer ++ past) = ofRequest index newer ++ ofRequest index past :=
  List.filterMap_append

theorem mem_ofRequest {exchange : Exchange} :
    exchange ∈ ofRequest index history ↔ ⟨.request index, exchange⟩ ∈ history := by
  induction history with
  | nil => simp [ofRequest]
  | cons entry rest ih =>
      by_cases isOwn : entry.actor = .request index
      · obtain ⟨actor, own⟩ := entry
        obtain rfl : actor = .request index := isOwn
        rw [ofRequest_cons_own rfl, List.mem_cons, List.mem_cons, ih]
        simp
      · rw [ofRequest_cons_other isOwn, ih, List.mem_cons]
        refine (or_iff_right ?_).symm
        rintro rfl
        exact isOwn rfl

end History

def Deed.request? : Deed outside → Option Request
  | .submit request => some request
  | _ => none

namespace System

variable {system : System outside} {requests : List Request}

/-- Whether some requests are those of a system, and have come as far as its log says. -/
structure Handles [UrlParser] (settings : Settings) (requests : List Request)
    (system : System outside) : Prop where
  length : system.requests.length = requests.length
  each : ∀ (index : Nat) request job, requests[index]? = some request →
    system.requests[index]? = some job →
    (request.program settings).Leads (History.ofRequest index system.log) job
  begun : ∀ entry ∈ system.log, ∀ index, entry.actor = .request index → index < requests.length

theorem start_handles [UrlParser] {agents : AgentStore} {states : StateStore}
    {world : outside.World} : (start agents states world).Handles settings [] where
  length := rfl
  each _ _ _ := nofun
  begun := List.forall_mem_nil _

/-- A turn adds to the log at most a call of one of its ticks. -/
theorem Traced.log_take [UrlParser] (traced : system.Traced settings) (turn : Turn outside) :
    (system.take settings turn).log = system.log ∨ ∃ entry job,
      (system.take settings turn).log = entry :: system.log ∧ entry.actor.job? = some job := by
  cases turn with
  | begin now => exact Or.inl rfl
  | settle other position => cases position <;> exact Or.inl rfl
  | proceed other spot reaction =>
      simp only [System.take]
      split
      · exact Or.inl rfl
      · rename_i entry next shared found
        obtain ⟨run, isTick, proceeds⟩ := Option.bind_eq_some_iff.1 found
        obtain ⟨⟨job, isJob, -⟩, -⟩ := (traced.ticks other run isTick).proceed proceeds
        exact Or.inr ⟨entry, job, rfl, isJob⟩

namespace Handles

/-- Calls of ticks are none of the requests. -/
theorem take [UrlParser] (handles : system.Handles settings requests)
    (traced : system.Traced settings) (turn : Turn outside) :
    (system.take settings turn).Handles settings requests := by
  rcases traced.log_take turn with same | ⟨entry, job, log, isJob⟩
  · refine ⟨?_, ?_, ?_⟩
    · rw [requests_take]
      exact handles.length
    · rw [requests_take, same]
      exact handles.each
    · rw [same]
      exact handles.begun
  · have isOther : ∀ index, entry.actor ≠ .request index := by
      intro index isRequest
      rw [isRequest] at isJob
      cases isJob
    refine ⟨?_, fun index request job isRequest isOwn => ?_, ?_⟩
    · rw [requests_take]
      exact handles.length
    · rw [requests_take] at isOwn
      rw [log, History.ofRequest_cons_other (isOther index)]
      exact handles.each index request job isRequest isOwn
    · rw [log]
      exact List.forall_mem_cons.2
        ⟨fun index isRequest => absurd isRequest (isOther index), handles.begun⟩

theorem submit [UrlParser] (handles : system.Handles settings requests) (request : Request) :
    (system.perform settings (.submit request)).Handles settings (requests ++ [request]) where
  length := by simp [System.perform, handles.length]
  each index own job isRequest isOwn := by
    by_cases inside : index < requests.length
    · rw [List.getElem?_append_left inside] at isRequest
      refine handles.each index own job isRequest ?_
      rwa [← List.getElem?_append_left (handles.length ▸ inside)]
    · have beyond := Nat.le_of_not_lt inside
      have nothing : History.ofRequest index system.log = [] := by
        refine List.eq_nil_iff_forall_not_mem.2 fun exchange found => inside ?_
        exact handles.begun _ (History.mem_ofRequest.1 found) index rfl
      simp only [System.perform] at isOwn ⊢
      rw [List.getElem?_append_right beyond] at isRequest
      rw [List.getElem?_append_right (handles.length ▸ beyond)] at isOwn
      cases List.mem_singleton.1 (List.mem_of_getElem? isRequest)
      cases List.mem_singleton.1 (List.mem_of_getElem? isOwn)
      rw [nothing]
      exact .start
  begun entry logged index isRequest := by
    rw [List.length_append]
    exact Nat.lt_add_right _ (handles.begun entry logged index isRequest)

theorem serve [UrlParser] (handles : system.Handles settings requests) {index : Nat}
    {job next : Program Unit} {exchange : Exchange} {shared : Shared outside}
    {reaction : Reaction outside} (isJob : system.requests[index]? = some job)
    (found : system.shared.proceed reaction job = some (exchange, next, shared)) :
    Handles settings requests
      { system with
        requests := system.requests.set index next
        shared
        log := ⟨.request index, exchange⟩ :: system.log } where
  length := by simpa using handles.length
  each other request own isRequest isOwn := by
    by_cases same : index = other
    · subst same
      rw [List.getElem?_set_self (List.getElem?_eq_some_iff.1 isJob).1] at isOwn
      cases isOwn
      rw [History.ofRequest_cons_own rfl]
      exact (handles.each index request job isRequest isJob).proceed found
    · rw [List.getElem?_set_ne same] at isOwn
      rw [History.ofRequest_cons_other fun isRequest => same (Actor.request.inj isRequest)]
      exact handles.each other request own isRequest isOwn
  begun := by
    refine List.forall_mem_cons.2 ⟨fun other isOwn => ?_, handles.begun⟩
    cases isOwn
    exact handles.length ▸ (List.getElem?_eq_some_iff.1 isJob).1

theorem perform [UrlParser] (handles : system.Handles settings requests)
    (traced : system.Traced settings) (deed : Deed outside) :
    (system.perform settings deed).Handles settings (requests ++ deed.request?.toList) := by
  have others : requests ++ (none : Option Request).toList = requests := List.append_nil _
  cases deed with
  | submit request => exact handles.submit request
  | turn turn => exact others.symm ▸ handles.take traced turn
  | serve index reaction =>
      refine others.symm ▸ ?_
      simp only [System.perform]
      split
      · exact handles
      · rename_i exchange next shared found
        obtain ⟨job, isJob, proceeds⟩ := Option.bind_eq_some_iff.1 found
        exact handles.serve isJob proceeds
  | update agent now =>
      refine others.symm ▸ ?_
      simp only [System.perform]
      split <;> exact ⟨handles.length, handles.each, handles.begun⟩

end Handles

/-- Whatever happens, the log tells what the requests that were submitted have done. -/
theorem performAll_handles [UrlParser] (handles : system.Handles settings requests)
    (traced : system.Traced settings) (deeds : List (Deed outside)) :
    (system.performAll settings deeds).Handles settings
      (requests ++ deeds.filterMap Deed.request?) := by
  induction deeds generalizing system requests with
  | nil =>
      rw [List.filterMap_nil, List.append_nil]
      exact handles
  | cons deed rest ih =>
      have submitted : requests ++ (deed :: rest).filterMap Deed.request? =
          requests ++ deed.request?.toList ++ rest.filterMap Deed.request? := by
        cases isRequest : deed.request? <;> simp [isRequest]
      rw [submitted]
      exact ih (handles.perform traced deed) (traced.perform deed)

/-- A run submits no requests. -/
theorem Handles.run [UrlParser] (handles : system.Handles settings requests)
    (traced : system.Traced settings) (turns : List (Turn outside)) :
    (system.run settings turns).Handles settings requests := by
  have noneSubmitted : (turns.map Deed.turn).filterMap Deed.request? = [] := by
    rw [List.filterMap_map]
    exact List.filterMap_eq_nil_iff.2 fun turn _ => rfl
  have all := performAll_handles handles traced (turns.map .turn)
  rwa [performAll_turns, noneSubmitted, List.append_nil] at all

/-- Every entry is a call of a tick that has begun, or of a request that was submitted. -/
theorem origin [UrlParser] (traced : system.Traced settings)
    (handles : system.Handles settings requests) {entry : Entry} (logged : entry ∈ system.log) :
    (∃ (index : Nat) (run : TickRun Program), system.ticks[index]? = some run ∧
        entry.Belongs settings run.slot index system.log) ∨
      ∃ (index : Nat) (request : Request), entry.actor = .request index ∧
        requests[index]? = some request ∧ request.Makes entry.exchange.call := by
  obtain ⟨actor, exchange⟩ := entry
  cases isJob : actor.job? with
  | some job =>
      have inside : job.index < system.ticks.length := by
        by_contra beyond
        exact traced.begun _ logged job.index (Nat.le_of_not_lt beyond) job isJob rfl
      have isTick := List.getElem?_eq_getElem inside
      exact Or.inl ⟨job.index, _, isTick,
        (traced.ticks job.index _ isTick).belongs logged isJob rfl⟩
  | none =>
      cases actor with
      | request index =>
          have inside := handles.begun _ logged index rfl
          have isRequest := List.getElem?_eq_getElem inside
          have isOwn := List.getElem?_eq_getElem (handles.length ▸ inside)
          have leads := handles.each index _ _ isRequest isOwn
          have uses := (Request.program_uses settings requests[index]).leads leads
          exact Or.inr ⟨index, _, rfl, isRequest,
            uses.1 exchange (History.mem_ofRequest.2 logged)⟩
      | tick | agent | visit => cases isJob

end System

end AdMonitor
