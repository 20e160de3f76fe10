import AdMonitor.Proofs.Interleaving.Soundness

/-!
# Requests among ticks

Agents may be registered, deleted and edited while ticks are under way.  If a
regime admits all that is done, whatever happens is still a step of a scene.
-/

namespace AdMonitor

variable {outside : Outside} {settings : Settings} {regime : Regime}

def Request.Makes : Request → Call → Prop
  | .register agent, call => call = .agents (.create agent)
  | .delete id, .agents (.delete owner) | .delete id, .states (.remove owner) => owner = id
  | .delete id, .lock (.forget owner keep) => owner = id ∧ keep = []
  | .delete _, .publish (.stateCollected ..) => True
  | .delete _, _ => False
  | .explain _, .agents (.get _) | .explain _, .states (.get _) => True
  | .explain _, call => call.IsReading ∨ call.IsOpening

def Call.IsLookup : Call → Prop
  | .agents (.get _) | .states (.get _) => True
  | call => call.IsReading

theorem Call.IsReading.isLookup {call : Call} (isReading : call.IsReading) : call.IsLookup := by
  cases call with
  | metrics | snapshots => trivial
  | _ => cases isReading

theorem Request.explain_makes {id : AgentId} {call : Call} (isLookup : call.IsLookup) :
    (explain id).Makes call := by
  cases call with
  | metrics | snapshots => exact Or.inl trivial
  | agents query | states query =>
      cases query with
      | get => trivial
      | _ => cases isLookup
  | _ => cases isLookup

theorem Settings.register_uses [UrlParser] (settings : Settings) (agent : Agent) :
    (settings.register agent).Uses (Request.register agent).Makes (fun _ => True) := by
  unfold Settings.register
  split
  · trivial
  · exact ⟨rfl, fun _ => trivial⟩

theorem AgentStore.dismiss_uses (id : AgentId) :
    (AgentStore.dismiss id).Uses (Request.delete id).Makes (fun _ => True) := by
  refine Program.Uses.ask rfl fun answer => ?_
  cases answer with
  | error failure => trivial
  | ok existed =>
      refine Program.Uses.ask rfl fun answer => ?_
      cases answer with
      | error failure => trivial
      | ok removed =>
          refine Program.Uses.ask ⟨rfl, rfl⟩ fun _ => ?_
          dsimp only
          split
          · exact ⟨trivial, fun _ => trivial⟩
          · trivial

theorem Agent.resolve_reads (limit : Span) (agent : Agent) :
    (agent.resolve limit).Uses Call.IsReading (fun _ => True) := by
  unfold Agent.resolve
  split
  · refine Program.Uses.ask trivial fun reply => ?_
    split <;> trivial
  · trivial
  · trivial

namespace Settings

theorem explainTargets_uses (settings : Settings) (agent : Agent) (targets : List Target) :
    (settings.explainTargets agent targets).Uses Call.IsLookup (fun _ => True) := by
  induction targets with
  | nil => trivial
  | cons target rest ih =>
      refine Program.Uses.ask trivial fun answer => ?_
      cases answer with
      | error failure => trivial
      | ok state =>
          have reads : (agent.read settings.fetchLimit target).Uses Call.IsLookup (fun _ => True) :=
            (agent.read_uses settings.fetchLimit target).weaken
              (fun _ => Call.IsReading.isLookup) fun _ _ => trivial
          refine reads.bind fun reading _ => ?_
          cases reading <;>
            exact ih.bind fun found _ => by cases found <;> trivial

/-- To explain an agent is to look things up. -/
theorem explain_uses [UrlParser] (settings : Settings) (id : AgentId) :
    (settings.explain id).Uses Call.IsLookup (fun _ => True) := by
  refine Program.Uses.ask trivial fun answer => ?_
  cases answer with
  | error failure => trivial
  | ok found =>
      cases found with
      | none => trivial
      | some agent =>
          dsimp only
          split
          · trivial
          · have resolves :
                (agent.resolve settings.fetchLimit).Uses Call.IsLookup (fun _ => True) :=
              (agent.resolve_reads settings.fetchLimit).weaken
                (fun _ => Call.IsReading.isLookup) fun _ _ => trivial
            refine resolves.bind fun found _ => ?_
            cases found with
            | error failure => trivial
            | ok targets => exact settings.explainTargets_uses agent targets

end Settings

/-- A request makes no calls but its own. -/
theorem Request.program_uses [UrlParser] (settings : Settings) (request : Request) :
    (request.program settings).Uses request.Makes (fun _ => True) := by
  cases request with
  | register agent => exact (settings.register_uses agent).bind fun _ _ => trivial
  | delete id => exact (AgentStore.dismiss_uses id).bind fun _ _ => trivial
  | explain id =>
      have uses : (settings.explain id).Uses (explain id).Makes (fun _ => True) :=
        (settings.explain_uses id).weaken (fun _ => explain_makes) fun _ _ => trivial
      exact uses.bind fun _ _ => trivial

/-- To explain an agent does no harm. -/
theorem Request.explain_allowed {id : AgentId} {call : Call} (makes : (explain id).Makes call) :
    regime.Allows call := by
  cases call with
  | agents query =>
      cases query with
      | get => exact ⟨trivial, fun _ lawful => lawful⟩
      | _ =>
          rcases makes with isReading | isOpening
          · cases isReading
          · cases isOpening
  | states query =>
      cases query with
      | get => exact ⟨trivial, trivial⟩
      | _ =>
          rcases makes with isReading | isOpening
          · cases isReading
          · cases isOpening
  | _ =>
      rcases makes with isReading | isOpening
      · exact isReading.allowed
      · exact isOpening.allowed

theorem Request.register_allowed {agent : Agent}
    (keeps : ∀ store after, regime.lawful store → store.create agent = .ok after →
      regime.lawful after)
    {call : Call} (makes : (register agent).Makes call) : regime.Allows call := by
  cases makes
  refine ⟨trivial, fun store lawful => ?_⟩
  rcases AgentQuery.commit_cases store (store.create agent) with same | created
  · exact (congrArg regime.lawful same).mpr lawful
  · exact keeps store _ lawful created

/-- An agent none of whose targets is spared may be deleted. -/
theorem Request.delete_allowed {id : AgentId}
    (keeps : ∀ store, regime.lawful store → regime.lawful (Table.erase store id))
    (notSpared : ∀ key, regime.spared key → key.agent ≠ id)
    {call : Call} (makes : (delete id).Makes call) : regime.Allows call := by
  have kept : ∀ key, regime.spared key → LockTable.isForgotten id [] (.target key) = false := by
    intro key isSpared
    simp [LockTable.isForgotten, notSpared key isSpared]
  cases call with
  | agents query =>
      cases query with
      | delete owner =>
          cases makes
          exact ⟨trivial, keeps⟩
      | _ => cases makes
  | states query =>
      cases query with
      | remove owner =>
          cases makes
          exact ⟨kept, trivial⟩
      | _ => cases makes
  | lock query =>
      cases query with
      | forget owner keep =>
          obtain ⟨rfl, rfl⟩ := makes
          exact ⟨kept, trivial⟩
      | _ => cases makes
  | publish event =>
      cases event with
      | stateCollected => exact ⟨trivial, trivial⟩
      | _ => cases makes
  | _ => cases makes

def Regime.Admits (regime : Regime) : Deed outside → Prop
  | .turn _ | .serve .. => True
  | .submit request => ∀ call, request.Makes call → regime.Allows call
  | .update agent now => ∀ store after, regime.lawful store → store.update agent now = .ok after →
      regime.lawful after

namespace System

variable {system : System outside} {stages : VisitId → VisitStage}

/-- Whether a system is sound and its requests make only calls that are allowed. -/
structure Attends (settings : Settings) (regime : Regime) (system : System outside)
    (stages : VisitId → VisitStage) : Prop where
  sound : system.Sound settings regime stages
  requests : ∀ job ∈ system.requests, job.Uses regime.Allows fun _ => True

theorem requests_take [UrlParser] (turn : Turn outside) :
    (system.take settings turn).requests = system.requests := by
  cases turn with
  | begin now => rfl
  | settle index position => cases position <;> rfl
  | proceed index spot reaction =>
      unfold System.take
      dsimp only
      split <;> rfl

/-- What ticks are under way is all that soundness is about, besides what they share. -/
theorem Sound.upkeep (sound : system.Sound settings regime stages) (shared : Shared outside)
    (requests : List (Program Unit)) (entries : List Entry) (lawful : regime.lawful shared.agents)
    (areOther : ∀ entry ∈ entries, ∀ index visit, entry.actor ≠ .visit index visit) :
    Sound settings regime
      { system with shared, requests, log := entries ++ system.log } stages where
  lawful := lawful
  ticks := sound.ticks
  idle := sound.idle
  slots index visit exchange found := by
    rcases List.mem_append.1 found with isNew | older
    · exact absurd rfl (areOther _ isNew index visit)
    · exact sound.slots index visit exchange older

theorem Attends.perform [UrlParser] (attends : system.Attends settings regime stages)
    {deed : Deed outside} (admits : regime.Admits deed) :
    ∃ next, (system.perform settings deed).Attends settings regime next ∧
      ((system.perform settings deed).scene next = system.scene stages ∨
        (system.scene stages).Step settings regime
          ((system.perform settings deed).scene next)) := by
  obtain ⟨sound, requests⟩ := attends
  cases deed with
  | turn turn =>
      obtain ⟨next, sound', moves⟩ := sound.take turn
      refine ⟨next, ⟨sound', fun job found => requests job ?_⟩, moves⟩
      rwa [← requests_take turn]
  | submit request =>
      have sound' := sound.upkeep system.shared (system.requests ++ [request.program settings]) []
        sound.lawful (List.forall_mem_nil _)
      refine ⟨stages, ⟨sound', fun job found => ?_⟩, Or.inl rfl⟩
      rcases List.mem_append.1 found with old | isNew
      · exact requests job old
      · rw [List.mem_singleton.1 isNew]
        exact (request.program_uses settings).weaken admits fun _ => id
  | serve index reaction =>
      simp only [System.perform]
      cases found : system.requests[index]?.bind fun job =>
          system.shared.proceed reaction job with
      | none => exact ⟨stages, ⟨sound, requests⟩, Or.inl rfl⟩
      | some result =>
          obtain ⟨exchange, job', shared⟩ := result
          obtain ⟨job, isJob, proceeds⟩ := Option.bind_eq_some_iff.1 found
          have answered := (Shared.proceed_eq_some proceeds).1
          obtain ⟨allowed, uses⟩ := (requests job (List.mem_of_getElem? isJob)).proceed proceeds
          have sound' := sound.upkeep shared (system.requests.set index job')
            [⟨.request index, exchange⟩] (allowed.2.lawful sound.lawful answered) (by simp)
          refine ⟨stages, ⟨sound', fun other isOther => ?_⟩, Or.inr ?_⟩
          · rcases List.mem_or_eq_of_mem_set isOther with old | rfl
            · exact requests other old
            · exact uses
          · exact .upkeep (.request index) reaction exchange shared (by simp) allowed.1 answered
  | update agent now =>
      simp only [System.perform]
      cases updated : system.shared.agents.update agent now with
      | error failure => exact ⟨stages, ⟨sound, requests⟩, Or.inl rfl⟩
      | ok agents =>
          have sound' := sound.upkeep { system.shared with agents } system.requests []
            (admits _ _ sound.lawful updated) (List.forall_mem_nil _)
          exact ⟨stages, ⟨sound', requests⟩, Or.inr (.edit agents)⟩

/-- Whatever is done that a regime admits happens in the scene of the system. -/
theorem Attends.performAll [UrlParser] {first : Scene outside}
    (attends : system.Attends settings regime stages)
    (reached : Scene.Reachable settings regime first (system.scene stages))
    {deeds : List (Deed outside)} (admits : ∀ deed ∈ deeds, regime.Admits deed) :
    ∃ next, (system.performAll settings deeds).Attends settings regime next ∧
      Scene.Reachable settings regime first ((system.performAll settings deeds).scene next) := by
  induction deeds generalizing system stages with
  | nil => exact ⟨stages, attends, reached⟩
  | cons deed rest ih =>
      obtain ⟨isAdmitted, admits⟩ := List.forall_mem_cons.1 admits
      obtain ⟨next, attends', moves⟩ := attends.perform isAdmitted
      refine ih attends' ?_ admits
      rcases moves with same | step
      · rw [same]
        exact reached
      · exact .step reached step

theorem performAll_reachable [UrlParser] (settings : Settings) {agents : AgentStore}
    (lawful : regime.lawful agents) (states : StateStore) (world : outside.World)
    (deeds : List (Deed outside)) (admits : ∀ deed ∈ deeds, regime.Admits deed) :
    ∃ stages,
      ((start agents states world).performAll settings deeds).Attends settings regime stages ∧
      Scene.Reachable settings regime (Scene.start agents states world)
        (((start agents states world).performAll settings deeds).scene stages) := by
  refine Attends.performAll ⟨start_sound lawful, fun job found => ?_⟩ .start admits
  cases found

end System

end AdMonitor
