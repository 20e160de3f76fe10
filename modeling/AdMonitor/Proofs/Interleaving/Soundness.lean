import AdMonitor.Proofs.Interleaving.Scene
import AdMonitor.Proofs.Interleaving.System
import Mathlib.Data.List.Induction

/-!
# Every system plays its scene

The programs of a system follow what is known of ticks and visits, so whatever
turn a system takes, its scene takes a step or stays as it is.
-/

namespace AdMonitor

variable {outside : Outside} {settings : Settings} {regime : Regime}

/-- Whether the visits of an agent have come as far as their stages say. -/
structure Agent.Visits (settings : Settings) (slot : Slot) (stages : StateKey → VisitStage)
    (agent : Agent) (targets : List Target)
    (visits : List (Program (Option TargetReport))) : Prop where
  keys : targets.map Target.key = agent.scope.targetKeys
  lengths : visits.length = targets.length
  follow : ∀ (position : Nat) target job, targets[position]? = some target →
    visits[position]? = some job → job.Follows (VisitStep { settings, slot, agent, target })
      (fun stage _ => stage = .left) (stages ⟨agent.id, target.key⟩)

/-- Whether the work on an agent has come as far as the stages of its visits say. -/
def AgentRun.Sound (settings : Settings) (regime : Regime) (slot : Slot)
    (stages : StateKey → VisitStage) (run : AgentRun Program) : Prop :=
  regime.serves run.agent ∧
    match run.phase with
    | .opening job =>
        job.Uses Call.IsOpening run.agent.Finds ∧
          ∀ target, stages ⟨run.agent.id, target⟩ = .idle
    | .visiting targets visits => run.agent.Visits settings slot stages targets visits
    | .closing _ job =>
        job.Uses (Call.IsClosing run.agent.id run.agent.scope.targetKeys) (fun _ => True)
    | .closed _ => True

def Agent.IsUntouched (regime : Regime) (stages : StateKey → VisitStage) (agent : Agent) : Prop :=
  regime.serves agent ∧ ∀ target, stages ⟨agent.id, target⟩ = .idle

structure Pool.Sound (settings : Settings) (regime : Regime) (slot : Slot)
    (stages : StateKey → VisitStage) (pool : Pool Program) : Prop where
  nodup : (pool.running.map (fun run => run.agent.id) ++ pool.waiting.map Agent.id).Nodup
  running : ∀ run ∈ pool.running, run.Sound settings regime slot stages
  waiting : ∀ agent ∈ pool.waiting, agent.IsUntouched regime stages

def TickRun.Sound (settings : Settings) (regime : Regime) (stages : StateKey → VisitStage)
    (run : TickRun Program) : Prop :=
  match run.phase with
  | .opening job =>
      (∀ key, stages key = .idle) ∧ ∃ view : TickView, view.Holds regime ∧
        job.Follows TickStep
          (fun view opening => ∀ agents, opening.agents = .ok agents → view = .active agents) view
  | .working pool => pool.Sound settings regime run.slot stages
  | .closing job =>
      ∃ view : TickView, view.Holds regime ∧ job.Follows TickStep (fun _ _ => True) view
  | .closed _ => True

section Settle

variable {slot : Slot} {stages : StateKey → VisitStage}

theorem AgentRun.start_sound [UrlParser] {agent : Agent}
    (isUntouched : agent.IsUntouched regime stages) :
    (AgentRun.start settings slot agent : AgentRun Program).Sound settings regime slot stages :=
  ⟨isUntouched.1, slot.openAgent_uses settings agent, isUntouched.2⟩

/-- Visits begin idle, and they are for the targets of the scope. -/
theorem AgentRun.visit_sound {agent : Agent} (isServed : regime.serves agent)
    {found : Except Failure (List Target)} (finds : agent.Finds found)
    (isIdle : ∀ target, stages ⟨agent.id, target⟩ = .idle) :
    (⟨agent, AgentRun.visit settings slot agent found⟩ : AgentRun Program).Sound settings regime
      slot stages := by
  cases found with
  | error failure => exact ⟨isServed, trivial⟩
  | ok targets =>
      refine ⟨isServed, ⟨finds targets rfl, List.length_map _, ?_⟩⟩
      intro position target job isTarget isJob
      rw [List.getElem?_map, isTarget] at isJob
      cases isJob
      rw [isIdle target.key]
      exact Visit.run_follows _

theorem AgentRun.Sound.settle {run : AgentRun Program}
    (sound : run.Sound settings regime slot stages) :
    (run.settle settings slot).Sound settings regime slot stages := by
  obtain ⟨agent, phase⟩ := run
  have isServed := sound.1
  cases phase with
  | opening job =>
      cases job with
      | call request next => exact sound
      | done found => exact AgentRun.visit_sound isServed sound.2.1 sound.2.2
  | visiting targets visits =>
      simp only [AgentRun.settle]
      split
      · exact sound
      · refine ⟨isServed, ?_⟩
        have uses := slot.closeAgent_uses agent targets
        rw [sound.2.keys] at uses
        exact uses
  | closing reports job =>
      cases job with
      | call request next => exact sound
      | done collected => exact ⟨isServed, trivial⟩
  | closed outcome => exact sound

theorem AgentRun.agent_settle (run : AgentRun Program) :
    (run.settle settings slot).agent = run.agent := by
  unfold AgentRun.settle
  split
  · split <;> rfl
  · split <;> rfl
  · split <;> rfl
  · rfl

/-- Each target is visited once, so a step of one visit is none of the others. -/
theorem Agent.Visits.set {agent : Agent} {targets : List Target}
    {visits : List (Program (Option TargetReport))}
    (sound : agent.Visits settings slot stages targets visits) {position : Nat}
    {target : Target} {job next : Program (Option TargetReport)} {other : StateKey → VisitStage}
    (isTarget : targets[position]? = some target) (isJob : visits[position]? = some job)
    (follows : next.Follows (VisitStep { settings, slot, agent, target })
      (fun stage _ => stage = .left) (other ⟨agent.id, target.key⟩))
    (elsewhere : ∀ key, key.target ≠ target.key → other key = stages key) :
    agent.Visits settings slot other targets (visits.set position next) := by
  obtain ⟨keys, lengths, follow⟩ := sound
  refine ⟨keys, by rw [List.length_set, lengths], fun index target' job' isTarget' isJob' => ?_⟩
  by_cases isPosition : position = index
  · subst isPosition
    rw [isTarget] at isTarget'
    cases isTarget'
    rw [List.getElem?_set_self', isJob] at isJob'
    cases isJob'
    exact follows
  · rw [List.getElem?_set_ne isPosition] at isJob'
    have differs : target'.key ≠ target.key := by
      intro same
      have nodup := agent.scope.targetKeys_nodup
      rw [← keys] at nodup
      have inside : position < (targets.map Target.key).length := by
        rw [List.length_map]
        exact (List.getElem?_eq_some_iff.1 isTarget).1
      refine isPosition ((List.getElem?_inj inside nodup).1 ?_)
      rw [List.getElem?_map, List.getElem?_map, isTarget, isTarget']
      exact congrArg some same.symm
    rw [elsewhere ⟨agent.id, target'.key⟩ differs]
    exact follow index target' job' isTarget' isJob'

theorem AgentRun.Sound.congr {run : AgentRun Program} {other : StateKey → VisitStage}
    (sound : run.Sound settings regime slot stages)
    (same : ∀ target, other ⟨run.agent.id, target⟩ = stages ⟨run.agent.id, target⟩) :
    run.Sound settings regime slot other := by
  obtain ⟨agent, phase⟩ := run
  refine ⟨sound.1, ?_⟩
  cases phase with
  | opening job => exact ⟨sound.2.1, fun target => (same target).trans (sound.2.2 target)⟩
  | visiting targets visits =>
      obtain ⟨-, keys, lengths, follow⟩ := sound
      refine ⟨keys, lengths, fun position target job isTarget isJob => ?_⟩
      exact (same target.key) ▸ follow position target job isTarget isJob
  | closing reports job => exact sound.2
  | closed outcome => trivial

namespace Pool

variable {pool : Pool Program}

/-- Starting to work on waiting agents takes them from one list to the other. -/
theorem Sound.fill [UrlParser] (sound : pool.Sound settings regime slot stages) :
    (pool.fill settings slot).Sound settings regime slot stages := by
  unfold Pool.fill
  generalize max settings.maxConcurrentAgents 1 - pool.running.length = room
  have started : ∀ agents : List Agent,
      (agents.map (AgentRun.start settings slot : Agent → AgentRun Program)).map
        (fun run => run.agent.id) = agents.map Agent.id := by
    intro agents
    rw [List.map_map]
    rfl
  refine ⟨?_, fun run found => ?_, fun agent found => ?_⟩
  · rw [List.map_append, started, List.append_assoc, ← List.map_append, List.take_append_drop]
    exact sound.nodup
  · rcases List.mem_append.1 found with old | new
    · exact sound.running run old
    · obtain ⟨agent, waits, rfl⟩ := List.mem_map.1 new
      exact AgentRun.start_sound (sound.waiting agent (List.mem_of_mem_take waits))
  · exact sound.waiting agent (List.mem_of_mem_drop found)

theorem start_sound [UrlParser] {agents : List Agent} (startedAt : Instant)
    (nodup : (agents.map Agent.id).Nodup)
    (areUntouched : ∀ agent ∈ agents, agent.IsUntouched regime stages) :
    (Pool.start settings slot startedAt agents : Pool Program).Sound settings regime slot
      stages := by
  have waiting : Pool.Sound settings regime slot stages ⟨startedAt, [], agents, []⟩ := by
    refine ⟨nodup, fun run isRunning => ?_, areUntouched⟩
    cases isRunning
  exact waiting.fill

theorem Sound.retire [UrlParser] (sound : pool.Sound settings regime slot stages) (position : Nat)
    (outcome : AgentOutcome) :
    (pool.retire settings slot position outcome).Sound settings regime slot stages := by
  refine Sound.fill ⟨?_, fun run found => ?_, sound.waiting⟩
  · refine sound.nodup.sublist (List.Sublist.append ?_ (List.Sublist.refl _))
    exact (List.eraseIdx_sublist ..).map _
  · exact sound.running run ((List.eraseIdx_sublist ..).subset found)

/-- Work on one agent does not concern the other agents. -/
theorem Sound.set {other : StateKey → VisitStage}
    (sound : pool.Sound settings regime slot stages) {position : Nat}
    {run next : AgentRun Program} (found : pool.running[position]? = some run)
    (same : next.agent = run.agent) (isSound : next.Sound settings regime slot other)
    (elsewhere : ∀ key, key.agent ≠ run.agent.id → other key = stages key) :
    Pool.Sound settings regime slot other
      { pool with running := pool.running.set position next } := by
  have ids : (pool.running.set position next).map (fun run => run.agent.id) =
      pool.running.map (fun run => run.agent.id) := by
    obtain ⟨inside, rfl⟩ := List.getElem?_eq_some_iff.1 found
    rw [List.map_set, same]
    refine List.ext_getElem? fun other => ?_
    rw [List.getElem?_set]
    split
    · rename_i isOwn
      simp [isOwn ▸ inside, isOwn]
    · rfl
  obtain ⟨nodupRunning, -, disjoint⟩ := List.nodup_append.1 sound.nodup
  refine ⟨?_, fun run' isRunning => ?_, fun agent waits => ?_⟩
  · rw [ids]
    exact sound.nodup
  · obtain ⟨index, isAt⟩ := List.mem_iff_getElem?.1 isRunning
    by_cases isPosition : position = index
    · subst isPosition
      rw [List.getElem?_set_self', found] at isAt
      cases isAt
      exact isSound
    · rw [List.getElem?_set_ne isPosition] at isAt
      have differs : run'.agent.id ≠ run.agent.id := by
        intro sameId
        have inside : position < (pool.running.map fun run => run.agent.id).length := by
          rw [List.length_map]
          exact (List.getElem?_eq_some_iff.1 found).1
        refine isPosition ((List.getElem?_inj inside nodupRunning).1 ?_)
        rw [List.getElem?_map, List.getElem?_map, found, isAt]
        exact congrArg some sameId.symm
      exact (sound.running run' (List.mem_of_getElem? isAt)).congr fun target =>
        elsewhere _ differs
  · obtain ⟨isServed, isIdle⟩ := sound.waiting agent waits
    refine ⟨isServed, fun target => (elsewhere _ ?_).trans (isIdle target)⟩
    exact (disjoint _ (List.mem_map_of_mem (List.mem_of_getElem? found)) _
      (List.mem_map_of_mem waits)).symm

end Pool

namespace TickRun

variable {run : TickRun Program}

theorem Sound.settleAgent [UrlParser] (sound : run.Sound settings regime stages) (position : Nat) :
    (run.settleAgent settings position).Sound settings regime stages := by
  obtain ⟨slot, phase⟩ := run
  cases phase with
  | working pool =>
      unfold TickRun.settleAgent
      cases found : pool.running[position]? with
      | none =>
          simp only [found]
          exact sound
      | some agent =>
          have isSound := (sound.running agent (List.mem_of_getElem? found)).settle
          simp only [found]
          cases (agent.settle settings slot).outcome? with
          | none => exact Pool.Sound.set sound found agent.agent_settle isSound fun _ _ => rfl
          | some outcome => exact Pool.Sound.retire sound position outcome
  | opening | closing | closed => exact sound

theorem Sound.settle [UrlParser] (sound : run.Sound settings regime stages) :
    (run.settle settings).Sound settings regime stages := by
  obtain ⟨slot, phase⟩ := run
  cases phase with
  | opening job =>
      obtain ⟨isIdle, view, holds, follows⟩ := sound
      cases job with
      | call request next => exact ⟨isIdle, view, holds, follows⟩
      | done opening =>
          obtain ⟨startedAt, agents⟩ := opening
          cases agents with
          | error report => trivial
          | ok agents =>
              have isActive := follows agents rfl
              subst isActive
              exact Pool.start_sound startedAt holds.2 fun agent found =>
                ⟨holds.1 agent found, fun target => isIdle _⟩
  | working pool =>
      simp only [TickRun.settle]
      split
      · exact ⟨.nothing, trivial, slot.closeTick_follows pool.startedAt pool.outcomes⟩
      · exact sound
  | closing job =>
      cases job with
      | call request next => exact sound
      | done report => trivial
  | closed report => exact sound

theorem slot_settle [UrlParser] (run : TickRun Program) :
    (run.settle settings).slot = run.slot := by
  unfold TickRun.settle
  split
  · split <;> rfl
  · split <;> rfl
  · split <;> rfl
  · rfl

theorem slot_settleAgent [UrlParser] (run : TickRun Program) (position : Nat) :
    (run.settleAgent settings position).slot = run.slot := by
  unfold TickRun.settleAgent
  split
  · split
    · rfl
    · dsimp only
      split <;> rfl
  · rfl

end TickRun

end Settle

section Proceed

structure Scene.Moves (settings : Settings) (regime : Regime) (scene : Scene outside)
    (index : Nat) (slot : Slot) (entry : Entry) (shared : Shared outside)
    (stages : VisitId → VisitStage) : Prop where
  step : scene.Step settings regime ⟨stages, shared, entry :: scene.log⟩
  others : ∀ id, id.index ≠ index → stages id = scene.stages id
  lawful : regime.lawful shared.agents
  same_slot : ∀ other visit, entry.actor = .visit other visit → other = index ∧ visit.slot = slot

variable {scene : Scene outside} {index : Nat} {slot : Slot} {reaction : Reaction outside}
  {exchange : Exchange} {shared : Shared outside}

theorem Scene.Moves.upkeep {actor : Actor} (lawful : regime.lawful scene.shared.agents)
    (isOther : ∀ index visit, actor ≠ .visit index visit)
    (allowed : regime.Allows exchange.call)
    (answered : scene.shared.answer reaction exchange.call = some (exchange.answer, shared)) :
    scene.Moves settings regime index slot ⟨actor, exchange⟩ shared scene.stages where
  step := .upkeep actor reaction exchange shared isOther allowed.1 answered
  others _ _ := rfl
  lawful := allowed.2.lawful lawful answered
  same_slot other visit same := absurd same (isOther other visit)

namespace AgentRun

variable {run next : AgentRun Program} {entry : Entry}

theorem Sound.proceed {target : Option Nat}
    (sound : run.Sound settings regime slot fun key => scene.stages ⟨index, key⟩)
    (lawful : regime.lawful scene.shared.agents)
    (sameSlot : ∀ other exchange, ⟨.visit index other, exchange⟩ ∈ scene.log → other.slot = slot)
    (found : run.proceed settings slot index scene.shared reaction target =
      some (entry, next, shared)) :
    ∃ stages, scene.Moves settings regime index slot entry shared stages ∧
      next.agent = run.agent ∧
      (next.Sound settings regime slot fun key => stages ⟨index, key⟩) ∧
      ∀ id, id.key.agent ≠ run.agent.id → stages id = scene.stages id := by
  obtain ⟨agent, phase⟩ := run
  have isServed := sound.1
  cases phase with
  | opening job =>
      cases target with
      | some position => cases found
      | none =>
          obtain ⟨⟨exchange, job', shared⟩, proceeds, same⟩ := Option.bind_eq_some_iff.1 found
          cases same
          have answered := (Shared.proceed_eq_some proceeds).1
          obtain ⟨isOpening, uses⟩ := sound.2.1.proceed proceeds
          refine ⟨scene.stages, .upkeep lawful (by simp) isOpening.allowed answered, rfl, ?_, ?_⟩
          · exact ⟨isServed, uses, sound.2.2⟩
          · exact fun _ _ => rfl
  | visiting targets visits =>
      cases target with
      | none => cases found
      | some position =>
          obtain ⟨target, isTarget, found⟩ := Option.bind_eq_some_iff.1 found
          obtain ⟨job, isJob, found⟩ := Option.bind_eq_some_iff.1 found
          obtain ⟨⟨exchange, job', shared⟩, proceeds, same⟩ := Option.bind_eq_some_iff.1 found
          cases same
          obtain ⟨-, visiting⟩ := sound
          have answered := (Shared.proceed_eq_some proceeds).1
          obtain ⟨stage, step, follows⟩ :=
            (visiting.follow position target job isTarget isJob).proceed proceeds
          let visit : Visit := { settings, slot, agent, target }
          have isOwn : target.key ∈ agent.scope.targetKeys := by
            rw [← visiting.keys]
            exact List.mem_map_of_mem (List.mem_of_getElem? isTarget)
          have others : ∀ id : VisitId, id ≠ ⟨index, visit.key⟩ →
              (scene.advance index visit exchange stage shared).stages id = scene.stages id :=
            fun id differs => Scene.advance_stages_other differs
          have own : (scene.advance index visit exchange stage shared).stages
              ⟨index, ⟨agent.id, target.key⟩⟩ = stage := Scene.advance_stages_own
          refine ⟨(scene.advance index visit exchange stage shared).stages, ⟨?_, ?_, ?_, ?_⟩, rfl,
            ⟨isServed, visiting.set isTarget isJob ?_ ?_⟩, ?_⟩
          · exact .visit index visit reaction exchange stage shared rfl isServed isOwn sameSlot step
              answered
          · exact fun id differs => others id fun same => differs (congrArg VisitId.index same)
          · rw [Shared.agents_of_answer step.not_agents answered]
            exact lawful
          · rintro other visit ⟨⟩
            exact ⟨rfl, rfl⟩
          · rw [own]
            exact follows
          · exact fun key differs => others ⟨index, key⟩ fun same =>
              differs (congrArg (fun id : VisitId => id.key.target) same)
          · exact fun id differs => others id fun same =>
              differs (congrArg (fun id : VisitId => id.key.agent) same)
  | closing reports job =>
      cases target with
      | some position => cases found
      | none =>
          obtain ⟨⟨exchange, job', shared⟩, proceeds, same⟩ := Option.bind_eq_some_iff.1 found
          cases same
          have answered := (Shared.proceed_eq_some proceeds).1
          obtain ⟨isClosing, uses⟩ := Program.Uses.proceed sound.2 proceeds
          have allowed := isClosing.allowed isServed
          refine ⟨scene.stages, .upkeep lawful (by simp) allowed answered, rfl, ?_, ?_⟩
          · exact ⟨isServed, uses⟩
          · exact fun _ _ => rfl
  | closed outcome => cases target <;> cases found

end AgentRun

namespace TickRun

variable {run next : TickRun Program} {entry : Entry}

theorem Sound.proceedAgent {position : Nat} {target : Option Nat}
    (sound : run.Sound settings regime fun key => scene.stages ⟨index, key⟩)
    (lawful : regime.lawful scene.shared.agents)
    (sameSlot : ∀ other exchange, ⟨.visit index other, exchange⟩ ∈ scene.log →
      other.slot = run.slot)
    (found : run.proceedAgent settings index scene.shared reaction position target =
      some (entry, next, shared)) :
    ∃ stages, scene.Moves settings regime index run.slot entry shared stages ∧
      next.slot = run.slot ∧ next.Sound settings regime fun key => stages ⟨index, key⟩ := by
  obtain ⟨slot, phase⟩ := run
  cases phase with
  | working pool =>
      obtain ⟨agent, isAgent, found⟩ := Option.bind_eq_some_iff.1 found
      obtain ⟨⟨entry', agent', shared'⟩, proceeds, same⟩ := Option.bind_eq_some_iff.1 found
      cases same
      have isSound := sound.running agent (List.mem_of_getElem? isAgent)
      obtain ⟨stages, moves, sameAgent, isSound', elsewhere⟩ :=
        isSound.proceed lawful sameSlot proceeds
      refine ⟨stages, moves, rfl, ?_⟩
      exact Pool.Sound.set sound isAgent sameAgent isSound' fun key differs =>
        elsewhere ⟨index, key⟩ differs
  | opening | closing | closed => cases found

theorem Sound.proceed {spot : Spot}
    (sound : run.Sound settings regime fun key => scene.stages ⟨index, key⟩)
    (lawful : regime.lawful scene.shared.agents)
    (sameSlot : ∀ other exchange, ⟨.visit index other, exchange⟩ ∈ scene.log →
      other.slot = run.slot)
    (found : run.proceed settings index scene.shared reaction spot =
      some (entry, next, shared)) :
    ∃ stages, scene.Moves settings regime index run.slot entry shared stages ∧
      next.slot = run.slot ∧ next.Sound settings regime fun key => stages ⟨index, key⟩ := by
  cases spot with
  | agent position => exact sound.proceedAgent lawful sameSlot found
  | visit position target => exact sound.proceedAgent lawful sameSlot found
  | tick =>
      obtain ⟨slot, phase⟩ := run
      cases phase with
      | opening job =>
          obtain ⟨⟨exchange, job', shared'⟩, proceeds, same⟩ := Option.bind_eq_some_iff.1 found
          cases same
          obtain ⟨isIdle, view, holds, follows⟩ := sound
          have answered := (Shared.proceed_eq_some proceeds).1
          obtain ⟨view', step, follows'⟩ := follows.proceed proceeds
          refine ⟨scene.stages, .upkeep lawful (by simp) (step.allowed holds) answered, rfl, ?_⟩
          exact ⟨isIdle, view', step.holds holds lawful answered, follows'⟩
      | closing job =>
          obtain ⟨⟨exchange, job', shared'⟩, proceeds, same⟩ := Option.bind_eq_some_iff.1 found
          cases same
          obtain ⟨view, holds, follows⟩ := sound
          have answered := (Shared.proceed_eq_some proceeds).1
          obtain ⟨view', step, follows'⟩ := follows.proceed proceeds
          refine ⟨scene.stages, .upkeep lawful (by simp) (step.allowed holds) answered, rfl, ?_⟩
          exact ⟨view', step.holds holds lawful answered, follows'⟩
      | working | closed => cases found

end TickRun

end Proceed

namespace System

def scene (system : System outside) (stages : VisitId → VisitStage) : Scene outside :=
  ⟨stages, system.shared, system.log⟩

/-- Whether the ticks of a system have come as far as the stages of their visits say. -/
structure Sound (settings : Settings) (regime : Regime) (system : System outside)
    (stages : VisitId → VisitStage) : Prop where
  lawful : regime.lawful system.shared.agents
  ticks : ∀ (index : Nat) (run : TickRun Program), system.ticks[index]? = some run →
    run.Sound settings regime fun key => stages ⟨index, key⟩
  idle : ∀ id : VisitId, system.ticks.length ≤ id.index → stages id = .idle
  slots : ∀ (index : Nat) visit exchange, ⟨.visit index visit, exchange⟩ ∈ system.log →
    ∃ run, system.ticks[index]? = some run ∧ run.slot = visit.slot

variable {system : System outside} {stages : VisitId → VisitStage}

theorem start_sound {agents : AgentStore} {states : StateStore} {world : outside.World}
    (lawful : regime.lawful agents) :
    (start agents states world).Sound settings regime fun _ => .idle where
  lawful := lawful
  ticks _ _ := nofun
  idle _ _ := rfl
  slots _ _ _ := nofun

/-- Beginning a tick, or moving one on, changes no stage. -/
theorem Sound.modify {ticks : List (TickRun Program)}
    (sound : system.Sound settings regime stages)
    (isSound : ∀ (index : Nat) (run : TickRun Program), ticks[index]? = some run →
      run.Sound settings regime fun key => stages ⟨index, key⟩)
    (longer : system.ticks.length ≤ ticks.length)
    (sameSlot : ∀ (index : Nat) (run : TickRun Program), system.ticks[index]? = some run →
      ∃ next, ticks[index]? = some next ∧ next.slot = run.slot) :
    Sound settings regime { system with ticks } stages where
  lawful := sound.lawful
  ticks := isSound
  idle id beyond := sound.idle id (Nat.le_trans longer beyond)
  slots index visit exchange found := by
    obtain ⟨run, isTick, same⟩ := sound.slots index visit exchange found
    obtain ⟨next, isNext, same'⟩ := sameSlot index run isTick
    exact ⟨next, isNext, same'.trans same⟩

theorem Sound.begin (sound : system.Sound settings regime stages) (slot : Slot) :
    Sound settings regime { system with ticks := system.ticks ++ [.start slot] } stages := by
  refine sound.modify (fun index run found => ?_) ?_ fun index run found => ⟨run, ?_, rfl⟩
  · by_cases inside : index < system.ticks.length
    · rw [List.getElem?_append_left inside] at found
      exact sound.ticks index run found
    · have beyond := Nat.le_of_not_lt inside
      rw [List.getElem?_append_right beyond] at found
      cases List.mem_singleton.1 (List.mem_of_getElem? found)
      exact ⟨fun key => sound.idle ⟨index, key⟩ beyond, .nothing, trivial, slot.openTick_follows⟩
  · rw [List.length_append]
    exact Nat.le_add_right ..
  · rw [List.getElem?_append_left (List.getElem?_eq_some_iff.1 found).1]
    exact found

theorem Sound.settle (sound : system.Sound settings regime stages) (index : Nat)
    {change : TickRun Program → TickRun Program}
    (keepsSlot : ∀ run, (change run).slot = run.slot)
    (keepsSound : ∀ run, run.Sound settings regime (fun key => stages ⟨index, key⟩) →
      (change run).Sound settings regime fun key => stages ⟨index, key⟩) :
    Sound settings regime { system with ticks := system.ticks.modify index change } stages := by
  refine sound.modify (fun other run found => ?_) ?_ fun other run found => ?_
  · rw [List.getElem?_modify] at found
    obtain ⟨before, isBefore, rfl⟩ := Option.map_eq_some_iff.1 found
    have isSound := sound.ticks other before isBefore
    by_cases isIndex : index = other
    · subst isIndex
      rw [if_pos rfl]
      exact keepsSound before isSound
    · rw [if_neg isIndex]
      exact isSound
  · exact Nat.le_of_eq (List.length_modify ..).symm
  · rw [List.getElem?_modify, found]
    refine ⟨_, rfl, ?_⟩
    dsimp only
    split
    · exact keepsSlot run
    · rfl

/-- A call of one tick leaves the others where they are. -/
theorem Sound.proceed (sound : system.Sound settings regime stages) {index : Nat}
    {run next : TickRun Program} (isTick : system.ticks[index]? = some run) {entry : Entry}
    {shared : Shared outside} {changed : VisitId → VisitStage}
    (moves : (system.scene stages).Moves settings regime index run.slot entry shared changed)
    (sameSlot : next.slot = run.slot)
    (isSound : next.Sound settings regime fun key => changed ⟨index, key⟩) :
    Sound settings regime
      { system with ticks := system.ticks.set index next, shared, log := entry :: system.log }
      changed := by
  have inside := (List.getElem?_eq_some_iff.1 isTick).1
  have isNext : (system.ticks.set index next)[index]? = some next := by
    rw [List.getElem?_set_self inside]
  refine ⟨moves.lawful, fun other run' found => ?_, fun id beyond => ?_, ?_⟩
  · by_cases isIndex : index = other
    · subst isIndex
      rw [isNext] at found
      cases found
      exact isSound
    · rw [List.getElem?_set_ne isIndex] at found
      have unchanged : (fun key => changed ⟨other, key⟩) = fun key => stages ⟨other, key⟩ :=
        funext fun key => moves.others ⟨other, key⟩ (Ne.symm isIndex)
      rw [unchanged]
      exact sound.ticks other run' found
  · rw [List.length_set] at beyond
    have differs : id.index ≠ index := Nat.ne_of_gt (Nat.lt_of_lt_of_le inside beyond)
    exact (moves.others id differs).trans (sound.idle id beyond)
  · intro other visit exchange found
    rcases List.mem_cons.1 found with isNew | older
    · obtain ⟨rfl, isSlot⟩ := moves.same_slot other visit (by rw [← isNew])
      exact ⟨next, isNext, sameSlot.trans isSlot.symm⟩
    · obtain ⟨run', isTick', isSlot⟩ := sound.slots other visit exchange older
      by_cases isIndex : index = other
      · subst isIndex
        rw [isTick] at isTick'
        cases isTick'
        exact ⟨next, isNext, sameSlot.trans isSlot⟩
      · exact ⟨run', (List.getElem?_set_ne isIndex).trans isTick', isSlot⟩

/-- Whatever turn a system takes, its scene takes a step or stays as it is. -/
theorem Sound.take [UrlParser] (sound : system.Sound settings regime stages) (turn : Turn outside) :
    ∃ next, (system.take settings turn).Sound settings regime next ∧
      ((system.take settings turn).scene next = system.scene stages ∨
        (system.scene stages).Step settings regime ((system.take settings turn).scene next)) := by
  cases turn with
  | begin now => exact ⟨stages, sound.begin (settings.slot now), Or.inl rfl⟩
  | settle index position =>
      cases position with
      | none =>
          exact ⟨stages, sound.settle index (fun run => run.slot_settle)
            (fun run isSound => isSound.settle), Or.inl rfl⟩
      | some position =>
          exact ⟨stages, sound.settle index (fun run => run.slot_settleAgent position)
            (fun run isSound => isSound.settleAgent position), Or.inl rfl⟩
  | proceed index spot reaction =>
      simp only [System.take]
      cases found : system.ticks[index]?.bind fun run =>
          run.proceed settings index system.shared reaction spot with
      | none => exact ⟨stages, sound, Or.inl rfl⟩
      | some result =>
          obtain ⟨entry, run', shared⟩ := result
          obtain ⟨run, isTick, proceeds⟩ := Option.bind_eq_some_iff.1 found
          have isSlot : ∀ other exchange, ⟨.visit index other, exchange⟩ ∈ system.log →
              other.slot = run.slot := by
            intro other exchange logged
            obtain ⟨run'', isTick', same⟩ := sound.slots index other exchange logged
            rw [isTick] at isTick'
            cases isTick'
            exact same.symm
          have isRun : run.Sound settings regime fun key =>
              (system.scene stages).stages ⟨index, key⟩ := sound.ticks index run isTick
          obtain ⟨changed, moves, sameSlot, isSound⟩ := isRun.proceed sound.lawful isSlot proceeds
          exact ⟨changed, sound.proceed isTick moves sameSlot isSound, Or.inr moves.step⟩

theorem run_concat [UrlParser] (turns : List (Turn outside)) (turn : Turn outside) :
    system.run settings (turns ++ [turn]) = (system.run settings turns).take settings turn := by
  rw [run, List.foldl_append]
  rfl

/-- Whatever happens in a run of a system happens in its scene. -/
theorem run_reachable [UrlParser] (settings : Settings) {agents : AgentStore}
    (lawful : regime.lawful agents) (states : StateStore) (world : outside.World)
    (turns : List (Turn outside)) :
    ∃ stages, ((start agents states world).run settings turns).Sound settings regime stages ∧
      Scene.Reachable settings regime (Scene.start agents states world)
        (((start agents states world).run settings turns).scene stages) := by
  induction turns using List.reverseRecOn with
  | nil => exact ⟨_, start_sound lawful, .start⟩
  | append_singleton turns turn ih =>
      obtain ⟨stages, sound, reached⟩ := ih
      obtain ⟨next, sound', moves⟩ := sound.take turn
      rw [run_concat]
      refine ⟨next, sound', ?_⟩
      rcases moves with same | step
      · rw [same]
        exact reached
      · exact .step reached step

end System

end AdMonitor
