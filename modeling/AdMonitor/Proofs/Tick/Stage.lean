import AdMonitor.Proofs.Program.Follows
import AdMonitor.Tick

/-!
# What ticks do besides visits

The work on an agent before and after its visits uses few calls, and what it
collects is what its scope no longer has.  A tick removes the states of an
agent only after it was told which agents there are, and that one was not among
them (`TickStep`).
-/

namespace AdMonitor

namespace Scope

def targetKeys (scope : Scope) : List TargetKey :=
  match scope.selection with
  | .all true => [TargetKey.aggregate]
  | .all false => []
  | .listed _ => scope.distinctIds

theorem eraseDups_nodup (names : List String) : names.eraseDups.Nodup := by
  induction size : names.length using Nat.strongRecOn generalizing names with
  | ind size ih =>
      cases names with
      | nil => simp
      | cons name rest =>
          rw [List.eraseDups_cons, List.nodup_cons]
          constructor
          · simp
          · refine ih _ ?_ _ rfl
            rw [← size]
            exact Nat.lt_succ_of_le (List.length_filter_le ..)

theorem targetKeys_nodup (scope : Scope) : scope.targetKeys.Nodup := by
  unfold targetKeys
  split
  · simp
  · simp
  · rename_i ids selection
    rw [distinctIds, selection]
    exact eraseDups_nodup ids

end Scope

namespace Call

def IsOpening : Call → Prop
  | .metrics .. | .publish (.agentFailed ..) => True
  | _ => False

/-- Calls of the work on an agent after its visits, which keeps the states of some targets. -/
def IsClosing (agent : AgentId) (keep : List TargetKey) : Call → Prop
  | .states (.retain owner kept) | .lock (.forget owner kept) => owner = agent ∧ kept = keep
  | .agents (.mark ..) | .publish (.stateCollected ..) => True
  | _ => False

def IsSweep : Call → Prop
  | .agents .list | .states .owners | .states (.remove _) | .lock (.forget ..) | .clock
  | .publish (.stateCollected ..) | .publish (.tickCompleted ..) => True
  | _ => False

def IsNote : Call → Prop
  | .agents .list | .agents .listActive | .states .owners | .clock
  | .publish (.tickStarted ..) | .publish (.tickCompleted ..)
  | .publish (.stateCollected ..) => True
  | _ => False

end Call

def Agent.Finds (agent : Agent) (found : Except Failure (List Target)) : Prop :=
  ∀ targets, found = .ok targets → targets.map Target.key = agent.scope.targetKeys

theorem Agent.resolve_uses (limit : Span) (agent : Agent) :
    (agent.resolve limit).Uses Call.IsOpening agent.Finds := by
  unfold Agent.resolve Agent.Finds Scope.targetKeys
  cases selection : agent.scope.selection with
  | all aggregate =>
      cases aggregate with
      | false => exact fun _ => nofun
      | true =>
          refine Program.Uses.ask (show Call.IsOpening _ from trivial) fun reply => ?_
          cases Reply.metrics limit reply with
          | error failure => exact fun _ => nofun
          | ok entities =>
              rintro _ ⟨⟩
              rfl
  | listed ids =>
      rintro _ ⟨⟩
      rw [List.map_map]
      exact List.map_id _

namespace Slot

theorem openAgent_uses [UrlParser] (settings : Settings) (slot : Slot) (agent : Agent) :
    (slot.openAgent settings agent).Uses Call.IsOpening agent.Finds := by
  unfold Slot.openAgent
  cases agent.validate settings.maxConditionDepth with
  | error failure => exact ⟨trivial, fun _ targets same => by cases same⟩
  | ok done =>
      refine (agent.resolve_uses settings.fetchLimit).bind fun found keys => ?_
      cases found with
      | error failure => exact ⟨trivial, fun _ targets same => by cases same⟩
      | ok targets => exact keys

theorem collectOrphans_uses (agent : AgentId) (keep : List TargetKey) :
    (collectOrphans agent keep).Uses (Call.IsClosing agent keep) (fun _ => True) := by
  refine Program.Uses.ask ⟨rfl, rfl⟩ fun answer => ?_
  split
  · trivial
  · trivial
  · refine Program.Uses.ask ⟨rfl, rfl⟩ fun _ => ?_
    exact Program.Uses.ask trivial fun _ => trivial

theorem closeAgent_uses (slot : Slot) (agent : Agent) (targets : List Target) :
    (slot.closeAgent agent targets).Uses
      (Call.IsClosing agent.id (targets.map Target.key)) (fun _ => True) :=
  (collectOrphans_uses ..).bind fun _ _ => Program.Uses.ask trivial fun _ => trivial

theorem collectOwners_uses (owners : List AgentId) :
    (collectOwners owners).Uses Call.IsSweep (fun _ => True) := by
  induction owners with
  | nil => trivial
  | cons owner rest ih =>
      refine Program.Uses.ask trivial fun answer => ?_
      cases answer with
      | error failure => exact ih
      | ok removed =>
          refine Program.Uses.ask trivial fun _ => Program.Uses.ask trivial fun _ => ?_
          exact ih.bind fun _ _ => trivial

theorem collectDeleted_uses : collectDeleted.Uses Call.IsSweep (fun _ => True) := by
  refine Program.Uses.ask trivial fun answer => ?_
  cases answer with
  | error failure => trivial
  | ok known =>
      refine Program.Uses.ask trivial fun answer => ?_
      cases answer with
      | error failure => trivial
      | ok owners => exact collectOwners_uses _

theorem closeTick_uses (slot : Slot) (startedAt : Instant) (outcomes : List AgentOutcome) :
    (slot.closeTick startedAt outcomes).Uses Call.IsSweep (fun _ => True) := by
  refine collectDeleted_uses.bind fun collected _ => ?_
  exact Program.Uses.ask trivial fun _ => Program.Uses.ask trivial fun _ => trivial

end Slot

inductive TickView where
  | nothing
  | active (agents : List Agent)
  | known (agents : List Agent)

/-- Everything that a tick can do before and after the work on its agents. -/
inductive TickStep : TickView → Exchange → TickView → Prop where
  | load (agents : List Agent) :
      TickStep .nothing ⟨.agents .listActive, .ok agents⟩ (.active agents)
  | list (agents : List Agent) :
      TickStep .nothing ⟨.agents .list, .ok agents⟩ (.known agents)
  | remove (agents : List Agent) (owner : AgentId) (answer : Except Failure Nat)
      (isGone : ∀ agent ∈ agents, agent.id ≠ owner) :
      TickStep (.known agents) ⟨.states (.remove owner), answer⟩ (.known agents)
  | forget (agents : List Agent) (owner : AgentId)
      (isGone : ∀ agent ∈ agents, agent.id ≠ owner) :
      TickStep (.known agents) ⟨.lock (.forget owner []), ()⟩ (.known agents)
  | note (view : TickView) (exchange : Exchange) (isNote : exchange.call.IsNote) :
      TickStep view exchange view

namespace Slot

/-- The agents of a tick are the active ones that it was told. -/
theorem openTick_follows (slot : Slot) :
    slot.openTick.Follows TickStep
      (fun view opening => ∀ agents, opening.agents = .ok agents → view = .active agents)
      .nothing := by
  refine Program.Follows.ask fun startedAt => ⟨_, .note _ _ trivial, ?_⟩
  refine Program.Follows.ask fun answer => ?_
  cases answer with
  | error failure =>
      refine ⟨_, .note _ _ trivial, Program.Follows.ask fun _ => ?_⟩
      exact ⟨_, .note _ _ trivial, nofun⟩
  | ok agents =>
      refine ⟨_, .load agents, Program.Follows.ask fun _ => ⟨_, .note _ _ trivial, ?_⟩⟩
      rintro _ ⟨⟩
      rfl

theorem collectOwners_follows (agents : List Agent) (owners : List AgentId)
    (areGone : ∀ owner ∈ owners, ∀ agent ∈ agents, agent.id ≠ owner) :
    (collectOwners owners).Follows TickStep (fun _ _ => True) (.known agents) := by
  induction owners with
  | nil => trivial
  | cons owner rest ih =>
      have isGone := areGone owner List.mem_cons_self
      have others := ih fun owner found => areGone owner (List.mem_cons_of_mem _ found)
      refine Program.Follows.ask fun answer => ⟨_, .remove agents owner answer isGone, ?_⟩
      cases answer with
      | error failure => exact others
      | ok removed =>
          refine Program.Follows.ask fun _ => ⟨_, .forget agents owner isGone, ?_⟩
          refine Program.Follows.ask fun _ => ⟨_, .note _ _ trivial, ?_⟩
          exact others.bind fun _ _ _ => trivial

theorem collectDeleted_follows :
    collectDeleted.Follows TickStep (fun _ _ => True) .nothing := by
  refine Program.Follows.ask fun answer => ?_
  cases answer with
  | error failure => exact ⟨_, .note _ _ trivial, trivial⟩
  | ok agents =>
      refine ⟨_, .list agents, Program.Follows.ask fun answer => ⟨_, .note _ _ trivial, ?_⟩⟩
      cases answer with
      | error failure => trivial
      | ok owners =>
          refine collectOwners_follows agents _ fun owner found agent isKnown same => ?_
          simp only [List.mem_filter, Bool.not_eq_true', List.any_eq_false] at found
          exact found.2 agent isKnown (beq_iff_eq.2 same)

theorem closeTick_follows (slot : Slot) (startedAt : Instant) (outcomes : List AgentOutcome) :
    (slot.closeTick startedAt outcomes).Follows TickStep (fun _ _ => True) .nothing := by
  refine collectDeleted_follows.bind fun view collected _ => ?_
  refine Program.Follows.ask fun _ => ⟨_, .note _ _ trivial, ?_⟩
  exact Program.Follows.ask fun _ => ⟨_, .note _ _ trivial, trivial⟩

end Slot

end AdMonitor
