import AdMonitor.Tick

/-!
# Requests to the monitor

Agents are registered, deleted and explained on request, also while ticks are
under way.
-/

namespace AdMonitor

/-- The condition of one target as it stands, without any effect. -/
structure Explanation where
  target : TargetKey
  /-- The report of the condition, or why there are no metrics to judge it by. -/
  outcome : Except String Report
  state : Option TargetState

namespace Settings

def register [UrlParser] (settings : Settings) (agent : Agent) : Program (Except Failure Unit) :=
  match agent.validate settings.maxConditionDepth with
  | .error failure => return .error failure
  | .ok () => Program.ask (.agents (.create agent))

def explainTargets (settings : Settings) (agent : Agent) :
    List Target → Program (Except Failure (List Explanation))
  | [] => return .ok []
  | target :: rest => do
      match ← Program.ask (.states (.get ⟨agent.id, target.key⟩)) with
      | .error failure => return .error failure
      | .ok state =>
          let outcome : Except String Report :=
            match ← agent.read settings.fetchLimit target with
            | .available snapshot _ => .ok (agent.condition.explain snapshot)
            | .unavailable reason => .error reason
          match ← explainTargets settings agent rest with
          | .error failure => return .error failure
          | .ok others => return .ok (⟨target.key, outcome, state⟩ :: others)

def explain [UrlParser] (settings : Settings) (id : AgentId) :
    Program (Except Failure (List Explanation)) := do
  match ← Program.ask (.agents (.get id)) with
  | .error failure => return .error failure
  | .ok none => return .error (AgentStore.unknown id)
  | .ok (some agent) =>
      match agent.validate settings.maxConditionDepth with
      | .error failure => return .error failure
      | .ok () =>
          match ← agent.resolve settings.fetchLimit with
          | .error failure => return .error failure
          | .ok targets => explainTargets settings agent targets

end Settings

/-- Delete an agent and its states; the flag says whether there was one. -/
def AgentStore.dismiss (id : AgentId) : Program (Except Failure Bool) := do
  match ← Program.ask (.agents (.delete id)) with
  | .error failure => return .error failure
  | .ok existed =>
      match ← Program.ask (.states (.remove id)) with
      | .error failure => return .error failure
      | .ok removed => do
          Program.ask (.lock (.forget id []))
          if 0 < removed then Slot.announceCollected id removed
          return .ok existed

end AdMonitor
