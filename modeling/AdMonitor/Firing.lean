import AdMonitor.Account.File
import AdMonitor.Target.Reading

/-!
# Firings

A firing is what the actions of an agent know about the target they act on.
-/

namespace AdMonitor

structure Firing where
  agent : Agent
  target : Target
  /-- The metrics under which the condition held. -/
  snapshot : Snapshot
  members : List Member
  reason : String
  firedAt : Instant
  count : UInt64

namespace Firing

/-- The campaigns of the members, each at its first occurrence. -/
def campaigns (firing : Firing) : List CampaignId :=
  (firing.members.map fun m => m.entity.campaign).eraseDups

def payload (firing : Firing) : Json :=
  .obj [
    ("agent", .obj [("id", .str firing.agent.id), ("name", .str firing.agent.name),
      ("workspace_id", .str firing.agent.workspace)]),
    ("target", .obj [("key", .str firing.target.key),
      ("aggregate", .bool firing.target.isAggregate),
      ("entities", .ofStrings (firing.members.map fun m => m.entity.id))]),
    ("trigger", .obj [("reason", .str firing.reason),
      ("mode", .str firing.agent.trigger.mode.name),
      ("fired_at", firing.firedAt.toJson), ("fire_count", .int firing.count.toNat)]),
    ("metrics", firing.snapshot.toJson)]

end Firing

end AdMonitor
