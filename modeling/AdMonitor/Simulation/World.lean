import AdMonitor.Event.Bus
import AdMonitor.Simulation.Locks
import AdMonitor.Simulation.Script

/-!
# Simulated worlds

A world holds everything that calls can reach: an account, the stores, the
locks, the observers and a clock that moves only when everything waits.
-/

namespace AdMonitor

inductive PlatformChange where
  | budget (campaign : CampaignId) (budget : Float)
  | paused (campaign : CampaignId) (paused : Bool)

namespace PlatformChange

def campaign : PlatformChange → CampaignId
  | .budget campaign _ | .paused campaign _ => campaign

end PlatformChange

def PlatformQuery.change? : PlatformQuery → Option PlatformChange
  | .currentBudget _ => none
  | .updateBudget campaign budget => some (.budget campaign budget)
  | .setPaused campaign paused => some (.paused campaign paused)

structure Notice where
  workspace : WorkspaceId
  payload : Json

structure Post where
  url : String
  time : Nat
  limit : Span
  payload : Json

/-- What the monitor did to the outside, in order. -/
structure Effects where
  changes : List PlatformChange
  notices : List Notice
  posts : List Post

namespace Effects

def none : Effects := ⟨[], [], []⟩

end Effects

structure World where
  /-- Milliseconds since the start of the simulation. -/
  time : Nat
  /-- The time of day at the start of the simulation. -/
  epoch : Instant
  account : Account
  agents : AgentStore
  states : StateStore
  bus : Bus Event
  locks : LockTable
  script : Script
  effects : Effects
  /-- A number for the next timer, ticket or job. -/
  serial : Nat

namespace World

def start (epoch : Instant) (account : Account) (agents : AgentStore) (script : Script)
    (eventCapacity : Nat) : World where
  time := 0
  epoch := epoch
  account := account
  agents := agents
  states := .empty
  bus := .ofCapacity eventCapacity
  locks := .empty
  script := script
  effects := .none
  serial := 0

def now (world : World) : Instant :=
  let millis := world.epoch.nanos / 1000000 + world.time
  ⟨world.epoch.seconds + (millis / 1000 : Nat),
    millis % 1000 * 1000000 + world.epoch.nanos % 1000000⟩

def nextSerial (world : World) : Nat × World :=
  (world.serial, { world with serial := world.serial + 1 })

def noteChange (world : World) (query : PlatformQuery) : World :=
  { world with effects :=
      { world.effects with changes := world.effects.changes ++ query.change?.toList } }

def notify (world : World) (workspace : WorkspaceId) (payload : Json) : World :=
  { world with effects :=
      { world.effects with notices := world.effects.notices ++ [⟨workspace, payload⟩] } }

/-- Attempt a post; an address that cannot be posted to is refused. -/
def post [UrlParser] (world : World) (limit : Span) (url : String) (payload : Json) :
    PostOutcome × World :=
  let noted := { world with effects :=
    { world.effects with
        posts := world.effects.posts ++ [⟨url, world.time, limit, payload⟩] } }
  match Webhook.checkUrl url with
  | .error fault => (.error fault, noted)
  | .ok _ =>
      let (outcome, script) := world.script.post url
      (outcome, { noted with script })

def allEntities (world : World) (workspace : WorkspaceId) : List Entity :=
  Level.all.flatMap fun level => world.account.list workspace ⟨none, level⟩

def answerMetrics (world : World) : (query : MetricsQuery) → query.Answer
  | .list workspace filter =>
      if world.script.unfiltered then world.allEntities workspace
      else MetricsQuery.answer world.account (.list workspace filter)
  | .entity key => MetricsQuery.answer world.account (.entity key)
  | .snapshot key names => MetricsQuery.answer world.account (.snapshot key names)

def answerPlatform (world : World) (query : PlatformQuery) :
    Except Failure query.Answer × World :=
  let (answer, account) := query.answer world.account
  (answer, { world with account })

def answerAgents (world : World) (query : AgentQuery) : Except Failure query.Answer × World :=
  let (answer, agents) := query.answer world.agents
  (answer, { world with agents })

def answerStates (world : World) (query : StateQuery) : query.Answer × World :=
  let (answer, states) := query.answer world.states
  (answer, { world with states })

end World

end AdMonitor
