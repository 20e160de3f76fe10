import AdMonitor.Account.File
import AdMonitor.Agent.File
import AdMonitor.CommandLine.Display
import AdMonitor.CommandLine.Invocation
import AdMonitor.Settings.EnvironmentFile
import AdMonitor.Simulation.Runner
import AdMonitor.Tick.Replay

/-!
# Sessions

A session carries out one command.  The account and the agents come from files,
the metrics provider, the ad platform and the notifier are simulated, and
webhooks are out of reach.
-/

namespace AdMonitor

inductive Output where
  | line (text : String)
  | report (report : TickReport)

namespace Output

def write : Output → String
  | .line text => text
  | .report shown => shown.toJson.pretty

end Output

structure SavedFile where
  path : String
  content : String

inductive Stop where
  | error (message : String)
  /-- A count has overflowed in a tick. -/
  | overflow

abbrev Session := ExceptT Stop (StateM (List Output))

structure Surroundings where
  now : Instant
  environment : Environment
  /-- The texts of files that exist. -/
  files : String → Option String

namespace Session

def put (output : List Output) : Session Unit := modify fun before => before ++ output

def say (lines : List String) : Session Unit := put (lines.map .line)

/-- The value of a step that may fail, under a description of the step. -/
def under {α : Type} (description : String) : Except Failure α → Session α
  | .ok value => return value
  | .error _ => throw (.error description)

def perform [UrlParser] {α : Type} (world : World) (program : Program α) : Session (α × World) :=
  match world.run program with
  | (some value, world) => return (value, world)
  | (none, _) => throw (.error "no answer")

def loadSettings (around : Surroundings) (path : Option String) : Session Settings :=
  under "loading configuration" (Settings.load around.files path around.environment)

def loadAgents (around : Surroundings) (path : String) : Session (List Agent) :=
  under ("reading agents from " ++ path) (Agent.loadList around.now (around.files path))

def loadAccount (around : Surroundings) (path : String) : Session Account :=
  under ("reading account from " ++ path)
    (match around.files path with
      | some text => Account.read text
      | none => .error .missingFile)

def registerAll [UrlParser] (settings : Settings) (talkative : Bool) :
    List Agent → World → Session World
  | [], world => return world
  | agent :: rest, world => do
      let (outcome, world) ← perform world (settings.register agent)
      match outcome with
      | .error failure =>
          if talkative then
            say ["⚠ skipping agent " ++ agent.id ++ ": " ++ failure.message]
      | .ok () => pure ()
      registerAll settings talkative rest world

def prepare [UrlParser] (around : Surroundings) (settings : Settings) (talkative : Bool)
    (agents metrics : String) : Session World := do
  let account ← loadAccount around metrics
  let agents ← loadAgents around agents
  registerAll settings talkative agents
    (.start around.now account .empty .offline settings.eventBufferSize)

def showReport (json : Bool) (report : TickReport) : Session Unit :=
  if json then put [.report report] else say report.lines

def runTicks [UrlParser] (settings : Settings) (json : Bool) : List Slot → World → Session World
  | [], world => return world
  | slot :: rest, world => do
      match world.runTicksNow settings [slot] with
      | none => throw .overflow
      | some (reports, world) =>
          for report in reports do showReport json report
          runTicks settings json rest world

def validate [UrlParser] (around : Surroundings) (settings : Settings) (path : String) :
    Session (Option SavedFile) := do
  let agents ← loadAgents around path
  let limit := settings.maxConditionDepth
  say (["", "🔍 Validating " ++ toString agents.length ++ " agents from " ++ path, headRule] ++
    agents.map fun agent => agent.verdictLine limit)
  let invalid := agents.countP fun agent => !(agent.validate limit).isOk
  if invalid = 0 then
    say ["", "All agents are valid"]
    return none
  else
    throw (.error (toString invalid ++ " of " ++ toString agents.length ++
      " agents are invalid"))

def replay [UrlParser] (around : Surroundings) (settings : Settings) (agents metrics : String)
    (ticks : UInt32) (save json : Bool) : Session (Option SavedFile) := do
  if ticks = 0 then throw (.error "--ticks must be at least 1")
  let world ← prepare around settings true agents metrics
  let world ← runTicks settings json (settings.replay around.now ticks.toNat) world
  let sent := world.effects.notices.length
  if !json && sent != 0 then
    say ["", "📧 " ++ toString sent ++ " notifications enqueued"]
  if save then
    say ["💾 Account written to " ++ metrics]
    return some ⟨metrics, world.account.write⟩
  else return none

def explain [UrlParser] (around : Surroundings) (settings : Settings) (agents metrics : String)
    (agent : AgentId) : Session (Option SavedFile) := do
  let world ← prepare around settings true agents metrics
  match ← perform world (settings.explain agent) with
  | (.error failure, _) => throw (.error failure.message)
  | (.ok explanations, _) =>
      say (Explanation.linesOf agent explanations)
      return none

def tick [UrlParser] (around : Surroundings) (settings : Settings) (agents metrics : String)
    (save : Bool) : Session (Option SavedFile) := do
  let world ← prepare around settings false agents metrics
  let world ← runTicks settings true [settings.slot around.now] world
  return if save then some ⟨metrics, world.account.write⟩ else none

/-- Carry out a command; the result is the file that it saves. -/
def ofCommand [UrlParser] (around : Surroundings) (settings : Settings) :
    Command → Session (Option SavedFile)
  | .validate agents => validate around settings agents
  | .replay agents metrics ticks save json =>
      replay around settings agents metrics ticks save json
  | .explain agents metrics agent => explain around settings agents metrics agent
  | .tick agents metrics save => tick around settings agents metrics save

def ofInvocation [UrlParser] (around : Surroundings) (invocation : Invocation) :
    Session (Option SavedFile) := do
  let settings ← loadSettings around invocation.settingsFile
  ofCommand around settings invocation.command

end Session

structure Outcome where
  exitCode : UInt32
  output : List Output
  error : Option String
  saved : Option SavedFile

namespace Outcome

def ofSession (session : Session (Option SavedFile)) : Outcome :=
  match session.run.run [] with
  | (.ok saved, output) => ⟨0, output, none, saved⟩
  | (.error (.error message), output) => ⟨1, output, some ("Error: " ++ message), none⟩
  | (.error .overflow, output) => ⟨101, output, some "attempt to add with overflow", none⟩

def ofInterruption (tool : Tool) : Interruption → Outcome
  | .help => ⟨0, [.line tool.usage], none, none⟩
  | .version => ⟨0, [.line tool.banner], none, none⟩
  | .misuse fault => ⟨2, [], some ("error: " ++ fault.message), none⟩

end Outcome

namespace Tool

/-- The environment of a tool; the server adds the variables of a file to it. -/
def environment (tool : Tool) (environment : Environment) (file : Option String) :
    Environment :=
  match tool, file with
  | .server, some text => Environment.extend environment text
  | _, _ => environment

def environmentFile : String := ".env"

def files (tool : Tool) (environment : Environment) (words : List String) : List String :=
  match tool.read environment words with
  | .ok invocation => invocation.files environment
  | .error _ => []

def run [UrlParser] (tool : Tool) (around : Surroundings) (words : List String) : Outcome :=
  let environment := tool.environment around.environment (around.files environmentFile)
  match tool.read environment words with
  | .error interruption => .ofInterruption tool interruption
  | .ok invocation => .ofSession (Session.ofInvocation { around with environment } invocation)

end Tool

end AdMonitor
