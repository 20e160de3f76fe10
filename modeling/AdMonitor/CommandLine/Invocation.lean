import AdMonitor.Agent
import AdMonitor.CommandLine.Arguments
import AdMonitor.Settings.Source

/-!
# Invocations

Two tools share the commands of the monitor: the administrator's tool checks,
replays and explains, and the server runs a single tick.
-/

namespace AdMonitor

inductive Command where
  /-- Check the agents of a file. -/
  | validate (agents : String)
  /-- Run consecutive ticks, the last of which is the present one. -/
  | replay (agents metrics : String) (ticks : UInt32) (save json : Bool)
  /-- Explain the condition of one agent. -/
  | explain (agents metrics : String) (agent : AgentId)
  /-- Run one tick now. -/
  | tick (agents metrics : String) (save : Bool)
  deriving Repr, DecidableEq

namespace Command

def files : Command → List String
  | .validate agents => [agents]
  | .replay agents metrics .. | .explain agents metrics _ | .tick agents metrics _ =>
      [agents, metrics]

end Command

structure Invocation where
  settingsFile : Option String
  command : Command
  deriving Repr, DecidableEq

namespace OptionRule

def agents : OptionRule := ⟨"agents", none, .path⟩
def metrics : OptionRule := ⟨"metrics", none, .path⟩
def config : OptionRule := ⟨"config", none, .path⟩
def ticks : OptionRule := ⟨"ticks", none, .count⟩
def save : OptionRule := ⟨"save", none, .flag⟩
def json : OptionRule := ⟨"json", none, .flag⟩
def once : OptionRule := ⟨"once", none, .flag⟩
def agent : OptionRule := ⟨"agent", none, .text⟩
def verbose : OptionRule := ⟨"verbose", some 'v', .flag⟩
def help : OptionRule := ⟨"help", some 'h', .help⟩
def version : OptionRule := ⟨"version", some 'V', .version⟩

end OptionRule

namespace Environment

def agentsVariable : String := "CAMPAIGN_WATCH_AGENTS"

def metricsVariable : String := "CAMPAIGN_WATCH_METRICS"

def relevantNames : List String :=
  [agentsVariable, metricsVariable, fileVariable] ++ Settings.fieldNames.map settingVariable

end Environment

namespace GivenOptions

def required (given : GivenOptions) (rule : OptionRule) : Except Interruption String :=
  match given.value? rule.name with
  | some value => .ok value
  | none => .error (.misuse (.missing ("--" ++ rule.name)))

/-- The value of an option, for which a variable of the environment may stand. -/
def requiredOr (given : GivenOptions) (environment : Environment) (rule : OptionRule)
    (substitute : String) : Except Interruption String :=
  match given.value? rule.name with
  | some value => .ok value
  | none =>
      match environment.value? substitute with
      | none => .error (.misuse (.missing ("--" ++ rule.name)))
      | some value =>
          if rule.kind.accepts value then .ok value
          else .error (.misuse (.invalidValue rule.name value))

def agentsFile (given : GivenOptions) (environment : Environment) :
    Except Interruption String :=
  given.requiredOr environment .agents Environment.agentsVariable

def metricsFile (given : GivenOptions) (environment : Environment) :
    Except Interruption String :=
  given.requiredOr environment .metrics Environment.metricsVariable

/-- The number of ticks, which is one unless it is given. -/
def tickCount (given : GivenOptions) : UInt32 :=
  ((given.value? OptionRule.ticks.name).bind readCount?).getD 1

end GivenOptions

inductive AdminCommand where
  | validate | runOnce | explain
  deriving Repr, DecidableEq

namespace AdminCommand

def all : List AdminCommand := [.validate, .runOnce, .explain]

def name : AdminCommand → String
  | .validate => "validate"
  | .runOnce => "run-once"
  | .explain => "explain"

def ofName? (name : String) : Option AdminCommand :=
  all.find? fun command => command.name == name

def rules : AdminCommand → List OptionRule
  | .validate => [.agents]
  | .runOnce => [.agents, .metrics, .ticks, .save, .json]
  | .explain => [.agents, .metrics, .agent]

def interpret (given : GivenOptions) (environment : Environment) :
    AdminCommand → Except Interruption Command
  | .validate => do
      return .validate (← given.agentsFile environment)
  | .runOnce => do
      return .replay (← given.agentsFile environment) (← given.metricsFile environment)
        given.tickCount (given.has "save") (given.has "json")
  | .explain => do
      return .explain (← given.agentsFile environment) (← given.metricsFile environment)
        (← given.required .agent)

end AdminCommand

inductive Tool where
  | admin | server
  deriving Repr, DecidableEq

namespace Tool

def ofName? : String → Option Tool
  | "admin" => some .admin
  | "server" => some .server
  | _ => none

def banner : Tool → String
  | .admin => "campaign-watch-admin 1.0"
  | .server => "campaign-watch-server 0.1.0"

def usage : Tool → String
  | .admin => "Usage: campaign-watch-admin [OPTIONS] <COMMAND>"
  | .server => "Usage: campaign-watch-server [OPTIONS] --agents <AGENTS> --metrics <METRICS>"

def sharedRules : List OptionRule := [.config, .verbose, .help]

def serverRules : List OptionRule :=
  [.agents, .metrics, .config, .save, .once, .help, .version]

def explainUsage : List String → Interruption
  | [] => .help
  | word :: rest =>
      if (AdminCommand.ofName? word).isSome || word == "help" then
        match rest with
        | [] => .help
        | extra :: _ => .misuse (.unexpected extra)
      else .misuse (.unexpected word)

/-- The options after a command take precedence over those before it. -/
def readAdmin (environment : Environment) (words : List String) :
    Except Interruption Invocation := do
  match ← GivenOptions.read (OptionRule.version :: sharedRules) [] words with
  | (_, []) => throw (.misuse (.missing "command"))
  | (_, "help" :: rest) => throw (explainUsage rest)
  | (before, word :: rest) =>
      match AdminCommand.ofName? word with
      | none => throw (.misuse (.unexpected word))
      | some name =>
          let given ← GivenOptions.readAll (name.rules ++ sharedRules) rest
          let command ← name.interpret given environment
          return ⟨(given.value? "config").or (before.value? "config"), command⟩

/-- The server runs a single tick, and has to be told so. -/
def readServer (environment : Environment) (words : List String) :
    Except Interruption Invocation := do
  let given ← GivenOptions.readAll serverRules words
  let agents ← given.agentsFile environment
  let metrics ← given.metricsFile environment
  if given.has "once" then
    return ⟨given.value? "config", .tick agents metrics (given.has "save")⟩
  else throw (.misuse (.missing "--once"))

def read : Tool → Environment → List String → Except Interruption Invocation
  | .admin => readAdmin
  | .server => readServer

end Tool

namespace Invocation

def files (invocation : Invocation) (environment : Environment) : List String :=
  invocation.command.files ++
    ((Settings.filePath? invocation.settingsFile environment).map Settings.candidates).getD []

end Invocation

end AdMonitor
