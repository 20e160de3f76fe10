import AdMonitor.CommandLine.Session
import AdMonitor.Url.Parser
import Std.Time.DateTime.Timestamp

/-!
# The command line

The first word names a tool, `admin` or `server`; the others are its arguments.
-/

namespace AdMonitor.CommandLine

attribute [local instance] Url.parser

def readClock : IO Instant := do
  let nanos := (← Std.Time.Timestamp.now).toNanosecondsSinceUnixEpoch.val
  return ⟨nanos / 1000000000, (nanos % 1000000000).toNat⟩

def readEnvironment : IO Environment := do
  let mut environment := []
  for name in Environment.relevantNames do
    if let some value ← IO.getEnv name then environment := environment ++ [(name, value)]
  return environment

def readFiles (paths : List String) : IO (List (String × String)) := do
  let mut texts := []
  for path in paths do
    try
      texts := texts ++ [(path, ← IO.FS.readFile path)]
    catch _ => pure ()
  return texts

def finish (outcome : Outcome) : IO UInt32 := do
  for piece in outcome.output do IO.println piece.write
  if let some error := outcome.error then IO.eprintln error
  if let some file := outcome.saved then IO.FS.writeFile file.path file.content
  return outcome.exitCode

def runTool (tool : Tool) (words : List String) : IO UInt32 := do
  let environment ← readEnvironment
  let extra ← readFiles [Tool.environmentFile]
  let full := tool.environment environment ((extra.head?).map (·.2))
  let texts := extra ++ (← readFiles (tool.files full words))
  let files (path : String) : Option String := (texts.find? fun e => e.1 == path).map (·.2)
  finish (tool.run ⟨← readClock, environment, files⟩ words)

end AdMonitor.CommandLine

def main (words : List String) : IO UInt32 :=
  match words with
  | name :: rest =>
      match AdMonitor.Tool.ofName? name with
      | some tool => AdMonitor.CommandLine.runTool tool rest
      | none => do
          IO.eprintln ("unknown tool '" ++ name ++ "'")
          return 2
  | [] => do
      IO.eprintln "Usage: admin|server [ARGUMENTS]"
      return 2
