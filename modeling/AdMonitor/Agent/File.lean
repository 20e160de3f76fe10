import AdMonitor.Agent
import AdMonitor.Failure
import AdMonitor.Json.Reader

/-!
# Agent files

A list of agents as a JSON document: an array, or an object with the array as
its member `agents`.
-/

namespace AdMonitor.Agent

/-- The agents of a document; times that it leaves out are taken to be now. -/
def listOfJson? (now : Instant) (json : Json) : Option (List Agent) :=
  match json with
  | .arr _ => json.toList? (ofJson? now)
  | _ => do
      let fields ← json.namedFields? ["agents"]
      fields.required "agents" (Json.toList? (ofJson? now))

def readList (now : Instant) (text : String) : Except Failure (List Agent) :=
  match (Json.parse? text).bind (listOfJson? now) with
  | some agents => .ok agents
  | none => .error (.serialization "not a list of agents")

def loadList (now : Instant) : Option String → Except Failure (List Agent)
  | some text => readList now text
  | none => .error .missingFile

end AdMonitor.Agent
