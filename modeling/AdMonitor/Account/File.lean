import AdMonitor.Account
import AdMonitor.Json.Reader
import AdMonitor.Json.Writer

/-!
# Account files

An account as a JSON document: the list of its entities, each with its
workspace, metrics and pause flag.  Rejected budget changes are not written.
-/

namespace AdMonitor

namespace Snapshot

def toJson (snapshot : Snapshot) : Json :=
  .obj (snapshot.entries.map fun e => (e.1, .ofFloat e.2))

/-- Metrics as members of an object; of a repeated name the last value counts. -/
def ofJson? (json : Json) : Option Snapshot := do
  let members ← json.toMembers?
  let entries ← members.mapM fun (name, value) => (Json.toFloat? value).map (name, ·)
  return .ofList entries

end Snapshot

namespace Holding

def toJson (holding : Holding) : Json :=
  .obj (("workspace_id", .str holding.workspace) :: holding.entity.toMembers ++
    [("metrics", .ofOption Snapshot.toJson holding.metrics),
      ("paused", .bool holding.paused)])

def fieldNames : List String :=
  ["workspace_id", "metrics", "paused"] ++ Entity.fieldNames

def ofJson? (json : Json) : Option Holding := do
  let fields ← json.namedFields? fieldNames
  let workspace ← fields.required "workspace_id" Json.toText?
  let entity ← Entity.ofFields? fields
  let metrics ← fields.optional "metrics" Snapshot.ofJson?
  let paused ← fields.withDefault "paused" false Json.toBool?
  return { workspace, entity, metrics, paused }

end Holding

namespace Account

def ofHoldings (holdings : List Holding) : Account :=
  holdings.foldl hold .empty

def toJson (account : Account) : Json :=
  .obj [("entities", .arr (account.holdings.values.map Holding.toJson))]

def ofJson? (json : Json) : Option Account := do
  let fields ← json.fields? ["entities"]
  return .ofHoldings (← fields.required "entities" (Json.toList? Holding.ofJson?))

def read (text : String) : Except Failure Account :=
  match (Json.parse? text).bind ofJson? with
  | some account => .ok account
  | none => .error (.serialization "not an account")

def write (account : Account) : String := account.toJson.pretty

end Account

end AdMonitor
