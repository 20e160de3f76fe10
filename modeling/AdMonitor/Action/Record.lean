import AdMonitor.Action
import AdMonitor.Trigger

/-!
# Records of actions

Every action that is run leaves one record.  Records are read by people and by
no decision of the monitor.
-/

namespace AdMonitor

inductive ActionResult where
  | success
  | failed (reason : String)
  | skipped (reason : String)
  deriving Repr, DecidableEq

namespace ActionResult

def isSuccess : ActionResult → Bool
  | .success => true
  | _ => false

def isFailed : ActionResult → Bool
  | .failed _ => true
  | _ => false

def write : ActionResult → String
  | .success => "success"
  | .failed reason => "failed: " ++ reason
  | .skipped reason => "skipped: " ++ reason

def toJson : ActionResult → Json
  | .success => .obj [("status", .str "success")]
  | .failed reason => .obj [("status", .str "failed"), ("reason", .str reason)]
  | .skipped reason => .obj [("status", .str "skipped"), ("reason", .str reason)]

/-- A result from its status and, unless it is a success, its reason. -/
def ofParts? (status : Json) (reason : Option Json) : Option ActionResult := do
  let word ← status.toWord?
  match word, reason with
  | "success", none => some .success
  | "success", some .null => some .success
  | "failed", some (.str text) => some (.failed text)
  | "skipped", some (.str text) => some (.skipped text)
  | _, _ => none

def ofJson? : Json → Option ActionResult
  | .arr [status, reason] => ofParts? status (some reason)
  | json => do
      let fields ← json.namedFields? ["status", "reason"]
      ofParts? (← fields.find? "status") (fields.find? "reason")

end ActionResult

inductive ActionDetail where
  | notification
  | budget (changes : List BudgetChange) (warning : Option String)
  | pause (campaigns : List CampaignId)
  /-- The last status received, and the number of attempts. -/
  | webhook (status : Option UInt16) (attempts : UInt32)
  deriving BEq

namespace ActionDetail

def toJson : ActionDetail → Json
  | .notification => .obj [("kind", .str "notification")]
  | .budget changes warning =>
      .obj ([("kind", .str "budget"), ("changes", .arr (changes.map BudgetChange.toJson))] ++
        Json.optional "warning" .str warning)
  | .pause campaigns =>
      .obj [("kind", .str "pause"), ("campaign_ids", .ofStrings campaigns)]
  | .webhook status attempts =>
      .obj ([("kind", .str "webhook")] ++
        Json.optional "status" (fun (s : UInt16) => .int s.toNat) status ++
        [("attempts", .int attempts.toNat)])

def ofJson? (json : Json) : Option ActionDetail := do
  let (kind, content) ← json.variant? "kind"
  match kind with
  | "notification" =>
      let _ ← content.fields? []
      return .notification
  | "budget" =>
      let fields ← content.fields? ["changes", "warning"]
      let changes ← fields.required "changes" (Json.toList? BudgetChange.ofJson?)
      let warning ← fields.optional "warning" Json.toText?
      return .budget changes warning
  | "pause" =>
      let fields ← content.fields? ["campaign_ids"]
      return .pause (← fields.required "campaign_ids" (Json.toList? Json.toText?))
  | "webhook" =>
      let fields ← content.fields? ["status", "attempts"]
      let status ← fields.optional "status" (Json.toNat? 16)
      let attempts ← fields.required "attempts" (Json.toNat? 32)
      return .webhook (status.map .ofNat) (.ofNat attempts)
  | _ => none

end ActionDetail

structure ActionRecord where
  /-- The position in the list of actions. -/
  index : Nat
  kind : String
  result : ActionResult
  detail : Option ActionDetail
  executedAt : Instant
  deriving BEq

namespace ActionRecord

def warning (record : ActionRecord) : Option String :=
  match record.detail with
  | some (.budget _ warning) => warning
  | _ => none

def toJson (record : ActionRecord) : Json :=
  .obj ([("action_index", .int record.index), ("action_type", .str record.kind),
      ("result", record.result.toJson)] ++
    Json.optional "detail" ActionDetail.toJson record.detail ++
    [("executed_at", record.executedAt.toJson)])

def ofJson? (json : Json) : Option ActionRecord := do
  let fields ← json.fields? ["action_index", "action_type", "result", "detail", "executed_at"]
  let index ← fields.required "action_index" (Json.toNat? 64)
  let kind ← fields.required "action_type" Json.toText?
  let result ← fields.required "result" ActionResult.ofJson?
  let detail ← fields.optional "detail" ActionDetail.ofJson?
  let executedAt ← fields.required "executed_at" Instant.ofJson?
  return { index, kind, result, detail, executedAt }

end ActionRecord

end AdMonitor
