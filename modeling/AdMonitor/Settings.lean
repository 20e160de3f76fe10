import AdMonitor.Failure
import AdMonitor.Json.Decoder
import AdMonitor.Retry

/-!
# Settings

The numbers that govern the monitor.
-/

namespace AdMonitor

structure Settings where
  /-- The length of a tick. -/
  tickMinutes : UInt32
  /-- How many agents a tick works on at the same time. -/
  maxConcurrentAgents : Nat
  /-- The greatest depth of a condition. -/
  maxConditionDepth : Nat
  webhookTimeoutSecs : Nat
  webhookMaxRetries : UInt32
  webhookRetryBaseMs : Nat
  eventBufferSize : Nat
  metricFetchTimeoutSecs : Nat
  actionTimeoutSecs : Nat
  deriving Repr, DecidableEq

inductive SettingsFault where
  | tickMinutes | maxConcurrentAgents | maxConditionDepth
  deriving Repr, DecidableEq

namespace SettingsFault

def name : SettingsFault → String
  | .tickMinutes => "tick_minutes"
  | .maxConcurrentAgents => "max_concurrent_agents"
  | .maxConditionDepth => "max_condition_depth"

def message (fault : SettingsFault) : String := fault.name ++ " must be at least 1"

end SettingsFault

namespace Settings

def standard : Settings where
  tickMinutes := 15
  maxConcurrentAgents := 16
  maxConditionDepth := 8
  webhookTimeoutSecs := 10
  webhookMaxRetries := 2
  webhookRetryBaseMs := 250
  eventBufferSize := 1000
  metricFetchTimeoutSecs := 30
  actionTimeoutSecs := 30

instance : Inhabited Settings := ⟨standard⟩

def check (settings : Settings) : Except SettingsFault Unit := do
  if settings.tickMinutes == 0 then throw .tickMinutes
  if settings.maxConcurrentAgents == 0 then throw .maxConcurrentAgents
  if settings.maxConditionDepth == 0 then throw .maxConditionDepth

def validate (settings : Settings) : Except Failure Unit :=
  settings.check.mapError fun fault => .configuration fault.message

def tickInterval (settings : Settings) : Span :=
  .ofSeconds (settings.tickMinutes.toNat * 60)

def webhookLimit (settings : Settings) : Span := .ofSeconds settings.webhookTimeoutSecs

def fetchLimit (settings : Settings) : Span := .ofSeconds settings.metricFetchTimeoutSecs

def actionLimit (settings : Settings) : Span := .ofSeconds settings.actionTimeoutSecs

def retry (settings : Settings) : RetryPolicy :=
  ⟨settings.webhookMaxRetries, ⟨settings.webhookRetryBaseMs⟩⟩

def toJson (settings : Settings) : Json :=
  .obj [("tick_minutes", .int settings.tickMinutes.toNat),
    ("max_concurrent_agents", .int settings.maxConcurrentAgents),
    ("max_condition_depth", .int settings.maxConditionDepth),
    ("webhook_timeout_secs", .int settings.webhookTimeoutSecs),
    ("webhook_max_retries", .int settings.webhookMaxRetries.toNat),
    ("webhook_retry_base_ms", .int settings.webhookRetryBaseMs),
    ("event_buffer_size", .int settings.eventBufferSize),
    ("metric_fetch_timeout_secs", .int settings.metricFetchTimeoutSecs),
    ("action_timeout_secs", .int settings.actionTimeoutSecs)]

def fieldNames : List String :=
  ["tick_minutes", "max_concurrent_agents", "max_condition_depth", "webhook_timeout_secs",
    "webhook_max_retries", "webhook_retry_base_ms", "event_buffer_size",
    "metric_fetch_timeout_secs", "action_timeout_secs"]

/-- Settings from numbers; `number bits name default` is the value of a field. -/
def ofNumbers? (number : Nat → String → Nat → Option Nat) : Option Settings := do
  let tickMinutes ← number 32 "tick_minutes" 15
  let maxConcurrentAgents ← number 64 "max_concurrent_agents" 16
  let maxConditionDepth ← number 64 "max_condition_depth" 8
  let webhookTimeoutSecs ← number 64 "webhook_timeout_secs" 10
  let webhookMaxRetries ← number 32 "webhook_max_retries" 2
  let webhookRetryBaseMs ← number 64 "webhook_retry_base_ms" 250
  let eventBufferSize ← number 64 "event_buffer_size" 1000
  let metricFetchTimeoutSecs ← number 64 "metric_fetch_timeout_secs" 30
  let actionTimeoutSecs ← number 64 "action_timeout_secs" 30
  return {
    tickMinutes := .ofNat tickMinutes
    maxConcurrentAgents, maxConditionDepth, webhookTimeoutSecs
    webhookMaxRetries := .ofNat webhookMaxRetries
    webhookRetryBaseMs, eventBufferSize, metricFetchTimeoutSecs, actionTimeoutSecs }

def ofJson? (json : Json) : Option Settings := do
  let fields ← json.fields? fieldNames
  ofNumbers? fun bits name default => fields.withDefault name default (Json.toNat? bits)

end Settings

end AdMonitor
