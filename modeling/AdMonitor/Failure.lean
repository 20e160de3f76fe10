/-!
# Failures

What can go wrong in a call of the monitor or of one of its collaborators.
-/

namespace AdMonitor

inductive Failure where
  /-- The definition of an agent is malformed. -/
  | invalidAgent (detail : String)
  /-- An agent or a campaign does not exist. -/
  | notFound (detail : String)
  /-- The metrics provider has no answer. -/
  | metricsUnavailable (detail : String)
  /-- The ad platform or the notifier failed. -/
  | collaborator (detail : String)
  /-- A store failed. -/
  | storage (detail : String)
  /-- A document does not have the expected shape. -/
  | serialization (detail : String)
  /-- The settings cannot be loaded or used. -/
  | configuration (detail : String)
  | internal (detail : String)
  deriving Repr, DecidableEq

namespace Failure

def message : Failure → String
  | .invalidAgent detail => "Invalid agent: " ++ detail
  | .notFound detail => "Not found: " ++ detail
  | .metricsUnavailable detail => "Metrics unavailable: " ++ detail
  | .collaborator detail => "Collaborator error: " ++ detail
  | .storage detail => "Storage error: " ++ detail
  | .serialization detail => "Serialization error: " ++ detail
  | .configuration detail => "Configuration error: " ++ detail
  | .internal detail => "Internal error: " ++ detail

def missingFile : Failure := .internal "No such file or directory (os error 2)"

end Failure

end AdMonitor
