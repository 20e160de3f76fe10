import AdMonitor.Span
import AdMonitor.Url

/-!
# Posting to web addresses

Which addresses take notifications, and what can go wrong in a post.
-/

namespace AdMonitor.Webhook

inductive Fault where
  /-- The address cannot be posted to at all. -/
  | invalidUrl (detail : String)
  | timedOut (limit : Span)
  | connection (detail : String)
  | request (detail : String)
  deriving Repr, DecidableEq

namespace Fault

def message : Fault → String
  | .invalidUrl detail => "invalid webhook url: " ++ detail
  | .timedOut limit => "webhook timed out after " ++ limit.write
  | .connection detail => "webhook connection failed: " ++ detail
  | .request detail => "webhook request failed: " ++ detail

/-- Only a lost connection or a time-out is worth another attempt. -/
def isTransient : Fault → Bool
  | .timedOut _ | .connection _ => true
  | .invalidUrl _ | .request _ => false

end Fault

def checkUrl [UrlParser] (url : String) : Except Fault String :=
  match UrlParser.scheme url with
  | .error fault => .error (.invalidUrl (url ++ ": " ++ fault))
  | .ok scheme =>
      if UrlParser.isPostable scheme then .ok scheme
      else .error (.invalidUrl (url ++ ": unsupported scheme '" ++ scheme ++ "'"))

end AdMonitor.Webhook
