/-!
# Addresses on the web

How a text is read as a URL is left open: a parser tells the scheme of one, or
what is wrong with the text.
-/

namespace AdMonitor

class UrlParser where
  /-- The scheme in lower case, or in words why a text is no URL. -/
  scheme : String → Except String String

/-- Whether a scheme is one that notifications can be posted to. -/
def UrlParser.isPostable (scheme : String) : Bool :=
  scheme == "http" || scheme == "https"

@[reducible] def UrlParser.refusing : UrlParser where
  scheme _ := .error "relative URL without a base"

end AdMonitor
