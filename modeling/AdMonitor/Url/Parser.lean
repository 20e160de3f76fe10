import AdMonitor.Url
import AdMonitor.Url.Domain

/-!
# A parser of URLs

A parser for running the monitor, which follows the URL standard.  Only scheme,
host and port can be wrong; path, query and fragment take any text.  Of the
rules for international names, those on combining marks, text direction and
joiners are left out.
-/

namespace AdMonitor.Url

/-- The text without control characters and blanks at its ends, tabs and line breaks. -/
def clean (text : String) : List Char :=
  let isEdge (c : Char) : Bool := decide (c.toNat ≤ 0x20)
  let trimmed := ((text.toList.dropWhile isEdge).reverse.dropWhile isEdge).reverse
  trimmed.filter fun c => c != '\t' && c != '\n' && c != '\r'

def splitScheme? (text : List Char) : Option (List Char × List Char) :=
  match text with
  | [] => none
  | first :: _ =>
      let scheme := text.takeWhile fun c => c.isAlphanum || c == '+' || c == '-' || c == '.'
      match text.drop scheme.length with
      | ':' :: rest => if first.isAlpha then some (scheme.map Char.toLower, rest) else none
      | _ => none

inductive SchemeKind where
  | web | file | other
  deriving DecidableEq

def schemeKind (scheme : String) : SchemeKind :=
  if ["http", "https", "ws", "wss", "ftp"].contains scheme then .web
  else if scheme == "file" then .file
  else .other

/-- Whether a character ends the part of a URL that names user, host and port. -/
def endsAuthority (kind : SchemeKind) (c : Char) : Bool :=
  c == '/' || c == '?' || c == '#' || (c == '\\' && kind != .other)

/-- The text after the last `@` of the authority, and whether a user was named. -/
def dropUser (authority : List Char) : List Char × Bool :=
  let host := (authority.reverse.takeWhile (· != '@')).reverse
  let user := (authority.take (authority.length - host.length)).dropLast
  (host, !user.isEmpty && user != [':'])

def splitHost (bracketed : Bool) : List Char → List Char × List Char
  | [] => ([], [])
  | c :: rest =>
      if c == ':' && !bracketed then ([], c :: rest)
      else
        let bracketed := if c == '[' then true else if c == ']' then false else bracketed
        let (host, tail) := splitHost bracketed rest
        (c :: host, tail)

/-- Check a port: digits up to the end of the authority, at most 65535. -/
def checkPort (port : List Char) : Except Fault Unit :=
  let digits := port.takeWhile Char.isDigit
  let value := (numberValue? 10 digits).getD 0
  if 65535 < value then .error .port
  else
    match port.drop digits.length with
    | [] => .ok ()
    | '\\' :: _ => .ok ()
    | _ => .error .port

def checkAuthority (kind : SchemeKind) (text : List Char) : Except Fault Unit := do
  let authority := text.takeWhile fun c => !endsAuthority kind c
  let hasUserMark := authority.contains '@'
  let (hostAndPort, hasUser) := dropUser authority
  if hasUserMark && hostAndPort.isEmpty && authority.length == 1 &&
      authority.length < text.length then
    throw .emptyHost
  let (host, rest) := splitHost false hostAndPort
  if kind == .web then
    if host.isEmpty then throw .emptyHost
    Domain.check (String.ofList host)
  else
    Domain.checkOpaque (String.ofList host)
    if host.isEmpty && (!rest.isEmpty || hasUser) then throw .emptyHost
  match rest with
  | ':' :: port => checkPort port
  | _ => .ok ()

def isDriveLetter : List Char → Bool
  | [letter, mark] => letter.isAlpha && (mark == ':' || mark == '|')
  | _ => false

def checkFile (text : List Char) : Except Fault Unit :=
  let isSlash (c : Char) : Bool := c == '/' || c == '\\'
  match text with
  | a :: b :: rest =>
      if isSlash a && isSlash b then
        let host := rest.takeWhile fun c => !endsAuthority .file c
        if host.isEmpty || isDriveLetter host then .ok ()
        else Domain.check (String.ofList host)
      else .ok ()
  | _ => .ok ()

def scheme (text : String) : Except Fault String :=
  match splitScheme? (clean text) with
  | none => .error .noScheme
  | some (name, rest) =>
      let name := String.ofList name
      match schemeKind name with
      | .web => do
          checkAuthority .web (rest.dropWhile fun c => c == '/' || c == '\\')
          return name
      | .file => do
          checkFile rest
          return name
      | .other =>
          match rest with
          | '/' :: '/' :: authority => do
              checkAuthority .other authority
              return name
          | _ => .ok name

@[reducible] def parser : UrlParser where
  scheme text := (scheme text).mapError Fault.message

end AdMonitor.Url
