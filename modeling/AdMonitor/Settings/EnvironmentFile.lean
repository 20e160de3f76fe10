import AdMonitor.Settings.Source
import AdMonitor.Text.Blank

/-!
# Environment files

A file can add variables to the environment, one a line, but it never replaces
any.  Lines after the first faulty one do not count.
-/

namespace AdMonitor.EnvironmentFile

inductive Line where
  | remark
  | entry (name value : String)
  | faulty
  deriving Repr, DecidableEq

def isNameStart (c : Char) : Bool := c.isAlpha || c == '_'

def isNamePart (c : Char) : Bool := c.isAlphanum || c == '_' || c == '.'

def readName? (text : List Char) : Option (String × List Char) :=
  match text with
  | [] => none
  | c :: _ =>
      if isNameStart c then
        some (String.ofList (text.takeWhile isNamePart), text.dropWhile isNamePart)
      else none

def unescape? (c : Char) : Option Char :=
  if c == 'n' then some '\n'
  else if ['\\', '\x27', '"', '$', ' '].contains c then some c
  else none

def isTail (text : List Char) : Bool :=
  match text.dropWhile fun c => c == ' ' || c == '\t' with
  | [] => true
  | c :: _ => c == '#'

/-- A value, inside a quote or not; quotes may begin and end anywhere in it. -/
def readValue? (quote : Option Char) (escaped : Bool) : List Char → Option (List Char)
  | [] => if quote.isNone then some [] else none
  | c :: rest =>
      if escaped then do
        return (← unescape? c) :: (← readValue? quote false rest)
      else if c == '\\' && quote != some '\x27' then readValue? quote true rest
      else if quote == some c then readValue? none false rest
      else if quote.isSome then (readValue? quote false rest).map (c :: ·)
      else if c == '"' || c == '\x27' then readValue? (some c) false rest
      else if c == ' ' || c == '\t' then if isTail rest then some [] else none
      else (readValue? none false rest).map (c :: ·)

def readEntry (name : String) (text : List Char) : Line :=
  match Text.skipBlanks text with
  | '=' :: rest =>
      match Text.skipBlanks rest with
      | [] => .entry name ""
      | '#' :: _ => .entry name ""
      | rest =>
          match readValue? none false rest with
          | some value => .entry name (String.ofList value)
          | none => .faulty
  | _ => .faulty

def readLine (text : List Char) : Line :=
  let text := Text.skipBlanks ((Text.skipBlanks text.reverse).reverse)
  match text with
  | [] => .remark
  | '#' :: _ => .remark
  | _ =>
      match readName? text with
      | none => .faulty
      | some (name, rest) =>
          match name, Text.skipBlanks rest with
          | "export", '=' :: _ => readEntry name rest
          | "export", after =>
              match readName? after with
              | some (name, rest) => readEntry name rest
              | none => .faulty
          | _, _ => readEntry name rest

def addLines (environment : Environment) : List (List Char) → Environment
  | [] => environment
  | line :: rest =>
      match readLine line with
      | .remark => addLines environment rest
      | .faulty => environment
      | .entry name value =>
          if (environment.value? name).isSome then addLines environment rest
          else addLines (environment ++ [(name, value)]) rest

end EnvironmentFile

def Environment.extend (environment : Environment) (text : String) : Environment :=
  EnvironmentFile.addLines environment (SettingLines.lines text.toList)

end AdMonitor
