/-!
# Command-line arguments

A command takes options and no other words.  An option may be given once; its
value is attached to it with `=`, or it is the next word unless that one looks
like an option itself.
-/

namespace AdMonitor

inductive OptionKind where
  | flag
  | text
  /-- The name of a file, which is not empty. -/
  | path
  /-- A number of 32 bits. -/
  | count
  /-- Asks for help, and for nothing else. -/
  | help
  /-- Asks for the version, and for nothing else. -/
  | version
  deriving Repr, DecidableEq

structure OptionRule where
  name : String
  short : Option Char
  kind : OptionKind
  deriving Repr, DecidableEq

inductive ArgumentFault where
  | unknownOption (text : String)
  | repeated (name : String)
  | missingValue (name : String)
  | unwantedValue (name : String)
  | invalidValue (name value : String)
  | unexpected (word : String)
  | missing (name : String)
  deriving Repr, DecidableEq

namespace ArgumentFault

def message : ArgumentFault → String
  | .unknownOption text => "unknown option '" ++ text ++ "'"
  | .repeated name => "option '--" ++ name ++ "' is given more than once"
  | .missingValue name => "option '--" ++ name ++ "' needs a value"
  | .unwantedValue name => "option '--" ++ name ++ "' takes no value"
  | .invalidValue name value => "invalid value '" ++ value ++ "' for option '--" ++ name ++ "'"
  | .unexpected word => "unexpected argument '" ++ word ++ "'"
  | .missing name => "'" ++ name ++ "' is missing"

end ArgumentFault

inductive Interruption where
  | help
  | version
  | misuse (fault : ArgumentFault)
  deriving Repr, DecidableEq

inductive Word where
  | long (name : String) (value : Option String)
  | short (letters : List Char)
  /-- Two dashes; what follows is not an option. -/
  | dashes
  | plain (text : String)
  deriving Repr, DecidableEq

namespace Word

def splitValue (letters : List Char) : String × Option String :=
  let name := String.ofList (letters.takeWhile fun c => c != '=')
  match letters.dropWhile fun c => c != '=' with
  | [] => (name, none)
  | _ :: value => (name, some (String.ofList value))

def ofString (text : String) : Word :=
  match text.toList with
  | ['-', '-'] => .dashes
  | '-' :: '-' :: letters => let (name, value) := splitValue letters; .long name value
  | '-' :: letter :: letters => .short (letter :: letters)
  | _ => .plain text

end Word

/-- A number of 32 bits in decimal digits, perhaps with a sign. -/
def readCount? (text : String) : Option UInt32 :=
  let (negative, digits) :=
    match text.toList with
    | '-' :: digits => (true, digits)
    | '+' :: digits => (false, digits)
    | digits => (false, digits)
  if digits.isEmpty || !digits.all Char.isDigit then none
  else
    let value := digits.foldl (fun n c => 10 * n + (c.toNat - '0'.toNat)) 0
    if UInt32.size ≤ value || (negative && value != 0) then none else some (.ofNat value)

namespace OptionKind

def takesValue : OptionKind → Bool
  | .text | .path | .count => true
  | .flag | .help | .version => false

def accepts : OptionKind → String → Bool
  | .path, value => value != ""
  | .count, value => (readCount? value).isSome
  | _, _ => true

end OptionKind

abbrev GivenOptions := List (String × Option String)

namespace GivenOptions

def has (given : GivenOptions) (name : String) : Bool :=
  given.any fun option => option.1 == name

def value? (given : GivenOptions) (name : String) : Option String :=
  (List.find? (fun option => option.1 == name) given).bind (·.2)

def add (given : GivenOptions) (rule : OptionRule) (value : Option String) :
    Except Interruption GivenOptions :=
  match rule.kind with
  | .help => .error .help
  | .version => .error .version
  | kind =>
      if given.has rule.name then .error (.misuse (.repeated rule.name))
      else
        match value with
        | some text =>
            if kind.accepts text then .ok ((rule.name, value) :: given)
            else .error (.misuse (.invalidValue rule.name text))
        | none => .ok ((rule.name, none) :: given)

/-- Note the options of some letters; none of these takes a value. -/
def addLetters (rules : List OptionRule) (given : GivenOptions) :
    List Char → Except Interruption GivenOptions
  | [] => .ok given
  | letter :: rest =>
      match rules.find? fun rule => rule.short == some letter with
      | none => .error (.misuse (.unknownOption (String.ofList ['-', letter])))
      | some rule => do addLetters rules (← given.add rule none) rest

/-- Read options up to the first word that is none; the other words remain. -/
def read (rules : List OptionRule) (given : GivenOptions) :
    List String → Except Interruption (GivenOptions × List String)
  | [] => .ok (given, [])
  | word :: rest =>
      match Word.ofString word with
      | .plain _ => .ok (given, word :: rest)
      | .dashes =>
          match rest with
          | [] => .ok (given, [])
          | extra :: _ => .error (.misuse (.unexpected extra))
      | .short letters => do read rules (← given.addLetters rules letters) rest
      | .long name attached =>
          match rules.find? fun rule => rule.name == name with
          | none => .error (.misuse (.unknownOption word))
          | some rule =>
              match rule.kind.takesValue, attached with
              | false, none => do read rules (← given.add rule none) rest
              | false, some _ => .error (.misuse (.unwantedValue name))
              | true, some value => do read rules (← given.add rule (some value)) rest
              | true, none =>
                  match rest with
                  | [] => .error (.misuse (.missingValue name))
                  | value :: rest =>
                      match Word.ofString value with
                      | .plain _ => do read rules (← given.add rule (some value)) rest
                      | _ => .error (.misuse (.missingValue name))

def readAll (rules : List OptionRule) (words : List String) :
    Except Interruption GivenOptions := do
  match ← read rules [] words with
  | (given, []) => return given
  | (_, word :: _) => throw (.misuse (.unexpected word))

end GivenOptions

end AdMonitor
