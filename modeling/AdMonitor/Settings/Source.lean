import AdMonitor.Settings
import AdMonitor.Settings.Lines
import AdMonitor.Table

/-!
# Sources of settings

Settings come from their standard values, from a file and from the
environment; what comes later has the last word.
-/

namespace AdMonitor

abbrev Environment := List (String × String)

abbrev SettingTable := Table String SettingValue

namespace Environment

def value? (environment : Environment) (name : String) : Option String :=
  (List.find? (fun e => e.1 == name) environment).map (·.2)

def fileVariable : String := "CAMPAIGN_WATCH_CONFIG"

/-- What the names of variables that hold a setting begin with, in lower case. -/
def settingMark : List Char := "campaign_watch__".toList

def settingVariable (setting : String) : String :=
  (String.ofList settingMark ++ setting).toUpper

def splitGroup : List Char → List Char × Bool
  | '_' :: '_' :: _ => ([], true)
  | c :: rest => let (name, grouped) := splitGroup rest; (c :: name, grouped)
  | [] => ([], false)

def setting? (entry : String × String) : Option (String × SettingValue) :=
  let name := entry.1.toLower.toList
  if settingMark.isPrefixOf name then
    let (setting, grouped) := splitGroup (name.drop settingMark.length)
    let value := if grouped then .other else SettingValue.ofText entry.2
    some (String.ofList setting, value)
  else none

def settings (environment : Environment) : List (String × SettingValue) :=
  List.filterMap setting? environment

end Environment

namespace Settings

def extension (path : String) : String :=
  String.ofList (path.toList.reverse.takeWhile fun c => c != '.' && c != '/').reverse

def readJson? (text : String) : Option (List (String × SettingValue)) := do
  let members ← (← Json.parse? text).toMembers?
  return members.map fun (name, value) => (name, SettingValue.ofJson value)

def readFile? (path text : String) : Option (List (String × SettingValue)) :=
  match extension path with
  | "json" => readJson? text
  | "toml" => SettingLines.read? .equation text
  | "yaml" | "yml" => SettingLines.read? .colon text
  | _ => none

def candidates (path : String) : List String :=
  [path, path ++ ".toml", path ++ ".json", path ++ ".yaml", path ++ ".yml"]

def filePath? (path : Option String) (environment : Environment) : Option String :=
  path.or (environment.value? Environment.fileVariable)

/-- The settings in the file of a path; `files` gives the texts of files that exist. -/
def fromFile (files : String → Option String) (path : String) :
    Except Failure (List (String × SettingValue)) :=
  let found := (candidates path).findSome? fun p => (files p).map fun text => (p, text)
  match found.bind fun (p, text) => readFile? p text with
  | some settings => .ok settings
  | none => .error (.configuration ("cannot read " ++ path))

def ofSources (sources : List (String × SettingValue)) : Except Failure Settings :=
  let table : SettingTable := .ofList sources
  let number (bits : Nat) (name : String) (default : Nat) : Option Nat :=
    match table.get? name with
    | none => some default
    | some value => value.number? bits
  match ofNumbers? number with
  | none => .error (.configuration "a setting is not a number")
  | some settings => settings.validate.map fun () => settings

def load (files : String → Option String) (path : Option String) (environment : Environment) :
    Except Failure Settings := do
  let fromFile ←
    match filePath? path environment with
    | none => pure []
    | some path => fromFile files path
  ofSources (fromFile ++ environment.settings)

end Settings

end AdMonitor
