import AdMonitor.Settings.Value

/-!
# Settings in lines

Documents with one setting a line: a name, a separator and a value.  What
follows a hash sign outside of quotes is a remark.
-/

namespace AdMonitor.SettingLines

inductive Form where
  /-- `name = value`, with texts in quotes. -/
  | equation
  /-- `name: value`, with texts as they are. -/
  | colon
  deriving DecidableEq

def trim (text : List Char) : List Char :=
  let isBlank (c : Char) : Bool := c == ' ' || c == '\t' || c == '\r'
  ((text.dropWhile isBlank).reverse.dropWhile isBlank).reverse

/-- A line without its remark; a hash sign inside quotes belongs to a text. -/
def dropRemark (quote : Option Char) : List Char → List Char
  | [] => []
  | c :: rest =>
      match quote with
      | some q => c :: dropRemark (if c == q then none else some q) rest
      | none =>
          if c == '#' then []
          else c :: dropRemark (if c == '"' || c == '\x27' then some c else none) rest

def quoted? : List Char → Option String
  | q :: rest =>
      if (q == '"' || q == '\x27') && rest.getLast? == some q && !rest.dropLast.contains q then
        some (String.ofList rest.dropLast)
      else none
  | [] => none

/-- Digits without the underscores between them; the flag tells whether a digit came before. -/
def joinDigits? (afterDigit : Bool) : List Char → Option (List Char)
  | [] => some []
  | '_' :: rest =>
      if afterDigit && (rest.head?.map Char.isDigit).getD false then joinDigits? false rest
      else none
  | c :: rest => (joinDigits? c.isDigit rest).map (c :: ·)

/-- The integer written by digits of a base; there must be at least one. -/
def basedInt? (base : Nat) (digits : List Char) : Option Int :=
  let value := digits.foldlM (fun (n : Nat) c =>
    ((Json.hexDigit? c).filter fun d => decide (d < base)).map (n * base + ·)) 0
  if digits.isEmpty then none else value.map Int.ofNat

/-- The number of an equation: an integer of 64 bits, or a decimal. -/
def number? (text : List Char) : Option SettingValue :=
  match text with
  | '0' :: 'x' :: digits => (basedInt? 16 digits).map .int
  | '0' :: 'o' :: digits => (basedInt? 8 digits).map .int
  | '0' :: 'b' :: digits => (basedInt? 2 digits).map .int
  | _ => do
      let (negative, digits) := SettingValue.splitSign text
      let digits ← joinDigits? false digits
      match String.ofList digits with
      | "inf" | "nan" => (SettingValue.float? text).map .float
      | _ =>
          match digits.head?, Json.readNumber (if negative then '-' :: digits else digits) with
          | some '-', _ => none
          | _, some (.int n, []) =>
              if n ≤ Int64.maxValue.toInt then some (.int n) else none
          | _, some (.float x, []) =>
              if x != 0.0 && digits.all Char.isDigit then none else some (.float x)
          | _, _ => none

/-- A value without quotes; a list or a group in one line holds no number. -/
def plain? (form : Form) (text : List Char) : Option SettingValue :=
  match form, String.ofList text with
  | _, "true" => some (.bool true)
  | _, "false" => some (.bool false)
  | .equation, _ =>
      match text.head?, text.getLast? with
      | some '[', some ']' => some .other
      | some '\x7b', some '\x7d' => some .other
      | _, _ => number? text
  | .colon, word =>
      match SettingValue.int? text with
      | some n => some (.int n)
      | none =>
          match SettingValue.float? text with
          | some x => some (.float x)
          | none => some (.text word)

def value? (form : Form) (text : List Char) : Option SettingValue :=
  match text with
  | [] => if form = .colon then some .other else none
  | _ =>
      match quoted? text with
      | some s => some (.text s)
      | none => plain? form text

def separator : Form → Char
  | .equation => '='
  | .colon => ':'

def assignment? (form : Form) (line : List Char) : Option (String × SettingValue) :=
  let name := trim (line.takeWhile (· != separator form))
  match line.dropWhile (· != separator form) with
  | [] => none
  | _ :: rest =>
      if name.isEmpty then none
      else (value? form (trim rest)).map fun value => (String.ofList name, value)

def lines (text : List Char) : List (List Char) :=
  text.foldr (fun c lines =>
    match c, lines with
    | '\n', _ => [] :: lines
    | _, [] => [[c]]
    | _, line :: rest => (c :: line) :: rest) [[]]

/--
All settings of a document.  A heading in brackets puts what follows it into
a group of its own, which holds no settings.  An equation must not repeat a name.
-/
def read? (form : Form) (text : String) : Option (List (String × SettingValue)) := do
  let contents := (lines text.toList).map fun line => trim (dropRemark none line)
  let contents := contents.filter fun line => !line.isEmpty && line != ['-', '-', '-']
  let isHeading (line : List Char) : Bool := form = .equation && line.head? == some '['
  let (top, groups) := contents.span fun line => !isHeading line
  let _ ← (groups.filter fun line => !isHeading line).mapM (assignment? form)
  let settings ← top.mapM (assignment? form)
  let names := settings.map (·.1)
  if form = .equation && names.eraseDups.length < names.length then none else some settings

end AdMonitor.SettingLines
