import AdMonitor.Json
import AdMonitor.Decimal.Reading

/-!
# Reading JSON text

The grammar is strict: no byte order mark, no leading zeros, no bare words
but `null`, `true` and `false`, no unpaired surrogates, nothing after the
value.  A text nests at most `Json.maxDepth` arrays and objects, and a number
must be finite.
-/

namespace AdMonitor.Json

def maxDepth : Nat := 127

def isBlank (c : Char) : Bool :=
  c == ' ' || c == '\n' || c == '\t' || c == '\r'

def skipBlanks (text : List Char) : List Char :=
  text.dropWhile isBlank

def afterWord (word : List Char) (text : List Char) : Option (List Char) :=
  if text.take word.length == word then some (text.drop word.length) else none

def hexDigit? (c : Char) : Option Nat :=
  if c.isDigit then some (c.toNat - '0'.toNat)
  else if 'a' ≤ c ∧ c ≤ 'f' then some (c.toNat - 'a'.toNat + 10)
  else if 'A' ≤ c ∧ c ≤ 'F' then some (c.toNat - 'A'.toNat + 10)
  else none

def readUnit : List Char → Option (Nat × List Char)
  | a :: b :: c :: d :: rest => do
      let a ← hexDigit? a
      let b ← hexDigit? b
      let c ← hexDigit? c
      let d ← hexDigit? d
      return (((a * 16 + b) * 16 + c) * 16 + d, rest)
  | _ => none

/-- The character after `\u`; a surrogate needs its other half. -/
def readUnicode (text : List Char) : Option (Char × List Char) := do
  let (unit, rest) ← readUnit text
  if 0xDC00 ≤ unit ∧ unit < 0xE000 then none
  else if 0xD800 ≤ unit ∧ unit < 0xDC00 then
    match rest with
    | '\\' :: 'u' :: tail => do
        let (low, rest) ← readUnit tail
        if 0xDC00 ≤ low ∧ low < 0xE000 then
          return (Char.ofNat (0x10000 + (unit - 0xD800) * 0x400 + (low - 0xDC00)), rest)
        else none
    | _ => none
  else return (Char.ofNat unit, rest)

def readEscape : List Char → Option (Char × List Char)
  | '"' :: rest => some ('"', rest)
  | '\\' :: rest => some ('\\', rest)
  | '/' :: rest => some ('/', rest)
  | 'b' :: rest => some ('\x08', rest)
  | 'f' :: rest => some ('\x0c', rest)
  | 'n' :: rest => some ('\n', rest)
  | 'r' :: rest => some ('\r', rest)
  | 't' :: rest => some ('\t', rest)
  | 'u' :: rest => readUnicode rest
  | _ => none

/-- The characters of a string up to its closing quote, newest first. -/
def readString (fuel : Nat) (read : List Char) (text : List Char) :
    Option (List Char × List Char) :=
  match fuel with
  | 0 => none
  | fuel + 1 =>
      match text with
      | [] => none
      | '"' :: rest => some (read, rest)
      | '\\' :: rest =>
          match readEscape rest with
          | none => none
          | some (c, rest) => readString fuel (c :: read) rest
      | c :: rest => if c.toNat < 0x20 then none else readString fuel (c :: read) rest

def readText (size : Nat) (text : List Char) : Option (String × List Char) :=
  (readString (size + 1) [] text).map fun (read, rest) =>
    (String.ofList read.reverse, rest)

def digitsValue (digits : List Char) : Nat :=
  digits.foldl (fun n c => n * 10 + (c.toNat - '0'.toNat)) 0

def readDigits (text : List Char) : Option (List Char × List Char) :=
  match text.takeWhile Char.isDigit with
  | [] => none
  | digits => some (digits, text.dropWhile Char.isDigit)

def readWhole : List Char → Option (List Char × List Char)
  | '0' :: rest =>
      match rest with
      | c :: _ => if c.isDigit then none else some (['0'], rest)
      | [] => some (['0'], [])
  | text => readDigits text

def readFraction : List Char → Option (List Char × List Char)
  | '.' :: rest => readDigits rest
  | text => some ([], text)

def readExponent (text : List Char) : Option (Option Int × List Char) :=
  let signed (sign : Int) (rest : List Char) : Option (Option Int × List Char) :=
    (readDigits rest).map fun (digits, rest) => (some (sign * digitsValue digits), rest)
  match text with
  | c :: rest =>
      if c == 'e' || c == 'E' then
        match rest with
        | '+' :: rest => signed 1 rest
        | '-' :: rest => signed (-1) rest
        | rest => signed 1 rest
      else some (none, text)
  | [] => some (none, [])

def isPlainInt (n : Int) : Bool :=
  Int64.minValue.toInt ≤ n && n < UInt64.size

/-- A number; one without fraction and exponent is an integer if it fits. -/
def readNumber (text : List Char) : Option (Json × List Char) := do
  let (negative, text) :=
    match text with
    | '-' :: rest => (true, rest)
    | _ => (false, text)
  let (whole, text) ← readWhole text
  let (fraction, text) ← readFraction text
  let (exponent, text) ← readExponent text
  let digits := digitsValue (whole ++ fraction)
  let isInt := fraction.isEmpty && exponent.isNone && !(negative && digits == 0)
  let signed : Int := if negative then -(digits : Int) else digits
  if isInt && isPlainInt signed then
    return (.int signed, text)
  else do
    let x ← Decimal.nearest? negative digits (exponent.getD 0 - fraction.length)
    return (.float x, text)

/-- Items separated by commas up to a closing bracket, newest first. -/
def readItems {α : Type} (item : List Char → Option (α × List Char)) (close : Char)
    (fuel : Nat) (read : List α) (text : List Char) : Option (List α × List Char) :=
  match fuel with
  | 0 => none
  | fuel + 1 => do
      let (a, text) ← item (skipBlanks text)
      match skipBlanks text with
      | ',' :: rest => readItems item close fuel (a :: read) rest
      | c :: rest => if c == close then return ((a :: read).reverse, rest) else none
      | [] => none

def readList {α : Type} (item : List Char → Option (α × List Char)) (close : Char)
    (size : Nat) (text : List Char) : Option (List α × List Char) :=
  match skipBlanks text with
  | [] => none
  | c :: rest =>
      if c == close then some ([], rest)
      else readItems item close (size + 1) [] (c :: rest)

def readMember (size : Nat) (value : List Char → Option (Json × List Char)) :
    List Char → Option ((String × Json) × List Char)
  | '"' :: rest => do
      let (name, rest) ← readText size rest
      match skipBlanks rest with
      | ':' :: rest => do
          let (json, rest) ← value (skipBlanks rest)
          return ((name, json), rest)
      | _ => none
  | _ => none

/--
A value that nests at most `depth` arrays and objects, in a text of at most
`size` characters.
-/
def readValue (size depth : Nat) (text : List Char) : Option (Json × List Char) :=
  match text with
  | [] => none
  | 'n' :: rest => (afterWord ['u', 'l', 'l'] rest).map (Json.null, ·)
  | 't' :: rest => (afterWord ['r', 'u', 'e'] rest).map (Json.bool true, ·)
  | 'f' :: rest => (afterWord ['a', 'l', 's', 'e'] rest).map (Json.bool false, ·)
  | '"' :: rest => (readText size rest).map fun (s, rest) => (.str s, rest)
  | '[' :: rest =>
      match depth with
      | 0 => none
      | depth + 1 =>
          (readList (readValue size depth) ']' size rest).map fun (items, rest) =>
            (.arr items, rest)
  | '{' :: rest =>
      match depth with
      | 0 => none
      | depth + 1 =>
          (readList (readMember size (readValue size depth)) '}' size rest).map
            fun (members, rest) => (.obj members, rest)
  | _ => readNumber text

/-- The tree written by a whole text, or `none` if the text is malformed. -/
def parse? (text : String) : Option Json := do
  let (json, rest) ← readValue text.length maxDepth (skipBlanks text.toList)
  if (skipBlanks rest).isEmpty then some json else none

end AdMonitor.Json
