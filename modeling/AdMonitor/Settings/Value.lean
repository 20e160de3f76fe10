import AdMonitor.Json.Reader
import AdMonitor.Text.Blank

/-!
# Values of settings

A setting is a number, but sources may also give it as a truth value or as a
text.
-/

namespace AdMonitor

inductive SettingValue where
  | int (value : Int)
  | float (value : Float)
  | bool (value : Bool)
  | text (value : String)
  /-- Anything that cannot stand for a number. -/
  | other

namespace SettingValue

def splitSign : List Char → Bool × List Char
  | '-' :: rest => (true, rest)
  | '+' :: rest => (false, rest)
  | chars => (false, chars)

/-- An integer of 64 bits, written in digits with an optional sign. -/
def int? (text : List Char) : Option Int :=
  let (negative, digits) := splitSign text
  if digits.isEmpty || !digits.all Char.isDigit then none
  else
    let size : Int := Json.digitsValue digits
    let value := if negative then -size else size
    if Int64.minValue.toInt ≤ value && value ≤ Int64.maxValue.toInt then some value else none

def special? (word : String) : Option Float :=
  if word == "inf" || word == "infinity" then some (1.0 / 0.0)
  else if word == "nan" then some (0.0 / 0.0)
  else none

/-- A decimal with an optional sign, fraction and exponent; one that is too large is infinite. -/
def float? (text : List Char) : Option Float :=
  let (negative, text) := splitSign text
  let signed (x : Float) : Float := if negative then -x else x
  match special? (String.ofList text).toLower with
  | some x => some (signed x)
  | none => do
      let whole := text.takeWhile Char.isDigit
      let rest := text.drop whole.length
      let (fraction, rest) :=
        match rest with
        | '.' :: rest => (rest.takeWhile Char.isDigit, rest.dropWhile Char.isDigit)
        | _ => ([], rest)
      let (exponent, rest) ← Json.readExponent rest
      if (whole ++ fraction).isEmpty || !rest.isEmpty then none
      else
        let digits := Json.digitsValue (whole ++ fraction)
        match Decimal.nearest? negative digits (exponent.getD 0 - fraction.length) with
        | some x => some x
        | none => some (signed (1.0 / 0.0))

/-- The value of a text that may be a truth value or a number in disguise. -/
def ofText (text : String) : SettingValue :=
  match text.toLower with
  | "true" => .bool true
  | "false" => .bool false
  | _ =>
      match int? text.toList with
      | some n => .int n
      | none =>
          match float? text.toList with
          | some x => .float x
          | none => .text text

/-- An integer that needs more than 64 bits with its sign counts as a decimal. -/
def ofJson : Json → SettingValue
  | .int n => if n ≤ Int64.maxValue.toInt then .int n else .float (Decimal.ofInt n)
  | .float x => .float x
  | .bool b => .bool b
  | .str s => .text s
  | .null | .arr _ | .obj _ => .other

/-- The number that a text means: yes and no, on and off, or digits. -/
def numberOfText? (text : String) : Option Nat :=
  match text.toLower with
  | "true" | "on" | "yes" => some 1
  | "false" | "off" | "no" => some 0
  | _ =>
      match splitSign text.toList with
      | (false, digits) =>
          if digits.isEmpty || !digits.all Char.isDigit then none
          else some (Json.digitsValue digits)
      | _ => none

/-- The number of 64 bits that a value means; decimals are rounded, a half away from zero. -/
def word? : SettingValue → Option Nat
  | .int n => if 0 ≤ n then some n.toNat else none
  | .float x => some x.round.toUInt64.toNat
  | .bool b => some b.toNat
  | .text s => (numberOfText? s).filter fun n => decide (n < UInt64.size)
  | .other => none

/-- The number of so many bits that a value means; higher bits are dropped. -/
def number? (bits : Nat) (value : SettingValue) : Option Nat :=
  value.word?.map (· % Nat.pow 2 bits)

end SettingValue

end AdMonitor
