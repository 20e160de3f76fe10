import AdMonitor.Url.Address
import AdMonitor.Url.CodePoints
import AdMonitor.Url.Fault

/-!
# Domain names

The host of a web address: escapes are decoded, characters beyond ASCII are
mapped, and what remains must be a numeric address or free of forbidden
characters.
-/

namespace AdMonitor.Url

def escapedByte? (high low : UInt8) : Option UInt8 := do
  let high ← digitValue? 16 (Char.ofNat high.toNat)
  let low ← digitValue? 16 (Char.ofNat low.toNat)
  return UInt8.ofNat (high * 16 + low)

/--
The bytes of a text after decoding its percent escapes.  The number counts the
bytes still to be dropped of an escape that was decoded.
-/
def decodePercents (skip : Nat) : List UInt8 → List UInt8
  | [] => []
  | byte :: rest =>
      match skip with
      | skip + 1 => decodePercents skip rest
      | 0 =>
          match byte == 0x25, rest with
          | true, a :: b :: _ =>
              match escapedByte? a b with
              | some decoded => decoded :: decodePercents 2 rest
              | none => byte :: decodePercents 0 rest
          | _, _ => byte :: decodePercents 0 rest

/-- The text of some bytes, if they are valid UTF-8. -/
def textOfBytes? (bytes : List UInt8) : Option String :=
  String.fromUTF8? (ByteArray.mk bytes.toArray)

namespace Domain

def isForbidden (c : Char) : Bool :=
  c.toNat ≤ 0x20 || c.toNat == 0x7F ||
    ['%', '#', '/', ':', '<', '>', '?', '@', '[', '\\', ']', '^', '|'].contains c

/-- The characters a character stands for, or `none` if it is not allowed. -/
def mapChar? (c : Char) : Option (List Char) :=
  let n := c.toNat
  if n < 0x80 then
    if isForbidden c then none else some [c.toLower]
  else if CodePoints.isIn CodePoints.ignored n then some []
  else if CodePoints.isIn CodePoints.disallowed n then none
  else if CodePoints.isIn CodePoints.forbidding n then none
  else if n == 0x200C || n == 0x200D then none
  else
    match CodePoints.toAscii? n with
    | some m => some [Char.ofNat m]
    | none => some [c]

/-- A bias from a delta, which is divided by 35 until it is at most 455. -/
def biasOfDelta (delta k : Nat) : Nat :=
  if 455 < delta then biasOfDelta (delta / 35) (k + 36) else k + 36 * delta / (delta + 38)
termination_by delta
decreasing_by exact Nat.div_lt_self (by omega) (by omega)

/-- The bias of an encoded label after an inserted character; the first one counts less. -/
def adaptBias (delta length : Nat) (first : Bool) : Nat :=
  let start := if first then delta / 700 else delta / 2
  biasOfDelta (start + start / length) 0

def encodedDigit? (c : Char) : Option Nat :=
  if 'a' ≤ c ∧ c ≤ 'z' then some (c.toNat - 'a'.toNat)
  else if c.isDigit then some (c.toNat - '0'.toNat + 26)
  else none

def digitThreshold (bias k : Nat) : Nat :=
  if k ≤ bias then 1 else if bias + 26 ≤ k then 26 else k - bias

def readDelta (bias k weight value : Nat) : List Char → Option (Nat × List Char)
  | [] => none
  | c :: rest => do
      let digit ← encodedDigit? c
      let value := value + digit * weight
      let threshold := digitThreshold bias k
      if digit < threshold then return (value, rest)
      else readDelta bias (k + 36) (weight * (36 - threshold)) value rest

/-- A number takes at least one character. -/
theorem length_readDelta {bias k weight value delta : Nat} {text rest : List Char}
    (read : readDelta bias k weight value text = some (delta, rest)) :
    rest.length < text.length := by
  induction text generalizing k weight value with
  | nil => simp [readDelta] at read
  | cons c tail ih =>
    simp only [readDelta, Option.bind_eq_bind, Option.bind_eq_some_iff] at read
    obtain ⟨digit, _, read⟩ := read
    split at read
    · cases read
      exact Nat.lt_succ_self _
    · exact Nat.lt_succ_of_lt (ih read)

def insertDeltas (output : List Nat) (codePoint position bias : Nat) (text : List Char) :
    Option (List Nat) :=
  if text.isEmpty then some output
  else
    match read : readDelta bias 36 1 0 text with
    | none => none
    | some (delta, rest) =>
        let length := output.length + 1
        let index := position + delta
        let codePoint := codePoint + index / length
        let place := index % length
        if 0x10FFFF < codePoint then none
        else
          insertDeltas (output.take place ++ codePoint :: output.drop place) codePoint
            (place + 1) (adaptBias delta length (position == 0)) rest
termination_by text.length
decreasing_by exact length_readDelta read

/-- The code points of a label that follows `xn--`. -/
def decodeLabel? (text : List Char) : Option (List Nat) :=
  let reversed := text.reverse
  let tail := (reversed.takeWhile (· != '-')).reverse
  let basic := (reversed.drop (tail.length + 1)).reverse
  insertDeltas (basic.map Char.toNat) 128 0 72 tail

def isLabel (label : List Char) : Bool :=
  match label with
  | 'x' :: 'n' :: '-' :: '-' :: encoded =>
      match decodeLabel? encoded with
      | none => false
      | some points =>
          points.any (fun n => decide (0x80 ≤ n)) && points.all fun n =>
            decide (n < 0x80) ||
              !(CodePoints.isIn CodePoints.disallowed n ||
                CodePoints.isIn CodePoints.forbidding n ||
                CodePoints.isIn CodePoints.ignored n ||
                (CodePoints.toAscii? n).isSome)
  | _ => true

def ofHost? (host : String) : Option (List Char) := do
  let text ← textOfBytes? (decodePercents 0 host.toUTF8.toList)
  let mapped := (← text.toList.mapM mapChar?).flatten
  if (splitAt '.' mapped).all isLabel then some mapped else none

def check (host : String) : Except Fault Unit :=
  match host.toList with
  | '[' :: rest =>
      if rest.getLast? == some ']' && Ipv6.isAddress rest.dropLast then .ok ()
      else .error .ipv6
  | _ =>
      match ofHost? host with
      | none => .error .domainName
      | some [] => .error .emptyHost
      | some name =>
          if Ipv4.endsInNumber name && !Ipv4.isAddress name then .error .ipv4 else .ok ()

def checkOpaque (host : String) : Except Fault Unit :=
  match host.toList with
  | '[' :: rest =>
      if rest.getLast? == some ']' && Ipv6.isAddress rest.dropLast then .ok ()
      else .error .ipv6
  | chars =>
      if chars.any ['\x00', '\t', '\n', '\r', ' ', '#', '/', ':', '<', '>', '?', '@', '[',
          '\\', ']', '^', '|'].contains then .error .hostCharacter
      else .ok ()

end Domain

end AdMonitor.Url
