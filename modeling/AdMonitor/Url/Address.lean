/-!
# Numeric addresses

The numeric hosts of a URL: one to four numbers for IPv4, eight groups with at
most one gap for IPv6.
-/

namespace AdMonitor.Url

/-- The value of a digit in a base of at most sixteen. -/
def digitValue? (base : Nat) (c : Char) : Option Nat :=
  let value :=
    if c.isDigit then c.toNat - '0'.toNat
    else if 'a' ≤ c ∧ c ≤ 'f' then c.toNat - 'a'.toNat + 10
    else if 'A' ≤ c ∧ c ≤ 'F' then c.toNat - 'A'.toNat + 10
    else 16
  if value < base then some value else none

/-- The number written in a base; nothing at all is zero. -/
def numberValue? (base : Nat) (digits : List Char) : Option Nat :=
  digits.foldlM (fun n c => (digitValue? base c).map (n * base + ·)) 0

def splitAt (mark : Char) : List Char → List (List Char)
  | [] => [[]]
  | c :: rest =>
      if c == mark then [] :: splitAt mark rest
      else
        match splitAt mark rest with
        | [] => [[c]]
        | head :: tail => (c :: head) :: tail

namespace Ipv4

/-- A number in decimal, in octal after a zero, or in hexadecimal after `0x`. -/
def part? : List Char → Option Nat
  | [] => none
  | '0' :: 'x' :: digits => numberValue? 16 digits
  | '0' :: 'X' :: digits => numberValue? 16 digits
  | '0' :: d :: digits => numberValue? 8 (d :: digits)
  | digits => numberValue? 10 digits

/-- The parts between the points; a point at the end adds none. -/
def parts (host : List Char) : List (List Char) :=
  let all := splitAt '.' host
  if all.getLast? == some [] then all.dropLast else all

def endsInNumber (host : List Char) : Bool :=
  match (parts host).getLast? with
  | none => false
  | some last => (!last.isEmpty && last.all Char.isDigit) || (part? last).isSome

/--
Whether a host is an address: at most four numbers, of which the last one
fills the bytes that the others leave.
-/
def isAddress (host : List Char) : Bool :=
  match (parts host).mapM part? with
  | none => false
  | some numbers =>
      match numbers.reverse with
      | [] => false
      | last :: others =>
          decide (numbers.length ≤ 4) && others.all (fun n => decide (n ≤ 255)) &&
            decide (last < Nat.pow 256 (4 - others.length))

end Ipv4

namespace Ipv6

/-- Four decimal numbers of at most 255 without leading zeros. -/
def isDottedTail (text : List Char) : Bool :=
  let parts := splitAt '.' text
  parts.length == 4 && parts.all fun digits =>
    match digits with
    | [] => false
    | '0' :: _ :: _ => false
    | _ => match numberValue? 10 digits with
        | some n => decide (n ≤ 255)
        | none => false

/--
Whether the rest of an address is well formed, after `groups` groups; a gap
counts as one group.  The fuel bounds the number of groups.
-/
def isTail (fuel groups : Nat) (gap : Bool) (text : List Char) : Bool :=
  match fuel with
  | 0 => false
  | fuel + 1 =>
      match text with
      | [] => gap || groups == 8
      | ':' :: rest => groups < 8 && !gap && isTail fuel (groups + 1) true rest
      | _ =>
          let digits := (text.take 4).takeWhile fun c => (digitValue? 16 c).isSome
          if 8 ≤ groups then false
          else
            match text.drop digits.length with
            | [] => isTail fuel (groups + 1) gap []
            | '.' :: _ =>
                !digits.isEmpty && decide (groups ≤ 6) && isDottedTail text &&
                  (gap || groups + 2 == 8)
            | ':' :: rest => !rest.isEmpty && isTail fuel (groups + 1) gap rest
            | _ => false

def isAddress (text : List Char) : Bool :=
  match text with
  | ':' :: ':' :: rest => isTail (text.length + 1) 1 true rest
  | ':' :: _ => false
  | [_] => false
  | _ => isTail (text.length + 1) 0 false text

end Ipv6

end AdMonitor.Url
