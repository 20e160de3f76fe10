import AdMonitor.Instant
import AdMonitor.Instant.Calendar
import AdMonitor.Text.Blank

/-!
# Reading instants

A relaxed form of RFC 3339: blanks may stand before a number and around the
separators, numbers may be short, `T`, `t` or a blank separates date and time,
and any offset from UTC may follow.  Second 60 is a leap second.
-/

namespace AdMonitor.Instant

open AdMonitor.Text (skipBlanks)

/-- A number of one to `width` digits after blanks. -/
def readNumber (width : Nat) (text : List Char) : Option (Nat × List Char) :=
  let text := skipBlanks text
  let digits := (text.take width).takeWhile Char.isDigit
  if digits.isEmpty then none
  else some (digits.foldl (fun n c => n * 10 + (c.toNat - '0'.toNat)) 0,
    text.drop digits.length)

/-- A year: four digits at most, or a sign and any number of digits. -/
def readYear (text : List Char) : Option (Int × List Char) :=
  let signed (sign : Int) (rest : List Char) : Option (Int × List Char) :=
    match rest.takeWhile Char.isDigit with
    | [] => none
    | digits =>
        if 18 < digits.length then none
        else some (sign * (digits.foldl (fun n c => n * 10 + (c.toNat - '0'.toNat)) 0 : Nat),
          rest.dropWhile Char.isDigit)
  match skipBlanks text with
  | '-' :: rest => signed (-1) rest
  | '+' :: rest => signed 1 rest
  | rest => (readNumber 4 rest).map fun (year, rest) => ((year : Int), rest)

def afterMark (mark : Char) (text : List Char) : Option (List Char) :=
  match skipBlanks text with
  | c :: rest => if c == mark then some rest else none
  | [] => none

/-- The fraction of a second in nanoseconds; digits after the ninth are dropped. -/
def readFraction : List Char → Option (Nat × List Char)
  | '.' :: rest =>
      match rest.takeWhile Char.isDigit with
      | [] => none
      | digits =>
          let kept := (digits ++ List.replicate 9 '0').take 9
          some (kept.foldl (fun n c => n * 10 + (c.toNat - '0'.toNat)) 0,
            rest.dropWhile Char.isDigit)
  | text => some (0, text)

def twoDigits : List Char → Option (Nat × List Char)
  | a :: b :: rest =>
      if a.isDigit && b.isDigit then
        some ((a.toNat - '0'.toNat) * 10 + (b.toNat - '0'.toNat), rest)
      else none
  | _ => none

def readOffset (text : List Char) : Option (Int × List Char) :=
  let shifted (sign : Int) (rest : List Char) : Option (Int × List Char) := do
    let (hours, rest) ← twoDigits rest
    let (minutes, rest) ← twoDigits (rest.dropWhile fun c => c == ':' || Text.isBlank c)
    if minutes < 60 && hours < 24 then
      return (sign * (hours * 3600 + minutes * 60), rest)
    else none
  match text with
  | 'Z' :: rest => some (0, rest)
  | 'z' :: rest => some (0, rest)
  | '+' :: rest => shifted 1 rest
  | '-' :: rest => shifted (-1) rest
  | '\u2212' :: rest => shifted (-1) rest
  | a :: b :: c :: rest =>
      if a.toUpper == 'U' && b.toUpper == 'T' && c.toUpper == 'C' then some (0, rest) else none
  | _ => none

/-- The first and the last year that can be represented. -/
def yearInRange (year : Int) : Bool :=
  -262143 ≤ year && year ≤ 262142

/-- The instant written by a whole text, or `none` if the text is malformed. -/
def read? (text : String) : Option Instant := do
  let (year, rest) ← readYear text.toList
  let rest ← afterMark '-' rest
  let (month, rest) ← readNumber 2 rest
  let rest ← afterMark '-' rest
  let (dayOfMonth, rest) ← readNumber 2 rest
  let rest ←
    match rest with
    | c :: rest => if c == 'T' || c == 't' || c == ' ' then some rest else none
    | [] => none
  let (hour, rest) ← readNumber 2 rest
  let rest ← afterMark ':' rest
  let (minute, rest) ← readNumber 2 rest
  let rest ← afterMark ':' rest
  let (second, rest) ← readNumber 2 rest
  let (fraction, rest) ← readFraction rest
  let (offset, rest) ← readOffset (skipBlanks rest)
  let date : Date := { year, month, dayOfMonth }
  let leap := if second = 60 then 1 else 0
  let inUtc : Int :=
    date.toDays * 86400 + hour * 3600 + minute * 60 + (second - leap : Nat) - offset
  let valid := (skipBlanks rest).isEmpty && yearInRange year && date.isValid &&
    hour < 24 && minute < 60 && second ≤ 60 && yearInRange (Date.ofDays (inUtc / 86400)).year
  if valid then some ⟨inUtc, fraction + leap * nanosPerSecond⟩ else none

end AdMonitor.Instant
