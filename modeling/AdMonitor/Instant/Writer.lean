import AdMonitor.Instant
import AdMonitor.Instant.Calendar

/-!
# Writing instants

The form of RFC 3339 in UTC.  The fraction has no, three, six or nine digits,
whatever is needed; a year outside of 0 to 9999 carries its sign.
-/

namespace AdMonitor

def paddedDigits (width n : Nat) : String :=
  let digits := Nat.toDigits 10 n
  String.ofList (List.replicate (width - digits.length) '0' ++ digits)

namespace Instant

def writeYear (year : Int) : String :=
  if 0 ≤ year ∧ year ≤ 9999 then paddedDigits 4 year.toNat
  else (if year < 0 then "-" else "+") ++ paddedDigits 4 year.natAbs

def writeFraction (nanos : Nat) : String :=
  if nanos = 0 then ""
  else if nanos % 1000000 = 0 then "." ++ paddedDigits 3 (nanos / 1000000)
  else if nanos % 1000 = 0 then "." ++ paddedDigits 6 (nanos / 1000)
  else "." ++ paddedDigits 9 nanos

def write (t : Instant) : String :=
  let date := Date.ofDays t.day
  let second := t.secondOfDay.toNat
  let leap := if t.inLeapSecond then 1 else 0
  writeYear date.year ++ "-" ++ paddedDigits 2 date.month ++ "-" ++
    paddedDigits 2 date.dayOfMonth ++ "T" ++ paddedDigits 2 (second / 3600) ++ ":" ++
    paddedDigits 2 (second / 60 % 60) ++ ":" ++ paddedDigits 2 (second % 60 + leap) ++
    writeFraction (t.nanos % nanosPerSecond) ++ "Z"

end Instant

end AdMonitor
