/-!
# Spans of time

Whole milliseconds, written in the largest unit of which there is at least one.
-/

namespace AdMonitor

structure Span where
  millis : Nat
  deriving Repr, DecidableEq

namespace Span

def ofSeconds (seconds : Nat) : Span := ⟨seconds * 1000⟩

/-- Seconds with as many decimal places as needed; below one second milliseconds. -/
def write (span : Span) : String :=
  let seconds := span.millis / 1000
  let rest := span.millis % 1000
  if 0 < seconds then
    let digits := (Nat.toDigits 10 (1000 + rest)).drop 1
    let places := (digits.reverse.dropWhile (· == '0')).reverse
    toString seconds ++
      (if places.isEmpty then "" else "." ++ String.ofList places) ++ "s"
  else if 0 < rest then toString rest ++ "ms"
  else "0ns"

end Span

end AdMonitor
