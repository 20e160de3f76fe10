/-!
# Instants

Points of time in UTC with nanoseconds.  A leap second belongs to the second
before it, with a fraction of one second or more.
-/

namespace AdMonitor

abbrev Nanoseconds := Int

structure Instant where
  /-- Whole seconds since the start of 1970. -/
  seconds : Int
  /-- Fraction of the second; from `10 ^ 9` on inside a leap second. -/
  nanos : Nat
  deriving Repr, DecidableEq, Inhabited

namespace Instant

def nanosPerSecond : Nat := 1000000000

def ofMillis (millis : Int) : Instant :=
  ⟨millis / 1000, (millis % 1000).toNat * 1000000⟩

/-- The day an instant falls on, counted from the first of January 1970. -/
def day (t : Instant) : Int := t.seconds / 86400

/-- The second of the day, leap seconds not counted. -/
def secondOfDay (t : Instant) : Int := t.seconds % 86400

def before (s t : Instant) : Bool :=
  s.seconds < t.seconds || (s.seconds == t.seconds && s.nanos < t.nanos)

instance : LT Instant := ⟨fun s t => s.before t = true⟩

instance (s t : Instant) : Decidable (s < t) :=
  inferInstanceAs (Decidable (s.before t = true))

def inLeapSecond (t : Instant) : Bool := nanosPerSecond ≤ t.nanos

/--
A leap second counts toward a difference when the other instant is at another
second of the day.
-/
def leapAdjustment (later earlier : Instant) : Int :=
  if earlier.secondOfDay < later.secondOfDay then
    if earlier.inLeapSecond then 1 else 0
  else if later.secondOfDay < earlier.secondOfDay then
    if later.inLeapSecond then -1 else 0
  else 0

def since (later earlier : Instant) : Nanoseconds :=
  (later.seconds - earlier.seconds + leapAdjustment later earlier) * nanosPerSecond +
    ((later.nanos : Int) - earlier.nanos)

def addSeconds (t : Instant) (seconds : Int) : Instant :=
  { t with seconds := t.seconds + seconds }

end Instant

end AdMonitor
