import AdMonitor.Visit

/-!
# Replays

A replay runs consecutive ticks, the last of which is at the present time.
-/

namespace AdMonitor.Settings

def replayReach : Nat := UInt32.size / 2 - 1

def ticksBefore (settings : Settings) (now : Instant) (ticks : Nat) : Instant :=
  now.addSeconds (-(settings.tickMinutes.toNat * 60 * min ticks replayReach : Nat))

def replay (settings : Settings) (now : Instant) (ticks : Nat) : List Slot :=
  (List.range ticks).map fun i =>
    settings.slot (settings.ticksBefore now (ticks - 1 - i))

end AdMonitor.Settings
