import AdMonitor.Proofs.Instant.Order
import AdMonitor.Tick.Replay

/-!
# Slots of the schedule

Slots are as long as the time between two ticks, and are counted from the start
of 1970.  Later times have no smaller numbers, and from 1970 on two times have
the same number just when they fall in the same slot.  A replay goes through
consecutive slots and ends with that of the present time.
-/

namespace AdMonitor

def Instant.epoch : Instant := ⟨0, 0⟩

theorem Instant.epoch_le_iff {time : Instant} : epoch ≤ time ↔ 0 ≤ time.seconds := by
  rw [le_iff, epoch]
  dsimp only
  omega

namespace Settings

variable {settings : Settings} {now time earlier later : Instant} {tick : TickNumber}

def slotSeconds (settings : Settings) : Nat := settings.tickMinutes.toNat * 60

def slotStart (settings : Settings) (tick : TickNumber) : Instant :=
  ⟨(tick * settings.slotSeconds : Nat), 0⟩

def InSlot (settings : Settings) (tick : TickNumber) (time : Instant) : Prop :=
  settings.slotStart tick ≤ time ∧ time < settings.slotStart (tick + 1)

theorem slotStart_le_iff :
    settings.slotStart tick ≤ time ↔
      ((tick * settings.slotSeconds : Nat) : Int) ≤ time.seconds := by
  rw [Instant.le_iff, slotStart]
  dsimp only
  omega

theorem lt_slotStart_iff :
    time < settings.slotStart tick ↔ time.seconds < (tick * settings.slotSeconds : Nat) := by
  rw [Instant.lt_iff, slotStart]
  dsimp only
  omega

/-- Later times have no smaller numbers, also before 1970. -/
theorem tick_mono (isLater : earlier ≤ later) :
    (settings.slot earlier).tick ≤ (settings.slot later).tick := by
  have inOrder : earlier.seconds ≤ later.seconds := by
    rw [Instant.le_iff] at isLater
    omega
  exact Nat.div_le_div_right (Int.toNat_le_toNat inOrder)

section Length

variable (isSet : 1 ≤ settings.tickMinutes.toNat)

include isSet

theorem slotSeconds_pos : 0 < settings.slotSeconds := by
  rw [slotSeconds]
  omega

theorem tick_eq : (settings.slot time).tick = time.seconds.toNat / settings.slotSeconds := by
  rw [slot, slotSeconds, Nat.max_eq_left isSet]

/-- The number of a time from 1970 on is that of the slot in which it falls. -/
theorem inSlot_iff (isCounted : Instant.epoch ≤ time) :
    settings.InSlot tick time ↔ (settings.slot time).tick = tick := by
  have isNatural : ((time.seconds.toNat : Nat) : Int) = time.seconds :=
    Int.toNat_of_nonneg (Instant.epoch_le_iff.1 isCounted)
  rw [InSlot, slotStart_le_iff, lt_slotStart_iff, ← isNatural, Int.ofNat_le, Int.ofNat_lt,
    tick_eq isSet, Nat.div_eq_iff (slotSeconds_pos isSet), Nat.mul_comm, Nat.mul_comm (tick + 1),
    Nat.mul_succ]
  have length := slotSeconds_pos isSet
  omega

/-- Times from 1970 on have the same number just when they fall in the same slot. -/
theorem tick_eq_iff (isCounted : Instant.epoch ≤ earlier) (isOther : Instant.epoch ≤ later) :
    (settings.slot earlier).tick = (settings.slot later).tick ↔
      ∃ tick, settings.InSlot tick earlier ∧ settings.InSlot tick later := by
  constructor
  · intro same
    exact ⟨_, (inSlot_iff isSet isCounted).2 same, (inSlot_iff isSet isOther).2 rfl⟩
  · rintro ⟨tick, isFirst, isSecond⟩
    rw [(inSlot_iff isSet isCounted).1 isFirst, (inSlot_iff isSet isOther).1 isSecond]

/-- As many ticks back as replays reach, the number is smaller by so many. -/
theorem tick_ticksBefore {ticks : Nat} (isNear : ticks ≤ replayReach)
    (isCounted : Instant.epoch ≤ settings.ticksBefore now ticks) :
    ticks ≤ (settings.slot now).tick ∧
      (settings.slot (settings.ticksBefore now ticks)).tick = (settings.slot now).tick - ticks := by
  have length := slotSeconds_pos isSet
  have seconds : (settings.ticksBefore now ticks).seconds =
      now.seconds - ((settings.slotSeconds * ticks : Nat) : Int) := by
    rw [ticksBefore, Nat.min_eq_left isNear, slotSeconds]
    exact Int.sub_eq_add_neg.symm
  have isPast : settings.slotSeconds * ticks ≤ now.seconds.toNat := by
    rw [Instant.epoch_le_iff, seconds] at isCounted
    omega
  have isNatural : (settings.ticksBefore now ticks).seconds.toNat =
      now.seconds.toNat - settings.slotSeconds * ticks := by
    rw [seconds]
    omega
  rw [tick_eq isSet, tick_eq isSet, isNatural, Nat.sub_mul_div]
  exact ⟨(Nat.le_div_iff_mul_le length).2 (Nat.mul_comm .. ▸ isPast), rfl⟩

/-- The ticks of a replay that does not reach back before 1970 are consecutive. -/
theorem tick_replay {count : Nat} (isNear : count ≤ replayReach + 1)
    (isCounted : Instant.epoch ≤ settings.ticksBefore now (count - 1)) :
    count ≤ (settings.slot now).tick + 1 ∧
      (settings.replay now count).map Slot.tick =
        List.range' ((settings.slot now).tick + 1 - count) count := by
  obtain ⟨isPast, -⟩ := tick_ticksBefore isSet (by omega) isCounted
  refine ⟨by omega, ?_⟩
  rw [replay, List.map_map, List.range'_eq_map_range]
  refine List.map_congr_left fun position found => ?_
  rw [List.mem_range] at found
  -- The first time is the earliest, so that none of them is before 1970.
  have isLater : Instant.epoch ≤ settings.ticksBefore now (count - 1 - position) := by
    rw [Instant.epoch_le_iff, ticksBefore, Instant.addSeconds] at isCounted ⊢
    have fewer : settings.tickMinutes.toNat * 60 * min (count - 1 - position) replayReach ≤
        settings.tickMinutes.toNat * 60 * min (count - 1) replayReach :=
      Nat.mul_le_mul_left _ (by omega)
    dsimp only at isCounted ⊢
    omega
  obtain ⟨-, isTick⟩ := tick_ticksBefore isSet (by omega) isLater
  have inOrder : ∀ last : Nat, count - 1 ≤ last →
      last - (count - 1 - position) = last + 1 - count + position := by omega
  exact isTick.trans (inOrder _ isPast)

end Length

end Settings

end AdMonitor
