import AdMonitor.Accumulation
import Mathlib.Data.UInt

/-!
# Requirements and windows in ticks

An amount of a unit becomes a number of ticks that grows with the amount.  So a
window that is not longer than the requirement keeps just as many outcomes as
are required (`AccumulationRule.HasShortWindow.windowTicks_eq`).
-/

namespace AdMonitor

namespace TimeUnit

variable {first second tickMinutes : UInt32}

theorem toNat_ticksFor (minutes tickMinutes : Nat) : (ticksFor minutes tickMinutes).toNat =
    min ((minutes + max tickMinutes 1 - 1) / max tickMinutes 1) (UInt32.size - 1) :=
  UInt32.toNat_ofNat_of_lt' (Nat.lt_of_le_of_lt (Nat.min_le_right _ _) (by decide))

theorem ticksFor_mono {fewer more : Nat} (isLess : fewer ≤ more) (tickMinutes : Nat) :
    ticksFor fewer tickMinutes ≤ ticksFor more tickMinutes := by
  rw [UInt32.le_iff_toNat_le, toNat_ticksFor, toNat_ticksFor]
  have rounded : (fewer + max tickMinutes 1 - 1) / max tickMinutes 1 ≤
      (more + max tickMinutes 1 - 1) / max tickMinutes 1 :=
    Nat.div_le_div_right (by omega)
  exact Nat.le_min.2 ⟨Nat.le_trans (Nat.min_le_left _ _) rounded, Nat.min_le_right _ _⟩

theorem toTicks_mono (unit : TimeUnit) (isLess : first ≤ second) :
    unit.toTicks first tickMinutes ≤ unit.toTicks second tickMinutes := by
  have isLess' := UInt32.le_iff_toNat_le.1 isLess
  cases unit with
  | evaluations => exact isLess
  | hours => exact ticksFor_mono (by omega) _
  | days => exact ticksFor_mono (by omega) _

end TimeUnit

namespace AccumulationRule

variable {rule : AccumulationRule} {tickMinutes : UInt32}

theorem toTicks_le_requiredTicks (rule : AccumulationRule) (tickMinutes : UInt32) :
    rule.unit.toTicks rule.required tickMinutes ≤ rule.requiredTicks tickMinutes := by
  rw [requiredTicks, UInt32.max_def]
  split
  · assumption
  · exact UInt32.le_refl _

/-- Whether a window is given that is not longer than the requirement, or none is given where a
single tick is required. -/
def HasShortWindow (rule : AccumulationRule) (tickMinutes : UInt32) : Prop :=
  match rule.window with
  | some window => window ≤ rule.required
  | none => rule.requiredTicks tickMinutes = 1

/-- A short window keeps as many outcomes as are required. -/
theorem HasShortWindow.windowTicks_eq (isShort : rule.HasShortWindow tickMinutes) :
    rule.windowTicks tickMinutes = rule.requiredTicks tickMinutes := by
  unfold HasShortWindow at isShort
  cases given : rule.window with
  | none =>
      have isOne : rule.requiredTicks tickMinutes = 1 := by rwa [given] at isShort
      simp only [windowTicks, given, isOne]
      rfl
  | some window =>
      have isLess : window ≤ rule.required := by rwa [given] at isShort
      have inTicks : rule.unit.toTicks window tickMinutes ≤ rule.requiredTicks tickMinutes :=
        UInt32.le_trans (rule.unit.toTicks_mono isLess) (rule.toTicks_le_requiredTicks _)
      simp only [windowTicks, given]
      exact if_pos inTicks

end AccumulationRule

end AdMonitor
