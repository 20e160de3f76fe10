import AdMonitor.Proofs.Overflow
import Mathlib.Algebra.Order.Floor.Div

/-!
# Amounts of time as ticks

Hours and days become as many ticks as it takes to cover their minutes, and no
more, up to the largest word.  The least cover of more minutes is not smaller
and that by longer ticks is not larger, so the conversion is monotone in the
amount and antitone in the length of a tick (`TimeUnit.toTicks_isExact`).
-/

namespace AdMonitor

namespace TimeUnit

variable {minutes shorter longer tick : Nat}

/-- The minutes divided by the length of a tick and rounded up are the least number of ticks that
covers them. -/
theorem isLeast_ceilDiv (isPositive : 0 < tick) :
    IsLeast {n | minutes ≤ n * tick} (minutes ⌈/⌉ tick) := by
  have covers : ∀ n, minutes ⌈/⌉ tick ≤ n ↔ minutes ≤ n * tick := fun n => by
    rw [ceilDiv_le_iff_le_mul isPositive, Nat.mul_comm]
  exact ⟨(covers _).1 le_rfl, fun n isCover => (covers n).2 isCover⟩

/-- Ticks that cover some minutes still cover them when each is longer. -/
theorem ceilDiv_anti (isPositive : 0 < shorter) (isLess : shorter ≤ longer) :
    minutes ⌈/⌉ longer ≤ minutes ⌈/⌉ shorter := by
  have isCover : minutes ≤ (minutes ⌈/⌉ shorter) * shorter := (isLeast_ceilDiv isPositive).1
  refine (isLeast_ceilDiv (Nat.lt_of_lt_of_le isPositive isLess)).2 ?_
  exact Nat.le_trans isCover (Nat.mul_le_mul_left _ isLess)

theorem toNat_ticksFor_eq_ceilDiv (minutes tick : Nat) :
    (ticksFor minutes tick).toNat = min (minutes ⌈/⌉ max tick 1) (UInt32.size - 1) :=
  toNat_ticksFor minutes tick

theorem ticksFor_anti (minutes : Nat) (isLess : shorter ≤ longer) :
    ticksFor minutes longer ≤ ticksFor minutes shorter := by
  rw [UInt32.le_iff_toNat_le, toNat_ticksFor_eq_ceilDiv, toNat_ticksFor_eq_ceilDiv]
  have fewer : minutes ⌈/⌉ max longer 1 ≤ minutes ⌈/⌉ max shorter 1 :=
    ceilDiv_anti (Nat.le_max_right _ _) (by omega)
  exact min_le_min_right _ fewer

/-- Whether a unit of so many minutes becomes the least number of ticks that covers it, by steps
that fit their words, whatever the amount and the length of a tick; a length of zero counts as one,
and a number beyond the largest word as that word. -/
structure IsExact (unit : TimeUnit) (length : Nat) : Prop where
  isLeast : ∀ amount tickMinutes : UInt32, ∃ least,
    IsLeast {n | amount.toNat * length ≤ n * max tickMinutes.toNat 1} least ∧
      (unit.toTicks amount tickMinutes).toNat = min least (UInt32.size - 1)
  fits : ∀ amount tickMinutes : UInt32,
    unit.toTicks? amount tickMinutes = some (unit.toTicks amount tickMinutes).toNat
  mono : ∀ fewer more tickMinutes : UInt32, fewer ≤ more →
    unit.toTicks fewer tickMinutes ≤ unit.toTicks more tickMinutes
  anti : ∀ amount shorter longer : UInt32, shorter ≤ longer →
    unit.toTicks amount longer ≤ unit.toTicks amount shorter

theorem isExact_of_ticksFor {unit : TimeUnit} {length : Nat}
    (isConverted : ∀ amount tickMinutes : UInt32,
      unit.toTicks amount tickMinutes = ticksFor (amount.toNat * length) tickMinutes.toNat) :
    unit.IsExact length where
  isLeast amount tickMinutes := by
    rw [isConverted, toNat_ticksFor_eq_ceilDiv]
    exact ⟨_, isLeast_ceilDiv (Nat.le_max_right _ _), rfl⟩
  fits := unit.toTicks?_eq_some
  mono _ _ _ isLess := unit.toTicks_mono isLess
  anti amount shorter longer isLess := by
    rw [isConverted, isConverted]
    exact ticksFor_anti _ (UInt32.le_iff_toNat_le.1 isLess)

/-- Hours and days are converted exactly, and a day is as many ticks as its hours, as long as these
fit a word. -/
theorem toTicks_isExact :
    hours.IsExact 60 ∧ days.IsExact (24 * 60) ∧
      ∀ amount tickMinutes : UInt32, 24 * amount.toNat < UInt32.size →
        days.toTicks amount tickMinutes = hours.toTicks (24 * amount) tickMinutes := by
  refine ⟨isExact_of_ticksFor fun _ _ => rfl, isExact_of_ticksFor fun amount tickMinutes => ?_,
    fun amount tickMinutes fits => ?_⟩
  · rw [toTicks, Nat.mul_assoc]
  · have isProduct : (24 * amount).toNat = 24 * amount.toNat := by
      rw [UInt32.toNat_mul]
      exact Nat.mod_eq_of_lt fits
    rw [toTicks, toTicks, isProduct, Nat.mul_comm amount.toNat 24]

/-- The most days whose hours fit a word. -/
theorem toTicks_isExact_mostDays :
    24 * (178956970 : UInt32).toNat < UInt32.size ∧
      days.toTicks 178956970 7 = hours.toTicks 4294967280 7 :=
  ⟨by decide, toTicks_isExact.2.2 178956970 7 (by decide)⟩

/-- An hour takes three ticks of 25 minutes, and the most days as many ticks as a word can count. -/
example : hours.toTicks 1 25 = 3 ∧ days.toTicks 4294967295 0 = 4294967295 := by decide

end TimeUnit

end AdMonitor
