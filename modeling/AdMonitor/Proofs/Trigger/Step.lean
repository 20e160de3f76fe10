import AdMonitor.Trigger

/-!
# What one decision of a trigger does

A trigger fires when the condition has held long enough and nothing withholds
it.  Firing adds to what is remembered, and anything else leaves it as it is.
-/

namespace AdMonitor

/-- The greatest number of firings that can be counted. -/
def maxFiringCount : Nat := UInt64.size - 1

theorem Firings.count_add (firings : Firings) (now : Instant) :
    (firings.add now).count.toNat = min (firings.count.toNat + 1) maxFiringCount := by
  have bound := firings.count.toNat_lt
  by_cases full : firings.count = .ofNat (UInt64.size - 1)
  · simp only [Firings.add, full]
    rfl
  · have below : firings.count.toNat ≠ UInt64.size - 1 := fun same => full (UInt64.toNat_inj.1 same)
    simp only [Firings.add, full, if_false, UInt64.toNat_add, maxFiringCount]
    have one : (1 : UInt64).toNat = 1 := rfl
    rw [one]
    simp only [UInt64.size] at below ⊢
    omega

theorem Decision.eq_fire {decision : Decision} (fires : decision.fires = true) :
    decision = .fire := by
  cases decision with
  | fire => rfl
  | notSatisfied | suppressed => cases fires

namespace TriggerRule

variable {rule : TriggerRule} {firings : Firings} {satisfied : Bool} {now : Instant}

theorem fires_iff : (rule.step firings satisfied now).2.fires = true ↔
    satisfied = true ∧ rule.withhold? firings now = none := by
  unfold TriggerRule.step
  cases satisfied with
  | false => simp [Decision.fires]
  | true => cases rule.withhold? firings now <;> simp [Decision.fires]

theorem firings_of_fires (fires : (rule.step firings satisfied now).2.fires = true) :
    (rule.step firings satisfied now).1 = firings.add now := by
  obtain ⟨rfl, isFree⟩ := fires_iff.1 fires
  simp [TriggerRule.step, isFree]

theorem firings_of_holds (holds : (rule.step firings satisfied now).2.fires = false) :
    (rule.step firings satisfied now).1 = firings := by
  unfold TriggerRule.step at holds ⊢
  cases satisfied with
  | false => rfl
  | true =>
      cases withheld : rule.withhold? firings now with
      | some why => rfl
      | none => simp [withheld, Decision.fires] at holds

theorem firings_of_ne_fire (isHeld : (rule.step firings satisfied now).2 ≠ .fire) :
    (rule.step firings satisfied now).1 = firings :=
  firings_of_holds (Bool.eq_false_iff.2 fun fires => isHeld (Decision.eq_fire fires))

theorem once_of_free (isOnce : rule.mode = .once) (isFree : rule.withhold? firings now = none) :
    firings.firedOnce = false := by
  cases fired : firings.firedOnce with
  | false => rfl
  | true => simp [withhold?, isOnce, fired] at isFree

theorem cooldown_of_free (isCooldown : rule.mode = .cooldown)
    (isFree : rule.withhold? firings now = none) {last : Instant}
    (fired : firings.lastFiredAt = some last) : rule.cooldown ≤ now.since last := by
  simpa [withhold?, isCooldown, fired] using isFree

theorem count_step (rule : TriggerRule) (firings : Firings) (satisfied : Bool) (now : Instant) :
    (rule.step firings satisfied now).1.count.toNat =
      if (rule.step firings satisfied now).2.fires then
        min (firings.count.toNat + 1) maxFiringCount
      else firings.count.toNat := by
  cases fires : (rule.step firings satisfied now).2.fires with
  | true =>
      rw [firings_of_fires fires]
      exact firings.count_add now
  | false =>
      rw [firings_of_holds fires]
      rfl

end TriggerRule

end AdMonitor
