import AdMonitor.Instant
import Mathlib.Order.Defs.LinearOrder

/-!
# The order of instants

Instants are ordered by their seconds, and within a second by the fraction.
-/

namespace AdMonitor.Instant

variable {s t : Instant}

theorem lt_iff : s < t ↔ s.seconds < t.seconds ∨ s.seconds = t.seconds ∧ s.nanos < t.nanos := by
  change s.before t = true ↔ _
  simp [before]

/-- Not after. -/
instance : LE Instant := ⟨fun s t => ¬ t < s⟩

theorem le_iff : s ≤ t ↔ s.seconds < t.seconds ∨ s.seconds = t.seconds ∧ s.nanos ≤ t.nanos := by
  change ¬ t < s ↔ _
  rw [lt_iff]
  omega

instance : LinearOrder Instant where
  le_refl s := le_iff.2 (Or.inr ⟨rfl, Nat.le_refl _⟩)
  le_trans r s t rs st := by
    rw [le_iff] at rs st ⊢
    omega
  lt_iff_le_not_ge s t := by
    rw [lt_iff, le_iff, le_iff]
    omega
  le_antisymm s t st ts := by
    rw [le_iff] at st ts
    have sameSeconds : s.seconds = t.seconds := by omega
    have sameNanos : s.nanos = t.nanos := by omega
    cases s
    cases t
    congr
  le_total s t := by
    rw [le_iff, le_iff]
    omega
  toDecidableLE s t := inferInstanceAs (Decidable (¬ t < s))

/-- Whether a time is the latest of some times; there is none exactly if there are no times. -/
def IsLatest (times : List Instant) : Option Instant → Prop
  | none => times = []
  | some last => last ∈ times ∧ ∀ time ∈ times, time ≤ last

namespace IsLatest

variable {times others : List Instant} {last other : Option Instant}

theorem toList (last : Option Instant) : IsLatest last.toList last := by
  cases last with
  | none => rfl
  | some time => exact ⟨List.mem_singleton_self time, fun other found => by simp_all⟩

/-- The latest of some times does not depend on their order. -/
theorem eq_of_perm (isLatest : IsLatest times last) (isOther : IsLatest others other)
    (same : times.Perm others) : last = other := by
  cases last with
  | none =>
      obtain rfl : times = [] := isLatest
      obtain rfl : others = [] := same.nil_eq.symm
      cases other with
      | none => rfl
      | some time => cases isOther.1
  | some time =>
      cases other with
      | none =>
          obtain rfl : others = [] := isOther
          cases same.mem_iff.1 isLatest.1
      | some otherTime =>
          have least := isOther.2 time (same.mem_iff.1 isLatest.1)
          have greatest := isLatest.2 otherTime (same.mem_iff.2 isOther.1)
          rw [le_antisymm least greatest]

end IsLatest

end AdMonitor.Instant
