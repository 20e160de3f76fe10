import AdMonitor.Proofs.Stepwise
import AdMonitor.Proofs.Trigger.Step
import Mathlib.Data.List.Induction

/-!
# A trigger over a run of decisions

The rule of a trigger may change from one decision to the next, and the clock
may go back.  What is remembered still tells how many firings there were and
when the last one was, and it decides as the times of all firings would
(`Occasion.run_firesAsAdmitted`).
-/

namespace AdMonitor

/-- What is asked of a trigger: the rule in force, whether the condition has held long enough, and
the time. -/
structure Occasion where
  rule : TriggerRule
  satisfied : Bool
  now : Instant
  deriving Repr, DecidableEq

/-- Whether firings are what is remembered of firings at some times, the earliest first. -/
structure Firings.Record (firings : Firings) (times : List Instant) : Prop where
  firedOnce : firings.firedOnce = true ↔ times ≠ []
  lastFiredAt : firings.lastFiredAt = times.getLast?
  count : firings.count.toNat = min times.length maxFiringCount

namespace Firings

theorem none_record : Firings.none.Record [] where
  firedOnce := by simp [Firings.none]
  lastFiredAt := rfl
  count := rfl

theorem Record.add {firings : Firings} {times : List Instant} (recorded : firings.Record times)
    (now : Instant) : (firings.add now).Record (times ++ [now]) where
  firedOnce := by simp [Firings.add]
  lastFiredAt := List.getLast?_concat.symm
  count := by
    rw [count_add, recorded.count, List.length_append, List.length_singleton]
    omega

end Firings

namespace TriggerRule

variable {rule : TriggerRule} {firings : Firings} {times : List Instant} {now : Instant}

/-- Whether a rule lets an agent act at a time, after firings at some times, the earliest first. -/
def Admits (rule : TriggerRule) (times : List Instant) (now : Instant) : Prop :=
  match rule.mode with
  | .continuous => True
  | .once => times = []
  | .cooldown =>
      times = [] ∨ ∃ last, times.getLast? = some last ∧ rule.cooldown ≤ now.since last

/-- What is remembered of firings decides as their times do. -/
theorem withhold?_eq_none_iff (recorded : firings.Record times) :
    rule.withhold? firings now = none ↔ rule.Admits times now := by
  unfold withhold? Admits
  cases rule.mode with
  | continuous => exact iff_of_true rfl trivial
  | once =>
      have sameFlag := recorded.firedOnce
      cases fired : firings.firedOnce with
      | false =>
          have never : times = [] := by simpa [fired] using sameFlag
          exact iff_of_true rfl never
      | true =>
          have ever : times ≠ [] := sameFlag.1 fired
          exact iff_of_false (Option.some_ne_none _) ever
  | cooldown =>
      rw [recorded.lastFiredAt]
      cases isLast : times.getLast? with
      | none => exact iff_of_true rfl (Or.inl (List.getLast?_eq_none_iff.1 isLast))
      | some last =>
          have ever : times ≠ [] := by
            rintro rfl
            cases isLast
          simp [ever]

theorem fire_iff (recorded : firings.Record times) {satisfied : Bool} :
    (rule.step firings satisfied now).2 = .fire ↔
      satisfied = true ∧ rule.Admits times now := by
  rw [← withhold?_eq_none_iff recorded, ← fires_iff]
  exact ⟨fun isFire => by rw [isFire]; rfl, Decision.eq_fire⟩

theorem notSatisfied_iff {satisfied : Bool} :
    (rule.step firings satisfied now).2 = .notSatisfied ↔ satisfied = false := by
  unfold step
  cases satisfied with
  | false => exact iff_of_true rfl rfl
  | true => cases rule.withhold? firings now <;> simp

end TriggerRule

namespace Occasion

variable {occasions : List Occasion} {occasion : Occasion} {i : Nat}

def step (firings : Firings) (occasion : Occasion) : Firings × Decision :=
  occasion.rule.step firings occasion.satisfied occasion.now

/-- What is remembered of firings after some occasions, the earliest first. -/
def firingsAfter (occasions : List Occasion) : Firings :=
  Stepwise.after step .none occasions

def decisions (occasions : List Occasion) : List Decision :=
  Stepwise.outputs step .none occasions

def firingTimes (occasions : List Occasion) : List Instant :=
  ((occasions.zip (decisions occasions)).filter fun pair => pair.2.fires).map fun pair =>
    pair.1.now

theorem length_decisions (occasions : List Occasion) :
    (decisions occasions).length = occasions.length :=
  Stepwise.length_outputs _

theorem decisions_concat (occasions : List Occasion) (occasion : Occasion) :
    decisions (occasions ++ [occasion]) =
      decisions occasions ++ [(occasion.step (firingsAfter occasions)).2] :=
  Stepwise.outputs_concat _ _

theorem firingTimes_concat (occasions : List Occasion) (occasion : Occasion) :
    firingTimes (occasions ++ [occasion]) = firingTimes occasions ++
      if (occasion.step (firingsAfter occasions)).2.fires then [occasion.now] else [] := by
  rw [firingTimes, decisions_concat, List.zip_append (length_decisions _).symm,
    List.filter_append, List.map_append]
  cases fires : (occasion.step (firingsAfter occasions)).2.fires <;> simp [firingTimes, fires]

theorem firingsAfter_record (occasions : List Occasion) :
    (firingsAfter occasions).Record (firingTimes occasions) := by
  induction occasions using List.reverseRecOn with
  | nil => exact Firings.none_record
  | append_singleton earlier occasion ih =>
      have reached : firingsAfter (earlier ++ [occasion]) =
          (occasion.step (firingsAfter earlier)).1 := Stepwise.after_concat _ _
      rw [reached, firingTimes_concat]
      cases fires : (occasion.step (firingsAfter earlier)).2.fires with
      | true =>
          rw [step, TriggerRule.firings_of_fires fires]
          exact ih.add occasion.now
      | false =>
          rw [step, TriggerRule.firings_of_holds fires]
          simpa using ih

theorem length_firingTimes (occasions : List Occasion) :
    (firingTimes occasions).length = (decisions occasions).count .fire := by
  induction occasions using List.reverseRecOn with
  | nil => rfl
  | append_singleton earlier occasion ih =>
      rw [firingTimes_concat, decisions_concat, List.length_append, List.count_append, ih]
      cases (occasion.step (firingsAfter earlier)).2 <;> rfl

theorem length_firingTimes_le (occasions : List Occasion) :
    (firingTimes occasions).length ≤ occasions.length := by
  rw [length_firingTimes, ← length_decisions occasions]
  exact List.count_le_length

theorem count_firingsAfter (isShort : occasions.length < UInt64.size) :
    (firingsAfter occasions).count.toNat = (decisions occasions).count .fire := by
  have bound := length_firingTimes_le occasions
  rw [(firingsAfter_record occasions).count, ← length_firingTimes]
  simp only [maxFiringCount]
  omega

theorem firedOnce_iff :
    (firingsAfter occasions).firedOnce = true ↔ .fire ∈ decisions occasions := by
  rw [(firingsAfter_record occasions).firedOnce, ← List.count_pos_iff, ← length_firingTimes,
    List.length_pos_iff]

theorem getElem?_decisions (isAsked : occasions[i]? = some occasion) :
    (decisions occasions)[i]? = some (occasion.step (firingsAfter (occasions.take i))).2 := by
  rw [decisions, Stepwise.getElem?_outputs, isAsked]
  rfl

theorem firingsAfter_take (isAsked : occasions[i]? = some occasion) :
    firingsAfter (occasions.take (i + 1)) =
      (occasion.step (firingsAfter (occasions.take i))).1 := by
  rw [List.take_add_one, isAsked]
  exact Stepwise.after_concat _ _

/--
After any run what is remembered counts the firings and tells the last of them,
and it changes only by firing.  On every occasion the decision is to fire just
when the condition has held long enough and the rule in force admits it after
the firings before.
-/
theorem run_firesAsAdmitted (occasions : List Occasion) (isShort : occasions.length < UInt64.size) :
    (firingsAfter occasions).count.toNat = (decisions occasions).count .fire ∧
      (firingsAfter occasions).lastFiredAt = (firingTimes occasions).getLast? ∧
      ((firingsAfter occasions).firedOnce = true ↔ .fire ∈ decisions occasions) ∧
      ∀ i occasion, occasions[i]? = some occasion →
        ∃ decision, (decisions occasions)[i]? = some decision ∧
          (decision ≠ .fire →
            firingsAfter (occasions.take (i + 1)) = firingsAfter (occasions.take i)) ∧
          (decision = .notSatisfied ↔ occasion.satisfied = false) ∧
          (occasion.satisfied = true → (decision = .fire ↔
            occasion.rule.Admits (firingTimes (occasions.take i)) occasion.now)) := by
  refine ⟨count_firingsAfter isShort, (firingsAfter_record occasions).lastFiredAt,
    firedOnce_iff, ?_⟩
  intro i occasion isAsked
  have recorded := firingsAfter_record (occasions.take i)
  refine ⟨_, getElem?_decisions isAsked, ?_, TriggerRule.notSatisfied_iff, ?_⟩
  · intro isHeld
    rw [firingsAfter_take isAsked]
    exact TriggerRule.firings_of_ne_fire isHeld
  · intro isSatisfied
    exact (TriggerRule.fire_iff recorded).trans (and_iff_right isSatisfied)

/-- A firing, then the clock goes back, the rule is changed twice, and a minute has passed. -/
def exampleOccasions : List Occasion :=
  [⟨⟨.continuous, 0⟩, true, ⟨100, 0⟩⟩, ⟨⟨.cooldown, 1⟩, true, ⟨50, 0⟩⟩,
    ⟨⟨.once, 0⟩, true, ⟨130, 0⟩⟩, ⟨⟨.cooldown, 1⟩, true, ⟨160, 0⟩⟩]

theorem run_firesAsAdmitted_exampleOccasions :
    exampleOccasions.length < UInt64.size ∧ (firingsAfter exampleOccasions).count.toNat = 2 ∧
      (firingsAfter exampleOccasions).lastFiredAt = some ⟨160, 0⟩ ∧
      firingsAfter (exampleOccasions.take 2) = firingsAfter (exampleOccasions.take 1) := by
  have isShort : exampleOccasions.length < UInt64.size := by decide
  obtain ⟨isCount, isLast, -, onEach⟩ := run_firesAsAdmitted exampleOccasions isShort
  obtain ⟨decision, isDecision, isKept, -⟩ := onEach 1 ⟨⟨.cooldown, 1⟩, true, ⟨50, 0⟩⟩ rfl
  have isHeld : decision ≠ .fire := by
    rintro rfl
    exact absurd isDecision (by decide)
  exact ⟨isShort, isCount.trans (by decide), isLast.trans (by decide), isKept isHeld⟩

end Occasion

end AdMonitor
