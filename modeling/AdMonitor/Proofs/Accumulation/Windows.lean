import AdMonitor.Proofs.Accumulation.Run

/-!
# Windows and what they have to hold

A window that is given keeps at least as many outcomes as are required, and so
does the one that is taken when none is given, but for one requirement: the
largest word cannot be doubled, and the one that is taken off makes the window
too short.  As many verdicts as are required are enough where the window can
hold them, and no run of verdicts is enough where it cannot
(`AccumulationRule.window_holdsRequirement`).
-/

namespace AdMonitor

namespace Verdict

theorem answers_replicate_holds (n : Nat) :
    answers (List.replicate n .holds) = List.replicate n true :=
  List.filterMap_replicate_of_some rfl

end Verdict

/-! ## Windows that are satisfied -/

namespace Tracker

variable {tracker : Tracker}

/-- Whether the progress after some verdicts is enough, unless the count overflows on the way. -/
def satisfies? (tracker : Tracker) (verdicts : List Verdict) : Option Bool :=
  (tracker.run? verdicts).map fun ran => tracker.isSatisfied ran.1

/-- A window counts nothing that could overflow. -/
theorem satisfies?_window (isWindow : tracker.mode = .withinWindow) (verdicts : List Verdict) :
    tracker.satisfies? verdicts = some (decide (tracker.required.toNat ≤
      ((Verdict.answers verdicts).rtake tracker.window.toNat).count true)) := by
  have room : ∀ outcomes, tracker.HasRoom outcomes := fun _ isStreak =>
    nomatch isWindow.symm.trans isStreak
  have isMet_iff : tracker.IsMet (Verdict.answers verdicts) ↔ tracker.required.toNat ≤
      ((Verdict.answers verdicts).rtake tracker.window.toNat).count true := by
    rw [IsMet, isWindow]
  rw [satisfies?, run?_of_room fun _ _ => room _, Option.map_some, isSatisfied_tally]
  exact congrArg some (decide_eq_decide.2 isMet_iff)

/-- A window that is shorter than the requirement is never enough. -/
theorem satisfies?_of_lt (isWindow : tracker.mode = .withinWindow)
    (isShort : tracker.window < tracker.required) (verdicts : List Verdict) :
    tracker.satisfies? verdicts = some false := by
  have counted : ((Verdict.answers verdicts).rtake tracker.window.toNat).count true ≤
      ((Verdict.answers verdicts).rtake tracker.window.toNat).length := List.count_le_length
  have isShort' := UInt32.lt_iff_toNat_lt.1 isShort
  rw [length_rtake] at counted
  rw [satisfies?_window isWindow, decide_eq_false]
  omega

/-- A window that is not shorter is full of what holds after as many verdicts as are required. -/
theorem satisfies?_replicate_holds (isWindow : tracker.mode = .withinWindow)
    (isLong : tracker.required ≤ tracker.window) :
    tracker.satisfies? (List.replicate tracker.required.toNat .holds) = some true := by
  have isLong' := UInt32.le_iff_toNat_le.1 isLong
  rw [satisfies?_window isWindow, Verdict.answers_replicate_holds, List.rtake,
    List.length_replicate, List.drop_replicate, List.count_replicate_self, decide_eq_true]
  omega

end Tracker

/-! ## Lengths of windows -/

namespace AccumulationRule

variable {rule : AccumulationRule} {tickMinutes : UInt32}

theorem one_le_requiredTicks (rule : AccumulationRule) (tickMinutes : UInt32) :
    1 ≤ rule.requiredTicks tickMinutes := by
  rw [UInt32.le_iff_toNat_le, requiredTicks, UInt32.toNat_max]
  exact Nat.le_max_right _ _

theorem toNat_defaultWindow (required : UInt32) : (defaultWindow required).toNat =
    max (min (required.toNat * 2) (UInt32.size - 1) - 1) 1 := by
  refine UInt32.toNat_ofNat_of_lt' ?_
  simp only [UInt32.size]
  omega

theorem le_defaultWindow_iff {required : UInt32} (isPositive : 1 ≤ required) :
    required ≤ defaultWindow required ↔ required ≠ Word.largest := by
  have bound := required.toNat_lt
  have isPositive' : 1 ≤ required.toNat := UInt32.le_iff_toNat_le.1 isPositive
  rw [UInt32.le_iff_toNat_le, Ne, ← UInt32.toNat_inj, toNat_defaultWindow, Word.toNat_largest]
  simp only [UInt32.size] at bound ⊢
  omega

/-- Whether the requirement is the largest number of ticks, and no window is given. -/
def IsSaturated (rule : AccumulationRule) (tickMinutes : UInt32) : Prop :=
  rule.window = none ∧ rule.requiredTicks tickMinutes = Word.largest

instance (rule : AccumulationRule) (tickMinutes : UInt32) :
    Decidable (rule.IsSaturated tickMinutes) :=
  inferInstanceAs (Decidable (_ ∧ _))

theorem requiredTicks_le_windowTicks_iff : rule.requiredTicks tickMinutes ≤
    rule.windowTicks tickMinutes ↔ ¬ rule.IsSaturated tickMinutes := by
  unfold windowTicks IsSaturated
  cases rule.window with
  | none =>
      rw [le_defaultWindow_iff (rule.one_le_requiredTicks tickMinutes), and_iff_right rfl]
  | some window =>
      refine iff_of_true ?_ fun saturated => nomatch saturated.1
      rw [UInt32.le_iff_toNat_le, UInt32.toNat_max]
      exact Nat.le_max_right _ _

theorem IsSaturated.toNat_windowTicks (saturated : rule.IsSaturated tickMinutes) :
    (rule.windowTicks tickMinutes).toNat + 1 = (rule.requiredTicks tickMinutes).toNat := by
  obtain ⟨notGiven, isMost⟩ := saturated
  simp only [windowTicks, notGiven, isMost]
  decide

/--
At least one tick is required.  Unless the largest number of ticks is required
and no window is given, the window holds the requirement, and as many verdicts
that hold satisfy it; else it is one too short, and no verdicts satisfy it.
-/
theorem window_holdsRequirement (rule : AccumulationRule) (tickMinutes : UInt32) :
    let required := rule.requiredTicks tickMinutes
    let window := rule.windowTicks tickMinutes
    let tracker := Tracker.ofRule { rule with mode := .withinWindow } tickMinutes
    1 ≤ required ∧
      if rule.IsSaturated tickMinutes then
        window.toNat + 1 = required.toNat ∧
          ∀ verdicts, tracker.satisfies? verdicts = some false
      else
        required ≤ window ∧
          tracker.satisfies? (List.replicate required.toNat .holds) = some true := by
  intro required window tracker
  refine ⟨rule.one_le_requiredTicks tickMinutes, ?_⟩
  split
  next saturated =>
    have isShort := saturated.toNat_windowTicks
    exact ⟨isShort, Tracker.satisfies?_of_lt rfl
      (UInt32.lt_iff_toNat_lt.2 (Nat.lt_of_succ_le isShort.le))⟩
  next isOther =>
    have isLong : required ≤ window := requiredTicks_le_windowTicks_iff.2 isOther
    exact ⟨isLong, Tracker.satisfies?_replicate_holds rfl isLong⟩

/-- The largest number of evaluations is required, and no window is given. -/
def exampleLargest : AccumulationRule := ⟨4294967295, .evaluations, .withinWindow, none⟩

/-- The window is too short for the largest requirement, so no run of verdicts satisfies it. -/
theorem window_isShort_exampleLargest :
    ¬ exampleLargest.requiredTicks 15 ≤ exampleLargest.windowTicks 15 ∧
      ¬ ∃ n, (Tracker.ofRule exampleLargest 15).satisfies? (List.replicate n .holds) =
        some true := by
  have isShort : exampleLargest.windowTicks 15 < exampleLargest.requiredTicks 15 := by decide
  refine ⟨UInt32.not_le.2 isShort, fun ⟨n, satisfied⟩ => ?_⟩
  cases (Tracker.satisfies?_of_lt rfl isShort _).symm.trans satisfied

end AccumulationRule

end AdMonitor
