import AdMonitor.Accumulation.Tracker
import AdMonitor.Proofs.Accumulation.Ticks
import AdMonitor.Proofs.Stepwise
import Mathlib.Data.List.DropRight

/-!
# What accumulates over a run of verdicts

A tracker remembers just enough of the known verdicts: how long they have held
in a row, up to the requirement, or the latest of them, up to the window.  What
it has after any run of verdicts depends on their answers alone, and so does
each of its flags (`Tracker.run_tallies`).  A window that is as long as the
requirement is therefore a streak (`AccumulationRule.flags_agree`).  A run has a
result as long as its streaks leave room to count on.
-/

namespace AdMonitor

namespace Verdict

def answer? : Verdict → Option Bool
  | .holds => some true
  | .fails => some false
  | .unknown _ => none

def answers (verdicts : List Verdict) : List Bool :=
  verdicts.filterMap answer?

theorem answers_concat (verdicts : List Verdict) (verdict : Verdict) :
    answers (verdicts ++ [verdict]) = answers verdicts ++ verdict.answer?.toList := by
  rw [answers, List.filterMap_append]
  cases verdict <;> rfl

end Verdict

/-! ## The end of a list of outcomes -/

section Outcomes

variable {n : Nat} {outcomes : List Bool} {held : Bool}

/-- The number of outcomes that hold since the last one that does not. -/
def streakLength (outcomes : List Bool) : Nat :=
  (outcomes.rtakeWhile id).length

theorem streakLength_concat :
    streakLength (outcomes ++ [held]) = if held then streakLength outcomes + 1 else 0 := by
  rw [streakLength, List.rtakeWhile_concat]
  cases held with
  | false => rfl
  | true => exact List.length_append

theorem replicate_suffix_concat : List.replicate (n + 1) true <:+ outcomes ++ [held] ↔
    held = true ∧ List.replicate n true <:+ outcomes := by
  rw [List.replicate_succ', List.suffix_concat_iff]
  constructor
  · rintro (isNil | ⟨earlier, same, isSuffix⟩)
    · simp at isNil
    · obtain ⟨rfl, rest⟩ := List.append_inj' same rfl
      exact ⟨(List.cons.inj rest).1.symm, isSuffix⟩
  · rintro ⟨rfl, isSuffix⟩
    exact Or.inr ⟨_, rfl, isSuffix⟩

/-- The streak is the longest end of the outcomes that holds throughout. -/
theorem le_streakLength_iff : n ≤ streakLength outcomes ↔ List.replicate n true <:+ outcomes := by
  induction outcomes using List.reverseRecOn generalizing n with
  | nil => simp [streakLength]
  | append_singleton earlier held ih =>
      cases n with
      | zero => simp
      | succ n =>
          rw [replicate_suffix_concat, ← ih, streakLength_concat]
          cases held <;> simp

theorem replicate_suffix_of_le {fewer more : Nat} (isLess : fewer ≤ more)
    (isSuffix : List.replicate more true <:+ outcomes) :
    List.replicate fewer true <:+ outcomes :=
  le_streakLength_iff.1 (Nat.le_trans isLess (le_streakLength_iff.2 isSuffix))

theorem rtake_rtake_append (n : Nat) (first second : List Bool) :
    (first.rtake n ++ second).rtake n = (first ++ second).rtake n := by
  simp [List.rtake_eq_reverse_take_reverse, List.take_append, List.take_take]

theorem length_rtake (n : Nat) (outcomes : List Bool) :
    (outcomes.rtake n).length = min n outcomes.length := by
  rw [List.rtake, List.length_drop]
  omega

/-- All of the latest outcomes hold when as many of them hold as there can be. -/
theorem le_count_rtake_iff :
    n ≤ (outcomes.rtake n).count true ↔ List.replicate n true <:+ outcomes := by
  constructor
  · intro reached
    have countBound : (outcomes.rtake n).count true ≤ (outcomes.rtake n).length :=
      List.count_le_length
    have isLength := length_rtake n outcomes
    have allHold : ∀ held ∈ outcomes.rtake n, true = held :=
      List.count_eq_length.1 (by omega)
    have same : outcomes.rtake n = List.replicate n true :=
      List.eq_replicate_iff.2 ⟨by omega, fun held isOne => (allHold held isOne).symm⟩
    rw [← same]
    exact List.drop_suffix _ _
  · intro isSuffix
    have same : List.replicate n true = outcomes.rtake n := by
      have atEnd := List.suffix_iff_eq_drop.1 isSuffix
      rwa [List.length_replicate] at atEnd
    rw [← same, List.count_replicate_self]

end Outcomes

/-! ## Progress over a run -/

namespace Word

theorem toNat_largest : largest.toNat = UInt32.size - 1 :=
  UInt32.toNat_ofNat_of_lt' (by decide)

theorem next?_eq_some {word : UInt32} (notLargest : word ≠ largest) :
    next? word = some (word + 1) := if_neg notLargest

end Word

namespace Progress

variable {required : UInt32}

theorem le_amount_window_iff {kept : List Bool} :
    required ≤ (Progress.window kept).amount ↔ required.toNat ≤ kept.count true := by
  have bound := required.toNat_lt
  have isWord : min (kept.countP id) (UInt32.size - 1) < UInt32.size := by
    simp only [UInt32.size]
    omega
  have same : kept.countP id = kept.count true :=
    List.countP_congr fun held _ => by cases held <;> rfl
  rw [UInt32.le_iff_toNat_le, amount, UInt32.toNat_ofNat_of_lt' isWord, same]
  simp only [UInt32.size]
  omega

end Progress

namespace Tracker

variable {tracker : Tracker}

/--
The progress after some verdicts, the earliest first, and a flag for each of
them, unless the count overflows on the way.
-/
def run? (tracker : Tracker) (verdicts : List Verdict) : Option (Progress × List Bool) :=
  Stepwise.run? tracker.step tracker.initial verdicts

/-- The progress that stands for some outcomes, the earliest first. -/
def tally (tracker : Tracker) (outcomes : List Bool) : Progress :=
  match tracker.mode with
  | .consecutive => .streak (.ofNat (min tracker.required.toNat (streakLength outcomes)))
  | .withinWindow => .window (outcomes.rtake tracker.window.toNat)

/-- Whether some outcomes, the earliest first, are enough at their end. -/
def IsMet (tracker : Tracker) (outcomes : List Bool) : Prop :=
  match tracker.mode with
  | .consecutive => List.replicate tracker.required.toNat true <:+ outcomes
  | .withinWindow =>
      tracker.required.toNat ≤ (outcomes.rtake tracker.window.toNat).count true

instance (tracker : Tracker) (outcomes : List Bool) : Decidable (tracker.IsMet outcomes) :=
  match tracker with
  | ⟨.consecutive, required, _⟩ =>
      inferInstanceAs (Decidable (List.replicate required.toNat true <:+ outcomes))
  | ⟨.withinWindow, required, window⟩ =>
      inferInstanceAs (Decidable (required.toNat ≤ (outcomes.rtake window.toNat).count true))

/-- Whether a verdict that comes after some others is known, and they are enough with it. -/
def marks (tracker : Tracker) (verdicts : List Verdict) : List Bool :=
  verdicts.mapIdx fun i verdict => verdict.answer?.isSome &&
    decide (tracker.IsMet (Verdict.answers (verdicts.take (i + 1))))

theorem marks_concat (earlier : List Verdict) (verdict : Verdict) :
    tracker.marks (earlier ++ [verdict]) = tracker.marks earlier ++
      [verdict.answer?.isSome &&
        decide (tracker.IsMet (Verdict.answers earlier ++ verdict.answer?.toList))] := by
  have atEnd : (earlier ++ [verdict]).take (earlier.length + 1) = earlier ++ [verdict] :=
    List.take_of_length_le (by simp)
  rw [marks, List.mapIdx_concat, atEnd, Verdict.answers_concat]
  refine congrArg (· ++ _) (List.mapIdx_eq_mapIdx_iff.2 fun i isEarly => ?_)
  rw [List.take_append_of_le_length isEarly]

theorem toNat_cappedStreak (required : UInt32) (length : Nat) :
    (UInt32.ofNat (min required.toNat length)).toNat = min required.toNat length :=
  UInt32.toNat_ofNat_of_lt' (Nat.lt_of_le_of_lt (Nat.min_le_left _ _) required.toNat_lt)

theorem initial_eq_tally (tracker : Tracker) : tracker.initial = tracker.tally [] := by
  obtain ⟨mode, required, window⟩ := tracker
  cases mode with
  | consecutive => simp [initial, tally, streakLength]
  | withinWindow => simp [initial, tally]

theorem fit_tally (tracker : Tracker) (outcomes : List Bool) :
    tracker.fit (tracker.tally outcomes) = tracker.tally outcomes := by
  obtain ⟨mode, required, window⟩ := tracker
  cases mode with
  | consecutive =>
      refine congrArg Progress.streak (UInt32.toNat_inj.1 ?_)
      rw [UInt32.toNat_min, toNat_cappedStreak]
      omega
  | withinWindow =>
      have again := rtake_rtake_append window.toNat outcomes []
      rw [List.append_nil, List.append_nil] at again
      exact congrArg Progress.window again

/-- Whether one more can be counted than after some outcomes, also before it is capped. -/
def HasRoom (tracker : Tracker) (outcomes : List Bool) : Prop :=
  tracker.mode = .consecutive →
    min tracker.required.toNat (streakLength outcomes) < UInt32.size - 1

theorem hasRoom_of_bounded (bounded : tracker.required.toNat < UInt32.size - 1)
    (outcomes : List Bool) : tracker.HasRoom outcomes :=
  fun _ => Nat.lt_of_le_of_lt (Nat.min_le_left _ _) bounded

theorem record_tally {outcomes : List Bool} {held : Bool}
    (room : held = true → tracker.HasRoom outcomes) : tracker.record held (tracker.tally outcomes) =
      some (tracker.tally (outcomes ++ [held])) := by
  obtain ⟨mode, required, window⟩ := tracker
  cases mode with
  | withinWindow =>
      exact congrArg (some ∘ Progress.window) (rtake_rtake_append _ outcomes [held])
  | consecutive =>
      cases held with
      | false => simp [record, tally, streakLength_concat]
      | true =>
          -- One is added before the streak is capped, and there is room for it.
          have small : min required.toNat (streakLength outcomes) < UInt32.size - 1 :=
            room rfl rfl
          have counted := toNat_cappedStreak required (streakLength outcomes)
          have notLargest : UInt32.ofNat (min required.toNat (streakLength outcomes)) ≠
              Word.largest := by
            rw [Ne, ← UInt32.toNat_inj, counted, Word.toNat_largest]
            exact Nat.ne_of_lt small
          refine (congrArg (Option.map _) (Word.next?_eq_some notLargest)).trans ?_
          refine congrArg (some ∘ Progress.streak) (UInt32.toNat_inj.1 ?_)
          rw [toNat_cappedStreak, streakLength_concat, if_pos rfl, UInt32.toNat_min,
            UInt32.toNat_add, counted, UInt32.toNat_one]
          simp only [UInt32.size] at small ⊢
          omega

theorem isSatisfied_tally (tracker : Tracker) (outcomes : List Bool) :
    tracker.isSatisfied (tracker.tally outcomes) = decide (tracker.IsMet outcomes) := by
  obtain ⟨mode, required, window⟩ := tracker
  refine decide_eq_decide.2 ?_
  cases mode with
  | consecutive =>
      change required ≤ UInt32.ofNat (min required.toNat (streakLength outcomes)) ↔
        List.replicate required.toNat true <:+ outcomes
      rw [UInt32.le_iff_toNat_le, toNat_cappedStreak, ← le_streakLength_iff]
      omega
  | withinWindow => exact Progress.le_amount_window_iff

/-- One more verdict turns what stands for the outcomes before it into what stands for all. -/
theorem step_tally {outcomes : List Bool} {verdict : Verdict}
    (room : verdict = .holds → tracker.HasRoom outcomes) :
    tracker.step (tracker.tally outcomes) verdict =
      some (tracker.tally (outcomes ++ verdict.answer?.toList), verdict.answer?.isSome &&
        decide (tracker.IsMet (outcomes ++ verdict.answer?.toList))) := by
  cases verdict with
  | holds =>
      simp only [step, fit_tally, record_tally fun _ => room rfl, Option.bind_eq_bind,
        Option.bind_some, isSatisfied_tally]
      rfl
  | fails =>
      have recorded := @record_tally tracker outcomes false nofun
      simp only [step, fit_tally, recorded, Option.bind_eq_bind, Option.bind_some,
        isSatisfied_tally]
      rfl
  | unknown metric =>
      simp only [step, fit_tally, Verdict.answer?, Option.toList_none, List.append_nil]
      rfl

theorem run?_concat (earlier : List Verdict) (verdict : Verdict) :
    tracker.run? (earlier ++ [verdict]) = (tracker.run? earlier).bind fun ran =>
      (tracker.step ran.1 verdict).map fun reached => (reached.1, ran.2 ++ [reached.2]) :=
  Stepwise.run?_concat earlier verdict

/-- A run that always has room comes to what stands for the answers, with the flags they ask for. -/
theorem run?_of_room {verdicts : List Verdict}
    (room : ∀ i < verdicts.length, tracker.HasRoom (Verdict.answers (verdicts.take i))) :
    tracker.run? verdicts =
      some (tracker.tally (Verdict.answers verdicts), tracker.marks verdicts) := by
  induction verdicts using List.reverseRecOn with
  | nil => exact congrArg (fun progress => some (progress, [])) (initial_eq_tally tracker)
  | append_singleton earlier verdict ih =>
      rw [List.length_append] at room
      have atEnd := room earlier.length (Nat.lt_succ_self _)
      rw [List.take_left] at atEnd
      have before : ∀ i < earlier.length, tracker.HasRoom (Verdict.answers (earlier.take i)) := by
        intro i isEarly
        have isEarlier := room i (Nat.lt_succ_of_lt isEarly)
        rwa [List.take_append_of_le_length isEarly.le] at isEarlier
      rw [run?_concat, ih before, Option.bind_some, step_tally fun _ => atEnd, Option.map_some,
        marks_concat, Verdict.answers_concat]

theorem run?_of_bounded (bounded : tracker.required.toNat < UInt32.size - 1)
    (verdicts : List Verdict) : tracker.run? verdicts =
      some (tracker.tally (Verdict.answers verdicts), tracker.marks verdicts) :=
  run?_of_room fun _ _ => hasRoom_of_bounded bounded _

/--
Any run of verdicts comes to the progress that stands for the answers of the
known ones, and a flag is set when its verdict is known and the answers up to
it are enough.
-/
theorem run_tallies (tracker : Tracker) (bounded : tracker.required.toNat < UInt32.size - 1)
    (verdicts : List Verdict) :
    ∃ flags, tracker.run? verdicts = some (tracker.tally (Verdict.answers verdicts), flags) ∧
      ∀ i : Nat, flags[i]? = verdicts[i]?.map fun verdict =>
        verdict.answer?.isSome &&
          decide (tracker.IsMet (Verdict.answers (verdicts.take (i + 1)))) :=
  ⟨tracker.marks verdicts, run?_of_bounded bounded verdicts, fun _ => List.getElem?_mapIdx⟩

def exampleTracker : Tracker := ⟨.withinWindow, 2, 3⟩

def exampleVerdicts : List Verdict := [.holds, .unknown "roas", .fails, .holds, .fails]

/-- The gap takes no place in the window, so the fourth verdict is the third outcome. -/
theorem run_tallies_exampleVerdicts :
    exampleTracker.required.toNat < UInt32.size - 1 ∧
      ∃ flags, exampleTracker.run? exampleVerdicts = some (.window [false, true, false], flags) ∧
        flags[3]? = some true ∧ flags[4]? = some false := by
  have bounded : exampleTracker.required.toNat < UInt32.size - 1 := by decide
  obtain ⟨flags, ran, isFlag⟩ := run_tallies exampleTracker bounded exampleVerdicts
  have reached : exampleTracker.tally (Verdict.answers exampleVerdicts) =
      .window [false, true, false] := by decide
  refine ⟨bounded, flags, reached ▸ ran, ?_, ?_⟩
  · exact (isFlag 3).trans (by decide)
  · exact (isFlag 4).trans (by decide)

/-- Trackers that find the same outcomes to be enough set the same flags. -/
theorem marks_congr {first second : Tracker}
    (same : ∀ outcomes, first.IsMet outcomes ↔ second.IsMet outcomes) (verdicts : List Verdict) :
    first.marks verdicts = second.marks verdicts := by
  simp only [marks, same]

end Tracker

/-! ## A window that is as long as the requirement -/

namespace AccumulationRule

variable {rule : AccumulationRule} {tickMinutes : UInt32}

theorem isMet_withinWindow_iff
    (isTight : rule.windowTicks tickMinutes = rule.requiredTicks tickMinutes)
    (window : Option UInt32) (outcomes : List Bool) :
    (Tracker.ofRule { rule with mode := .withinWindow } tickMinutes).IsMet outcomes ↔
      (Tracker.ofRule { rule with mode := .consecutive, window } tickMinutes).IsMet outcomes := by
  change (rule.requiredTicks tickMinutes).toNat ≤
      (outcomes.rtake (rule.windowTicks tickMinutes).toNat).count true ↔
    List.replicate (rule.requiredTicks tickMinutes).toNat true <:+ outcomes
  rw [isTight]
  exact le_count_rtake_iff

/--
A window that keeps no more outcomes than are required sets the same flags as
a streak of that many, and a short window is such a one.
-/
theorem flags_agree (rule : AccumulationRule) (tickMinutes : UInt32)
    (bounded : (rule.requiredTicks tickMinutes).toNat < UInt32.size - 1) :
    (rule.HasShortWindow tickMinutes →
        rule.windowTicks tickMinutes = rule.requiredTicks tickMinutes) ∧
      (rule.windowTicks tickMinutes = rule.requiredTicks tickMinutes →
        ∀ (window : Option UInt32) (verdicts : List Verdict), ∃ progress streak flags,
          (Tracker.ofRule { rule with mode := .withinWindow } tickMinutes).run? verdicts =
              some (progress, flags) ∧
            (Tracker.ofRule { rule with mode := .consecutive, window } tickMinutes).run?
              verdicts = some (streak, flags)) := by
  refine ⟨HasShortWindow.windowTicks_eq, fun isTight window verdicts => ?_⟩
  have same := Tracker.marks_congr (isMet_withinWindow_iff isTight window) verdicts
  have streak := @Tracker.run?_of_bounded
    (Tracker.ofRule { rule with mode := .consecutive, window } tickMinutes) bounded verdicts
  rw [← same] at streak
  exact ⟨_, _, _, Tracker.run?_of_bounded bounded verdicts, streak⟩

/-- An hour is required, and the window is as long. -/
def exampleRule : AccumulationRule := ⟨1, .hours, .withinWindow, some 1⟩

def exampleHour : List Verdict := [.holds, .holds, .unknown "roas", .holds, .holds, .fails]

/-- The hour is four ticks, and the gap is none of them. -/
theorem flags_agree_exampleRule :
    (exampleRule.requiredTicks 15).toNat < UInt32.size - 1 ∧
      exampleRule.windowTicks 15 = exampleRule.requiredTicks 15 ∧
      ∃ progress streak flags,
        (Tracker.ofRule exampleRule 15).run? exampleHour = some (progress, flags) ∧
          (Tracker.ofRule ⟨1, .hours, .consecutive, none⟩ 15).run? exampleHour =
            some (streak, flags) := by
  have bounded : (exampleRule.requiredTicks 15).toNat < UInt32.size - 1 := by decide
  obtain ⟨isTight, agree⟩ := flags_agree exampleRule 15 bounded
  have isShort : exampleRule.HasShortWindow 15 := UInt32.le_refl 1
  exact ⟨bounded, isTight isShort, agree (isTight isShort) none exampleHour⟩

end AccumulationRule

end AdMonitor
