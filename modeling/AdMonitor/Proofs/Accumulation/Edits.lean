import AdMonitor.Proofs.Accumulation.Run

/-!
# Accumulation while its rule is edited

Progress that was made under one tracker is fitted to the next before it counts.
It never tells of more than the latest outcomes do, whatever trackers they were
fed to: so whichever tracker is satisfied at last, the outcomes are enough for
it (`Feeding.edited_run_isSound`).  Fitting also makes room to count on, unless
the requirement is the largest word.
-/

namespace AdMonitor

/-- Whether progress tells of nothing but the end of some outcomes. -/
def Progress.IsBackedBy (outcomes : List Bool) : Progress → Prop
  | .streak count => List.replicate count.toNat true <:+ outcomes
  | .window kept => kept <:+ outcomes

namespace Tracker

variable {tracker : Tracker} {progress next : Progress} {outcomes : List Bool} {held flag : Bool}

/-- Whether progress is of the mode of a tracker, and within its bounds. -/
def Fits (tracker : Tracker) (progress : Progress) : Prop :=
  match tracker.mode, progress with
  | .consecutive, .streak count => count ≤ tracker.required
  | .withinWindow, .window kept => kept.length ≤ tracker.window.toNat
  | _, _ => False

theorem newest_fits (n : Nat) (kept : List Bool) : (newest n kept).length ≤ n :=
  Nat.le_trans (Nat.le_of_eq (length_rtake n kept)) (Nat.min_le_left _ _)

theorem capped_le (count required : UInt32) : min count required ≤ required := by
  rw [UInt32.le_iff_toNat_le, UInt32.toNat_min]
  exact Nat.min_le_right _ _

theorem initial_fits (tracker : Tracker) : tracker.Fits tracker.initial := by
  obtain ⟨mode, required, window⟩ := tracker
  cases mode with
  | consecutive => exact UInt32.zero_le
  | withinWindow => exact Nat.zero_le _

theorem initial_isBackedBy (tracker : Tracker) (outcomes : List Bool) :
    tracker.initial.IsBackedBy outcomes := by
  obtain ⟨mode, required, window⟩ := tracker
  cases mode <;> exact List.nil_suffix

/-- Fitting makes progress of the other mode start over. -/
theorem fit_fits (tracker : Tracker) (progress : Progress) :
    tracker.Fits (tracker.fit progress) := by
  obtain ⟨mode, required, window⟩ := tracker
  cases mode with
  | consecutive =>
      cases progress with
      | streak count => exact capped_le count required
      | window kept => exact initial_fits _
  | withinWindow =>
      cases progress with
      | streak count => exact initial_fits _
      | window kept => exact newest_fits _ kept

/-- Fitting may forget what the progress tells of, but adds nothing to it. -/
theorem fit_isBackedBy (tracker : Tracker) (backed : progress.IsBackedBy outcomes) :
    (tracker.fit progress).IsBackedBy outcomes := by
  obtain ⟨mode, required, window⟩ := tracker
  cases mode with
  | consecutive =>
      cases progress with
      | streak count =>
          refine replicate_suffix_of_le ?_ backed
          rw [UInt32.toNat_min]
          exact Nat.min_le_left _ _
      | window kept => exact List.nil_suffix
  | withinWindow =>
      cases progress with
      | streak count => exact List.nil_suffix
      | window kept => exact (List.drop_suffix _ kept).trans backed

/-- A count that is raised is the next one, capped. -/
theorem record_streak {count : UInt32} :
    tracker.record true (.streak count) = some next ↔
      count ≠ Word.largest ∧ next = .streak (min (count + 1) tracker.required) := by
  by_cases isLargest : count = Word.largest
  · simp [record, Word.next?, isLargest]
  · simp [record, Word.next?, isLargest, eq_comm]

theorem record_fits (fits : tracker.Fits progress)
    (recorded : tracker.record held progress = some next) : tracker.Fits next := by
  obtain ⟨mode, required, window⟩ := tracker
  cases mode with
  | consecutive =>
      cases progress with
      | window kept => exact fits.elim
      | streak count =>
          cases held with
          | false =>
              cases recorded
              exact UInt32.zero_le
          | true =>
              obtain ⟨-, rfl⟩ := record_streak.1 recorded
              exact capped_le (count + 1) required
  | withinWindow =>
      cases progress with
      | streak count => exact fits.elim
      | window kept =>
          cases recorded
          exact newest_fits _ _

theorem record_isBackedBy (backed : progress.IsBackedBy outcomes)
    (recorded : tracker.record held progress = some next) :
    next.IsBackedBy (outcomes ++ [held]) := by
  cases progress with
  | streak count =>
      cases held with
      | false =>
          cases recorded
          exact List.nil_suffix
      | true =>
          obtain ⟨-, rfl⟩ := record_streak.1 recorded
          have grows : (min (count + 1) tracker.required).toNat ≤ count.toNat + 1 := by
            rw [UInt32.toNat_min, UInt32.toNat_add]
            exact Nat.le_trans (Nat.min_le_left _ _) (Nat.mod_le _ _)
          exact replicate_suffix_of_le grows (replicate_suffix_concat.2 ⟨rfl, backed⟩)
  | window kept =>
      cases recorded
      obtain ⟨earlier, rfl⟩ := backed
      have extended : kept ++ [held] <:+ earlier ++ kept ++ [held] :=
        ⟨earlier, (List.append_assoc _ _ _).symm⟩
      exact (List.drop_suffix _ _).trans extended

/-- Progress that fits leaves room to count on below a requirement that is not the largest word. -/
theorem record_isSome (bounded : tracker.required.toNat < UInt32.size - 1)
    (fits : tracker.Fits progress) (held : Bool) :
    (tracker.record held progress).isSome = true := by
  obtain ⟨mode, required, window⟩ := tracker
  cases progress with
  | window kept => rfl
  | streak count =>
      cases mode with
      | withinWindow => exact fits.elim
      | consecutive =>
          cases held with
          | false => rfl
          | true =>
              have isCapped : count.toNat ≤ required.toNat := UInt32.le_iff_toNat_le.1 fits
              have notLargest : count ≠ Word.largest := by
                rintro rfl
                rw [Word.toNat_largest] at isCapped
                exact absurd bounded (Nat.not_lt.2 isCapped)
              simp [record, Word.next?_eq_some notLargest]

/-- Progress that is enough is so by the outcomes that back it. -/
theorem isMet_of_isSatisfied (fits : tracker.Fits progress)
    (backed : progress.IsBackedBy outcomes) (isSatisfied : tracker.isSatisfied progress = true) :
    tracker.IsMet outcomes := by
  have enough : tracker.required ≤ progress.amount := of_decide_eq_true isSatisfied
  obtain ⟨mode, required, window⟩ := tracker
  cases mode with
  | consecutive =>
      cases progress with
      | streak count => exact replicate_suffix_of_le (UInt32.le_iff_toNat_le.1 enough) backed
      | window kept => exact fits.elim
  | withinWindow =>
      cases progress with
      | streak count => exact fits.elim
      | window kept =>
          have keptBound : kept.length ≤ window.toNat := fits
          have isLatest : kept <:+ outcomes.rtake window.toNat := by
            refine List.suffix_of_suffix_length_le backed (List.drop_suffix _ _) ?_
            rw [length_rtake]
            exact Nat.le_min.2 ⟨keptBound, backed.length_le⟩
          exact Nat.le_trans (Progress.le_amount_window_iff.1 enough)
            (isLatest.sublist.count_le true)

/-- A step counts a verdict that is known, and passes over one that is not. -/
theorem step_cases {verdict : Verdict}
    (stepped : tracker.step progress verdict = some (next, flag)) :
    (verdict.answer? = none ∧ next = tracker.fit progress ∧ flag = false) ∨
      ∃ held, verdict.answer? = some held ∧
        tracker.record held (tracker.fit progress) = some next ∧
        flag = tracker.isSatisfied next := by
  cases verdict with
  | unknown metric =>
      cases stepped
      exact Or.inl ⟨rfl, rfl, rfl⟩
  | holds | fails =>
      obtain ⟨reached, recorded, same⟩ := Option.bind_eq_some_iff.1 stepped
      cases same
      exact Or.inr ⟨_, rfl, recorded, rfl⟩

theorem step_isSome (bounded : tracker.required.toNat < UInt32.size - 1) (progress : Progress)
    (verdict : Verdict) : (tracker.step progress verdict).isSome = true := by
  have recorded (held : Bool) := record_isSome bounded (tracker.fit_fits progress) held
  cases verdict with
  | unknown metric => rfl
  | holds =>
      obtain ⟨next, found⟩ := Option.isSome_iff_exists.1 (recorded true)
      simp [step, found]
  | fails =>
      obtain ⟨next, found⟩ := Option.isSome_iff_exists.1 (recorded false)
      simp [step, found]

/-- A step fits the progress to its tracker, and is satisfied only by outcomes that are enough. -/
theorem step_isSound (backed : progress.IsBackedBy outcomes) {verdict : Verdict}
    (stepped : tracker.step progress verdict = some (next, flag)) :
    tracker.Fits next ∧ next.IsBackedBy (outcomes ++ verdict.answer?.toList) ∧
      (flag = true → verdict.answer?.isSome = true ∧
        tracker.IsMet (outcomes ++ verdict.answer?.toList)) := by
  have fits := tracker.fit_fits progress
  have fitted := tracker.fit_isBackedBy backed
  rcases step_cases stepped with ⟨isUnknown, rfl, rfl⟩ | ⟨held, isKnown, recorded, rfl⟩
  · rw [isUnknown, Option.toList_none, List.append_nil]
    exact ⟨fits, fitted, nofun⟩
  · rw [isKnown, Option.toList_some]
    have fits' := record_fits fits recorded
    have counted := record_isBackedBy fitted recorded
    exact ⟨fits', counted, fun isSatisfied => ⟨rfl, isMet_of_isSatisfied fits' counted isSatisfied⟩⟩

end Tracker

/-- A verdict with the tracker that is in force when it is fed. -/
structure Feeding where
  tracker : Tracker
  verdict : Verdict
  deriving Repr, DecidableEq

namespace Feeding

def step (progress : Progress) (feeding : Feeding) : Option (Progress × Bool) :=
  feeding.tracker.step progress feeding.verdict

/--
The progress after some feedings, the earliest first, from the start under a
tracker, and a flag for each of them, unless a count overflows on the way.
-/
def run? (start : Tracker) (feedings : List Feeding) : Option (Progress × List Bool) :=
  Stepwise.run? step start.initial feedings

/-- The answers of the known ones among the verdicts that are fed. -/
def answers (feedings : List Feeding) : List Bool :=
  Verdict.answers (feedings.map Feeding.verdict)

theorem answers_concat (feedings : List Feeding) (feeding : Feeding) :
    answers (feedings ++ [feeding]) = answers feedings ++ feeding.verdict.answer?.toList := by
  rw [answers, List.map_append]
  exact Verdict.answers_concat _ _

/-- The run of some feedings and one more takes a step from where the run before it ends. -/
theorem run?_concat_eq_some {start : Tracker} {past : List Feeding} {latest : Feeding}
    {progress : Progress} {flags : List Bool}
    (ran : run? start (past ++ [latest]) = some (progress, flags)) :
    ∃ before earlier flag, run? start past = some (before, earlier) ∧
      latest.step before = some (progress, flag) ∧ flags = earlier ++ [flag] := by
  rw [run?, Stepwise.run?_concat] at ran
  obtain ⟨⟨before, earlier⟩, ranBefore, stepped⟩ := Option.bind_eq_some_iff.1 ran
  obtain ⟨⟨reached, flag⟩, taken, same⟩ := Option.map_eq_some_iff.1 stepped
  cases same
  exact ⟨before, earlier, flag, ranBefore, taken, rfl⟩

theorem run?_isBackedBy {start : Tracker} {feedings : List Feeding} {progress : Progress}
    {flags : List Bool} (ran : run? start feedings = some (progress, flags)) :
    progress.IsBackedBy (answers feedings) := by
  induction feedings using List.reverseRecOn generalizing progress flags with
  | nil =>
      cases ran
      exact start.initial_isBackedBy _
  | append_singleton earlier feeding ih =>
      obtain ⟨before, _, _, ranBefore, stepped, -⟩ := run?_concat_eq_some ran
      rw [answers_concat]
      exact (Tracker.step_isSound (ih ranBefore) stepped).2.1

theorem run?_isSome {start : Tracker} {feedings : List Feeding}
    (bounded : ∀ feeding ∈ feedings, feeding.tracker.required.toNat < UInt32.size - 1) :
    (run? start feedings).isSome = true := by
  induction feedings using List.reverseRecOn with
  | nil => rfl
  | append_singleton earlier feeding ih =>
      obtain ⟨areBounded, isBounded⟩ := List.forall_mem_append.1 bounded
      obtain ⟨ran, found⟩ := Option.isSome_iff_exists.1 (ih areBounded)
      have stepped := Tracker.step_isSome (isBounded feeding List.mem_cons_self) ran.1
        feeding.verdict
      rw [run?] at found ⊢
      rw [Stepwise.run?_concat, found, Option.bind_some, Option.isSome_map]
      exact stepped

/--
However the tracker is changed between the feedings, none of them overflows as
long as every requirement is less than the largest word.  The progress after
each of them fits the tracker in force, and this one is satisfied only at a
known verdict, and only if the known ones up to there are enough for it.
-/
theorem edited_run_isSound (start : Tracker) (past : List Feeding) (latest : Feeding) :
    ((∀ feeding ∈ past ++ [latest], feeding.tracker.required.toNat < UInt32.size - 1) →
        (run? start (past ++ [latest])).isSome = true) ∧
      ∀ progress flags, run? start (past ++ [latest]) = some (progress, flags) →
        latest.tracker.Fits progress ∧
          (flags.getLast? = some true → latest.verdict.answer?.isSome = true ∧
            latest.tracker.IsMet (answers (past ++ [latest]))) := by
  refine ⟨run?_isSome, fun progress flags ran => ?_⟩
  obtain ⟨before, earlier, flag, ranBefore, stepped, rfl⟩ := run?_concat_eq_some ran
  obtain ⟨fits, -, isDue⟩ := Tracker.step_isSound (run?_isBackedBy ranBefore) stepped
  refine ⟨fits, fun isSet => ?_⟩
  rw [List.getLast?_concat] at isSet
  rw [answers_concat]
  exact isDue (Option.some.inj isSet)

def exampleStart : Tracker := ⟨.consecutive, 3, 5⟩

/-- The streak of the first verdict is lost to the window, which is extended at the end. -/
def exampleFeedings : List Feeding :=
  [⟨exampleStart, .holds⟩, ⟨⟨.withinWindow, 2, 3⟩, .holds⟩,
    ⟨⟨.withinWindow, 2, 3⟩, .unknown "roas"⟩, ⟨⟨.withinWindow, 2, 3⟩, .fails⟩]

def exampleFeeding : Feeding := ⟨⟨.withinWindow, 2, 4⟩, .holds⟩

theorem edited_run_isSound_exampleFeedings :
    ∃ progress flags,
      run? exampleStart (exampleFeedings ++ [exampleFeeding]) = some (progress, flags) ∧
        flags.getLast? = some true ∧ exampleFeeding.tracker.IsMet [true, true, false, true] := by
  obtain ⟨hasResult, isSound⟩ := edited_run_isSound exampleStart exampleFeedings exampleFeeding
  have bounded : ∀ feeding ∈ exampleFeedings ++ [exampleFeeding],
      feeding.tracker.required.toNat < UInt32.size - 1 := by decide
  obtain ⟨⟨progress, flags⟩, ran⟩ := Option.isSome_iff_exists.1 (hasResult bounded)
  have isSet : flags.getLast? = some true := by
    have same : run? exampleStart (exampleFeedings ++ [exampleFeeding]) =
        some (.window [true, false, true], [false, false, false, false, true]) := by decide
    cases same.symm.trans ran
    rfl
  exact ⟨progress, flags, ran, isSet, ((isSound progress flags ran).2 isSet).2⟩

end Feeding

end AdMonitor
