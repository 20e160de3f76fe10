import AdMonitor.Proofs.Accumulation.Windows
import AdMonitor.Proofs.Action.Posting
import AdMonitor.Visit

/-!
# Counts that fit their words

Ticks, windows, delays and counts are computed in words of a fixed width.  Here
those computations that cannot overflow are followed operation by operation,
and one whose result does not fit its word would end them without a result:
conversions of units, windows, delays and slots always have the result that
they are meant to have.  A count that is raised by one has it unless its limit
is the largest word: the streak then overflows with the first outcome that
holds after as many as are required, and the attempts of a post overflow after
as many retries as are allowed (`Settings.counts_fit`).
-/

namespace AdMonitor

/-! ## Checked operations -/

namespace Word

def fit? (bits result : Nat) : Option Nat :=
  if result < 2 ^ bits then some result else none

def add? (bits a b : Nat) : Option Nat := fit? bits (a + b)

def mul? (bits a b : Nat) : Option Nat := fit? bits (a * b)

def sub? (a b : Nat) : Option Nat :=
  if b ≤ a then some (a - b) else none

def div? (a b : Nat) : Option Nat :=
  if b = 0 then none else some (a / b)

def shiftLeft? (bits a places : Nat) : Option Nat :=
  if places < bits then some (a * 2 ^ places % 2 ^ bits) else none

/-- A result, or the largest word of so many bits if it does not fit. -/
def clip (bits result : Nat) : Nat := min result (2 ^ bits - 1)

variable {bits a b : Nat}

theorem add?_eq_some (fits : a + b < 2 ^ bits) : add? bits a b = some (a + b) := if_pos fits

theorem mul?_eq_some (fits : a * b < 2 ^ bits) : mul? bits a b = some (a * b) := if_pos fits

theorem sub?_eq_some (isLess : b ≤ a) : sub? a b = some (a - b) := if_pos isLess

theorem div?_eq_some (isPositive : 0 < b) : div? a b = some (a / b) :=
  if_neg (Nat.ne_of_gt isPositive)

end Word

/-! ## Ticks and windows -/

namespace TimeUnit

/-- Minutes as whole ticks: 64 bits wide, then clipped to 32. -/
def ticksFor? (minutes tick : Nat) : Option Nat := do
  let reached ← Word.add? 64 minutes tick
  let rounded ← Word.sub? reached 1
  let ticks ← Word.div? rounded tick
  return Word.clip 32 ticks

def toTicks? (unit : TimeUnit) (amount tickMinutes : UInt32) : Option Nat :=
  let tick := max tickMinutes.toNat 1
  match unit with
  | .evaluations => some amount.toNat
  | .hours => do
      let minutes ← Word.mul? 64 amount.toNat 60
      ticksFor? minutes tick
  | .days => do
      let hours ← Word.mul? 64 amount.toNat 24
      let minutes ← Word.mul? 64 hours 60
      ticksFor? minutes tick

theorem ticksFor?_eq_some {minutes : Nat} {tickMinutes : UInt32}
    (fits : minutes ≤ 2 ^ 32 * 1440) : ticksFor? minutes (max tickMinutes.toNat 1) =
      some (ticksFor minutes tickMinutes.toNat).toNat := by
  have bound := tickMinutes.toNat_lt
  rw [ticksFor?, Word.add?_eq_some (by omega), Option.bind_eq_bind, Option.bind_some,
    Word.sub?_eq_some (by omega), Option.bind_some, Word.div?_eq_some (by omega),
    toNat_ticksFor]
  rfl

theorem toTicks?_eq_some (unit : TimeUnit) (amount tickMinutes : UInt32) :
    unit.toTicks? amount tickMinutes = some (unit.toTicks amount tickMinutes).toNat := by
  have bound := amount.toNat_lt
  cases unit with
  | evaluations => rfl
  | hours =>
      rw [toTicks?, Word.mul?_eq_some (by omega)]
      exact ticksFor?_eq_some (by omega)
  | days =>
      rw [toTicks?, Word.mul?_eq_some (by omega), Option.bind_eq_bind, Option.bind_some,
        Word.mul?_eq_some (by omega)]
      exact ticksFor?_eq_some (by omega)

end TimeUnit

namespace AccumulationRule

variable {rule : AccumulationRule} {tickMinutes : UInt32}

def requiredTicks? (rule : AccumulationRule) (tickMinutes : UInt32) : Option Nat := do
  let ticks ← rule.unit.toTicks? rule.required tickMinutes
  return max ticks 1

def windowTicks? (rule : AccumulationRule) (tickMinutes : UInt32) : Option Nat := do
  let required ← rule.requiredTicks? tickMinutes
  match rule.window with
  | some window =>
      let ticks ← rule.unit.toTicks? window tickMinutes
      return max ticks required
  | none => return max (Word.clip 32 (required * 2) - 1) 1

theorem requiredTicks?_eq_some (rule : AccumulationRule) (tickMinutes : UInt32) :
    rule.requiredTicks? tickMinutes = some (rule.requiredTicks tickMinutes).toNat := by
  rw [requiredTicks?, TimeUnit.toTicks?_eq_some, requiredTicks, UInt32.toNat_max]
  rfl

theorem windowTicks?_eq_some (rule : AccumulationRule) (tickMinutes : UInt32) :
    rule.windowTicks? tickMinutes = some (rule.windowTicks tickMinutes).toNat := by
  rw [windowTicks?, requiredTicks?_eq_some, windowTicks, Option.bind_eq_bind, Option.bind_some]
  cases rule.window with
  | none => exact congrArg some (toNat_defaultWindow _).symm
  | some window =>
      dsimp only
      rw [TimeUnit.toTicks?_eq_some, UInt32.toNat_max]
      rfl

end AccumulationRule

/-! ## Slots and delays -/

/-- The number of the slot of a time, given in seconds since 1970. -/
def Settings.tickNumber? (settings : Settings) (seconds : Int64) : Option Nat := do
  let length ← Word.mul? 64 (max settings.tickMinutes.toNat 1) 60
  Word.div? seconds.toInt.toNat length

theorem Settings.tickNumber?_eq_some (settings : Settings) (seconds : Int64) (nanos : Nat) :
    settings.tickNumber? seconds = some (settings.slot ⟨seconds.toInt, nanos⟩).tick := by
  have bound := settings.tickMinutes.toNat_lt
  rw [tickNumber?, Word.mul?_eq_some (by omega)]
  exact Word.div?_eq_some (by omega)

namespace RetryPolicy

def delay? (policy : RetryPolicy) (retry : UInt32) (jitter : Nat) : Option Span := do
  let base := Word.clip 64 policy.base.millis
  let factor ← Word.shiftLeft? 64 1 (min (retry.toNat - 1) 16)
  let doubled := Word.clip 64 (base * factor)
  return ⟨Word.clip 64 (doubled + jitter)⟩

theorem delay?_eq_some (policy : RetryPolicy) (retry : UInt32) (jitter : Nat) :
    policy.delay? retry jitter = some (policy.delay retry jitter) := by
  have isSmall : min (retry.toNat - 1) 16 < 64 := by omega
  have fits : 2 ^ min (retry.toNat - 1) 16 < 2 ^ 64 := Nat.pow_lt_pow_right (by decide) isSmall
  rw [delay?, Word.shiftLeft?, if_pos isSmall, Nat.one_mul, Nat.mod_eq_of_lt fits]
  rfl

end RetryPolicy

/-! ## Streaks -/

namespace Tracker

variable {tracker : Tracker}

/-- Whether a streak has to be as long as the largest word. -/
def IsEndless (tracker : Tracker) : Prop :=
  tracker.mode = .consecutive ∧ tracker.required = Word.largest

instance (tracker : Tracker) : Decidable tracker.IsEndless :=
  inferInstanceAs (Decidable (_ ∧ _))

theorem record_eq_none_iff {held : Bool} {progress : Progress} :
    tracker.record held progress = none ↔ held = true ∧ progress = .streak Word.largest := by
  cases progress with
  | window outcomes => simp [record]
  | streak count => cases held <;> simp [record, Word.next?]

theorem fit_eq_largest_iff {progress : Progress} :
    tracker.fit progress = .streak Word.largest ↔
      tracker.IsEndless ∧ progress = .streak Word.largest := by
  obtain ⟨mode, required, window⟩ := tracker
  cases mode with
  | withinWindow =>
      refine iff_of_false ?_ fun isBoth => nomatch isBoth.1.1
      cases progress <;> exact nofun
  | consecutive =>
      cases progress with
      | window outcomes =>
          refine iff_of_false (fun same => ?_) fun isBoth => nomatch isBoth.2
          exact absurd (Progress.streak.inj same) (by decide)
      | streak count =>
          have bound := required.toNat_lt
          have bound' := count.toNat_lt
          simp only [fit, IsEndless, Progress.streak.injEq, true_and, ← UInt32.toNat_inj,
            UInt32.toNat_min, Word.toNat_largest, UInt32.size]
          omega

/-- A step has no result just when a streak would be longer than the largest word. -/
theorem step_eq_none_iff {progress : Progress} {verdict : Verdict} :
    tracker.step progress verdict = none ↔
      tracker.IsEndless ∧ progress = .streak Word.largest ∧ verdict = .holds := by
  rw [← and_assoc, ← fit_eq_largest_iff]
  cases verdict with
  | unknown metric => simp [step]
  | holds | fails => simp [step, Option.bind_eq_none_iff, ← Option.eq_none_iff_forall_ne_some,
      record_eq_none_iff]

/-- A streak that is as long as the largest word cannot be counted on. -/
theorem step_tally_eq_none_iff {outcomes : List Bool} {verdict : Verdict} :
    tracker.step (tracker.tally outcomes) verdict = none ↔
      tracker.IsEndless ∧ Word.largest.toNat ≤ streakLength outcomes ∧ verdict = .holds := by
  rw [step_eq_none_iff]
  refine and_congr_right fun isEndless => and_congr_left' ?_
  obtain ⟨isStreak, isLargest⟩ := isEndless
  have capped := toNat_cappedStreak tracker.required (streakLength outcomes)
  rw [isLargest] at capped
  simp only [tally, isStreak, isLargest, Progress.streak.injEq, ← UInt32.toNat_inj, capped]
  omega

theorem hasRoom_of_not_full {outcomes : List Bool}
    (notFull : ¬ (tracker.IsEndless ∧ Word.largest.toNat ≤ streakLength outcomes)) :
    tracker.HasRoom outcomes := by
  intro isStreak
  by_contra isFull
  have bound := tracker.required.toNat_lt
  rw [Word.toNat_largest] at notFull
  have isLargest : tracker.required = Word.largest := by
    rw [← UInt32.toNat_inj, Word.toNat_largest, UInt32.size] at *
    omega
  exact notFull ⟨⟨isStreak, isLargest⟩, by omega⟩

/-- Whether more outcomes hold in a row than a word can count, and it has to count as many. -/
def OverflowsOn (tracker : Tracker) (outcomes : List Bool) : Prop :=
  tracker.IsEndless ∧ List.replicate (Word.largest.toNat + 1) true <:+: outcomes

instance (tracker : Tracker) (outcomes : List Bool) : Decidable (tracker.OverflowsOn outcomes) :=
  inferInstanceAs (Decidable (_ ∧ _))

theorem overflowsOn_answers_concat {earlier : List Verdict} {verdict : Verdict} :
    tracker.OverflowsOn (Verdict.answers (earlier ++ [verdict])) ↔
      tracker.OverflowsOn (Verdict.answers earlier) ∨
        tracker.IsEndless ∧ Word.largest.toNat ≤ streakLength (Verdict.answers earlier) ∧
          verdict = .holds := by
  rw [OverflowsOn, OverflowsOn, ← and_or_left, Verdict.answers_concat]
  refine and_congr_right fun _ => ?_
  cases verdict with
  | unknown metric => simp [Verdict.answer?]
  | holds | fails =>
      rw [Verdict.answer?, Option.toList_some, List.infix_concat_iff, replicate_suffix_concat,
        ← le_streakLength_iff]
      simp [or_comm]

/--
A run has a result as long as no streak of it is longer than a word can count,
and then it is what stands for the answers.
-/
theorem run?_eq (tracker : Tracker) (verdicts : List Verdict) :
    tracker.run? verdicts = if tracker.OverflowsOn (Verdict.answers verdicts) then none
      else some (tracker.tally (Verdict.answers verdicts), tracker.marks verdicts) := by
  induction verdicts using List.reverseRecOn with
  | nil =>
      have counted : ¬ tracker.OverflowsOn (Verdict.answers []) := fun overflows =>
        absurd (List.infix_nil.1 overflows.2) (List.cons_ne_nil _ _)
      rw [if_neg counted]
      exact congrArg (fun progress => some (progress, [])) (initial_eq_tally tracker)
  | append_singleton earlier verdict ih =>
      simp only [run?_concat, ih, overflowsOn_answers_concat]
      by_cases before : tracker.OverflowsOn (Verdict.answers earlier)
      · simp [before]
      · by_cases now : tracker.IsEndless ∧
            Word.largest.toNat ≤ streakLength (Verdict.answers earlier) ∧ verdict = .holds
        · rw [if_neg before, Option.bind_some, step_tally_eq_none_iff.2 now, if_pos (Or.inr now)]
          rfl
        · have room : verdict = .holds → tracker.HasRoom (Verdict.answers earlier) := fun isHeld =>
            hasRoom_of_not_full fun isFull => now ⟨isFull.1, isFull.2, isHeld⟩
          rw [if_neg before, Option.bind_some, step_tally room, if_neg (not_or.2 ⟨before, now⟩),
            Option.map_some, marks_concat, Verdict.answers_concat]

/-- A streak that is long enough stays so, unless it has to be as long as the largest word. -/
theorem step_holds_of_le {count : UInt32} (isStreak : tracker.mode = .consecutive)
    (isEnough : tracker.required ≤ count) (notLargest : tracker.required ≠ Word.largest) :
    tracker.step (.streak count) .holds = some (.streak tracker.required, true) := by
  obtain ⟨mode, required, window⟩ := tracker
  obtain rfl : mode = .consecutive := isStreak
  have isEnough' : required.toNat ≤ count.toNat := UInt32.le_iff_toNat_le.1 isEnough
  have bound := required.toNat_lt
  have small : required.toNat ≠ UInt32.size - 1 := fun same =>
    notLargest (UInt32.toNat_inj.1 (same.trans Word.toNat_largest.symm))
  have capped : min count required = required := by
    rw [← UInt32.toNat_inj, UInt32.toNat_min]
    omega
  have raised : min (required + 1) required = required := by
    rw [← UInt32.toNat_inj, UInt32.toNat_min, UInt32.toNat_add, UInt32.toNat_one]
    rw [UInt32.size] at small
    omega
  simp [step, fit, record, capped, Word.next?_eq_some notLargest, raised, isSatisfied,
    Progress.amount]

/-- However many outcomes hold after that, each of them sets its flag. -/
theorem run?_holds_of_le {count : UInt32} (isStreak : tracker.mode = .consecutive)
    (isEnough : tracker.required ≤ count) (notLargest : tracker.required ≠ Word.largest)
    (n : Nat) : ∃ more, tracker.required ≤ more ∧
      Stepwise.run? tracker.step (.streak count) (List.replicate n .holds) =
        some (.streak more, List.replicate n true) := by
  induction n generalizing count with
  | zero => exact ⟨count, isEnough, rfl⟩
  | succ n ih =>
      obtain ⟨more, isEnough', ran⟩ := ih (UInt32.le_refl tracker.required)
      refine ⟨more, isEnough', ?_⟩
      simp [List.replicate_succ, Stepwise.run?, step_holds_of_le isStreak isEnough notLargest, ran]

/-- After as many outcomes that hold as the largest word, an endless streak is as long as that. -/
theorem IsEndless.run?_holds (isEndless : tracker.IsEndless) {n : Nat}
    (isMany : n = Word.largest.toNat) : ∃ flags,
      tracker.run? (List.replicate n .holds) = some (.streak Word.largest, flags) := by
  have counted : ¬ tracker.OverflowsOn (Verdict.answers (List.replicate n .holds)) := by
    rw [Verdict.answers_replicate_holds, isMany]
    intro overflows
    have isLess := overflows.2.length_le
    rw [List.length_replicate, List.length_replicate] at isLess
    exact absurd isLess (Nat.not_succ_le_self _)
  have streak : streakLength (List.replicate n true) = n := by
    have allHold : ∀ held ∈ List.replicate n true, id held = true := fun _ isOne =>
      List.eq_of_mem_replicate isOne
    rw [streakLength, List.rtakeWhile_eq_self_iff.2 allHold, List.length_replicate]
  have reached : tracker.tally (Verdict.answers (List.replicate n .holds)) =
      .streak Word.largest := by
    rw [Verdict.answers_replicate_holds, tally, isEndless.1, isEndless.2, streak, isMany,
      Nat.min_self, UInt32.ofNat_toNat]
  exact ⟨_, by rw [run?_eq, if_neg counted, reached]⟩

/-- One more outcome that holds makes it overflow. -/
theorem IsEndless.run?_more (isEndless : tracker.IsEndless) {n : Nat}
    (isMany : n = Word.largest.toNat) :
    tracker.run? (List.replicate n .holds ++ [.holds]) = none := by
  have overflows : tracker.OverflowsOn
      (Verdict.answers (List.replicate n .holds ++ [.holds])) := by
    refine ⟨isEndless, ?_⟩
    rw [Verdict.answers_concat, Verdict.answers_replicate_holds, ← isMany, List.replicate_succ']
    exact List.infix_rfl
  rw [run?_eq, if_pos overflows]

end Tracker

/-! ## Attempts -/

namespace Posted

/-- Attempt a post until an answer ends it, no retry is left or the attempts cannot be counted. -/
def run? (rule : ExecutionRule) (url : String) (payload : Json) (retries : Nat)
    (attempts : UInt32) (status : Option UInt16) : Program (Option Posted) :=
  match Word.next? attempts with
  | none => return none
  | some attempts => do
      let answer ← Program.ask (.post rule.webhookLimit url payload)
      let status := (answer.toOption).or status
      match judge answer with
      | .inl result => return some ⟨result, status, attempts⟩
      | .inr reason =>
          match retries with
          | 0 =>
              return some ⟨.failed (reason ++ " after " ++ toString attempts ++ " attempts"),
                status, attempts⟩
          | retries + 1 => do
              let jitter ← Program.ask (.jitter rule.retry.jitterLimit)
              Program.ask (.sleep (rule.retry.delay attempts jitter))
              run? rule url payload retries attempts status

/--
Whether attempts after some earlier ones go on until they cannot be counted:
there are enough retries, and no outcome before that ends them.
-/
def OverflowsOn (retries : Nat) (attempts : UInt32) (outcomes : Nat → Webhook.Outcome) : Prop :=
  Word.largest.toNat ≤ attempts.toNat + retries ∧
    ∀ i, attempts.toNat + i < Word.largest.toNat → (outcomes i).isPassing = true

variable {rule : ExecutionRule} {url : String} {payload : Json} {status : Option UInt16}
  {others : Respondents} {attempts : UInt32} {retries : Nat} {outcomes : Nat → Webhook.Outcome}

theorem overflowsOn_largest (retries : Nat) (outcomes : Nat → Webhook.Outcome) :
    OverflowsOn retries Word.largest outcomes :=
  ⟨Nat.le_add_right _ _, fun _ isEarly => absurd isEarly (Nat.not_lt.2 (Nat.le_add_right _ _))⟩

theorem lt_largest (notLargest : attempts ≠ Word.largest) :
    attempts.toNat < Word.largest.toNat := by
  have bound := attempts.toNat_lt
  rw [Ne, ← UInt32.toNat_inj] at notLargest
  rw [Word.toNat_largest, UInt32.size] at *
  omega

theorem toNat_next (notLargest : attempts ≠ Word.largest) :
    (attempts + 1).toNat = attempts.toNat + 1 := by
  have isLess := lt_largest notLargest
  rw [Word.toNat_largest] at isLess
  exact @toNat_succ 0 attempts (by omega)

/-- The attempts that overflow go on after the first one. -/
theorem OverflowsOn.goesOn (overflows : OverflowsOn retries attempts outcomes)
    (notLargest : attempts ≠ Word.largest) :
    retries ≠ 0 ∧ (outcomes 0).isPassing = true := by
  have isLess := lt_largest notLargest
  refine ⟨?_, overflows.2 0 isLess⟩
  rintro rfl
  exact absurd overflows.1 (Nat.not_le.2 isLess)

theorem overflowsOn_succ (notLargest : attempts ≠ Word.largest)
    (isPassing : (outcomes 0).isPassing = true) :
    OverflowsOn (retries + 1) attempts outcomes ↔
      OverflowsOn retries (attempts + 1) fun i => outcomes (i + 1) := by
  unfold OverflowsOn
  rw [toNat_next notLargest]
  refine and_congr (by omega) ⟨fun passing i isEarly => passing (i + 1) (by omega), ?_⟩
  intro passing i isEarly
  cases i with
  | zero => exact isPassing
  | succ i => exact passing i (by omega)

section Play

variable (rule url payload status) (state : others.State)

theorem play_run?_largest :
    (Program.play others.posting (outcomes, state)
      (run? rule url payload retries Word.largest status)).value = none := by
  rw [run?.eq_def, Word.next?, if_pos rfl]
  rfl

theorem play_run?_last (notLargest : attempts ≠ Word.largest)
    (isLast : 0 = retries ∨ (outcomes 0).isPassing = false) :
    (Program.play others.posting (outcomes, state)
      (run? rule url payload retries attempts status)).value =
    some (Program.play others.posting (outcomes, state)
      (run rule url payload retries attempts status)).value := by
  rw [run?.eq_def, run.eq_def, Word.next?_eq_some notLargest]
  cases passes : (outcomes 0).isPassing with
  | false =>
      obtain ⟨result, judged, -, -⟩ := judge_of_not_isPassing passes
      rw [Program.play_ask, Program.play_ask, answer_post]
      simp only [judged]
      rfl
  | true =>
      obtain rfl : 0 = retries := isLast.resolve_right (by simp [passes])
      obtain ⟨reason, judged⟩ := judge_of_isPassing passes
      rw [Program.play_ask, Program.play_ask, answer_post]
      simp only [judged]
      rfl

theorem play_run?_again (notLargest : attempts ≠ Word.largest)
    (isPassing : (outcomes 0).isPassing = true) :
    ∃ later : others.State,
      (Program.play others.posting (outcomes, state)
          (run? rule url payload (retries + 1) attempts status)).value =
        (Program.play others.posting (fun i => outcomes (i + 1), later)
          (run? rule url payload retries (attempts + 1)
            ((outcomes 0).toOption.or status))).value ∧
      (Program.play others.posting (outcomes, state)
          (run rule url payload (retries + 1) attempts status)).value =
        (Program.play others.posting (fun i => outcomes (i + 1), later)
          (run rule url payload retries (attempts + 1)
            ((outcomes 0).toOption.or status))).value := by
  obtain ⟨reason, judged⟩ := judge_of_isPassing isPassing
  let jittered := others.answer state (.jitter rule.retry.jitterLimit)
  let slept := others.answer jittered.2 (.sleep (rule.retry.delay (attempts + 1) jittered.1))
  refine ⟨slept.2, ?_, ?_⟩
  · rw [run?.eq_def, Word.next?_eq_some notLargest]
    dsimp only
    rw [Program.play_ask, answer_post]
    simp only [judged]
    rfl
  · rw [run.eq_def, Program.play_ask, answer_post]
    simp only [judged]
    rfl

/--
The attempts of a post have the result that they have unchecked, unless they
go on until they cannot be counted.
-/
theorem play_run? :
    (OverflowsOn retries attempts outcomes →
      (Program.play others.posting (outcomes, state)
        (run? rule url payload retries attempts status)).value = none) ∧
    (¬ OverflowsOn retries attempts outcomes →
      (Program.play others.posting (outcomes, state)
        (run? rule url payload retries attempts status)).value =
      some (Program.play others.posting (outcomes, state)
        (run rule url payload retries attempts status)).value) := by
  -- On the retries that are left: each of them leaves the outcomes after the first one.
  induction retries generalizing attempts status outcomes state with
  | zero =>
      refine ⟨fun overflows => ?_, fun counted => ?_⟩
      · obtain rfl : attempts = Word.largest :=
          by_contra fun notLargest => (overflows.goesOn notLargest).1 rfl
        exact play_run?_largest ..
      · have notLargest : attempts ≠ Word.largest := by
          rintro rfl
          exact counted (overflowsOn_largest _ _)
        exact play_run?_last rule url payload status state notLargest (Or.inl rfl)
  | succ retries ih =>
      by_cases isLargest : attempts = Word.largest
      · obtain rfl := isLargest
        exact ⟨fun _ => play_run?_largest .., absurd (overflowsOn_largest _ _)⟩
      · cases passes : (outcomes 0).isPassing with
        | false =>
            refine ⟨fun overflows => ?_, fun _ => ?_⟩
            · cases passes.symm.trans (overflows.goesOn isLargest).2
            · exact play_run?_last rule url payload status state isLargest (Or.inr passes)
        | true =>
            obtain ⟨later, same, same'⟩ :=
              @play_run?_again rule url payload status others attempts retries outcomes state
                isLargest passes
            rw [same, same', overflowsOn_succ isLargest passes]
            exact ih _ later

end Play

end Posted

/-! ## All counts -/

/--
What the words of a monitor come to.  Conversions of units, windows, slots and
delays fit their words.  A step of a tracker and a run of them have a result
unless they have to count on from the largest word, and so have the attempts of
a post; a streak that is long enough stays so where it need not be as long as
that.
-/
structure Settings.CountsFit (settings : Settings) (rule : AccumulationRule) : Prop where
  ticks : ∀ amount, rule.unit.toTicks? amount settings.tickMinutes =
    some (rule.unit.toTicks amount settings.tickMinutes).toNat
  window : rule.windowTicks? settings.tickMinutes =
    some (rule.windowTicks settings.tickMinutes).toNat
  slots : ∀ seconds nanos, settings.tickNumber? seconds =
    some (settings.slot ⟨seconds.toInt, nanos⟩).tick
  delays : ∀ retry jitter, settings.retry.delay? retry jitter =
    some (settings.retry.delay retry jitter)
  steps : let tracker := Tracker.ofRule rule settings.tickMinutes
    ∀ progress verdict, tracker.step progress verdict = none ↔
      tracker.IsEndless ∧ progress = .streak Word.largest ∧ verdict = .holds
  streaks : let tracker := Tracker.ofRule rule settings.tickMinutes
    ∀ verdicts, tracker.run? verdicts =
      if tracker.OverflowsOn (Verdict.answers verdicts) then none
      else some (tracker.tally (Verdict.answers verdicts), tracker.marks verdicts)
  lasting : let tracker := Tracker.ofRule rule settings.tickMinutes
    tracker.mode = .consecutive → tracker.required ≠ Word.largest →
      ∀ count, tracker.required ≤ count → ∀ n, ∃ more, tracker.required ≤ more ∧
        Stepwise.run? tracker.step (.streak count) (List.replicate n .holds) =
          some (.streak more, List.replicate n true)
  attempts : ∀ url payload outcomes (others : Respondents) state,
    let retries := settings.retry.maxRetries.toNat
    let checked := Program.play others.posting (outcomes, state)
      (Posted.run? settings.execution url payload retries 0 none)
    let unchecked := Program.play others.posting (outcomes, state)
      (Posted.run settings.execution url payload retries 0 none)
    (Posted.OverflowsOn retries 0 outcomes → checked.value = none) ∧
      (¬ Posted.OverflowsOn retries 0 outcomes → checked.value = some unchecked.value)

/-- Only a streak and the attempts of a post can overflow, and only at the largest word. -/
theorem Settings.counts_fit (settings : Settings) (rule : AccumulationRule) :
    settings.CountsFit rule where
  ticks amount := rule.unit.toTicks?_eq_some amount settings.tickMinutes
  window := rule.windowTicks?_eq_some settings.tickMinutes
  slots := settings.tickNumber?_eq_some
  delays := settings.retry.delay?_eq_some
  steps _ _ := Tracker.step_eq_none_iff
  streaks := Tracker.run?_eq _
  lasting isStreak notLargest _ isEnough n :=
    Tracker.run?_holds_of_le isStreak isEnough notLargest n
  attempts _ _ _ _ state := Posted.play_run? _ _ _ _ state

/-- As many evaluations in a row are required as the largest word says. -/
def AccumulationRule.exampleEndless : AccumulationRule :=
  ⟨4294967295, .evaluations, .consecutive, none⟩

/-- A streak is long enough, and overflows when one more outcome holds. -/
theorem Settings.counts_overflow_exampleEndless :
    let tracker := Tracker.ofRule .exampleEndless Settings.standard.tickMinutes
    Settings.standard.validate = .ok () ∧
      ∃ verdicts : List Verdict, (∀ verdict ∈ verdicts, verdict = .holds) ∧
        (∃ progress flags, tracker.run? verdicts = some (progress, flags) ∧
          tracker.isSatisfied progress = true) ∧
        tracker.run? (verdicts ++ [.holds]) = none := by
  intro tracker
  have isEndless : tracker.IsEndless := ⟨rfl, by decide⟩
  obtain ⟨n, isMany⟩ : ∃ n, n = Word.largest.toNat := ⟨_, rfl⟩
  obtain ⟨flags, ran⟩ := isEndless.run?_holds isMany
  have isSatisfied : tracker.isSatisfied (.streak Word.largest) = true :=
    decide_eq_true (isEndless.2 ▸ UInt32.le_refl _)
  exact ⟨rfl, List.replicate n .holds, fun _ isOne => List.eq_of_mem_replicate isOne,
    ⟨_, flags, ran, isSatisfied⟩, isEndless.run?_more isMany⟩

end AdMonitor
