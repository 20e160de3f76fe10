import AdMonitor.Proofs.Action.Sequence
import AdMonitor.Proofs.Budget.Compounding
import Mathlib.Data.ENat.Lattice

/-!
# Posts and their retries

A post is attempted again as long as its outcomes are worth it and retries are
left.  For every sequence of outcomes that the attempts may have, the record of
a post says what the first outcome was that ended them (`Firing.record_retries`).
-/

namespace AdMonitor

namespace Webhook

abbrev Outcome := Except Fault UInt16

namespace Outcome

/-- Whether another attempt is worth it: the server failed, or the fault may pass. -/
def isPassing : Outcome → Bool
  | .ok status => 500 ≤ status && status ≤ 599
  | .error fault => fault.isTransient

def isSuccess : Outcome → Bool
  | .ok status => 200 ≤ status && status ≤ 299
  | .error _ => false

theorem isSuccess_of_isPassing {outcome : Outcome} (isPassing : outcome.isPassing = true) :
    outcome.isSuccess = false := by
  cases outcome with
  | error fault => rfl
  | ok status =>
      simp only [Outcome.isPassing, Outcome.isSuccess, Bool.and_eq_true, decide_eq_true_eq,
        Bool.and_eq_false_iff, decide_eq_false_iff_not, UInt16.le_iff_toNat_le] at isPassing ⊢
      exact Or.inr fun isBelow =>
        absurd (isPassing.1.trans isBelow) (by decide)

/-- The position of the first of some outcomes that ends the attempts, if there is one. -/
noncomputable def firstFinal (outcomes : Nat → Outcome) : ℕ∞ :=
  ⨅ (i : Nat) (_ : (outcomes i).isPassing = false), (i : ℕ∞)

variable {outcomes : Nat → Outcome} {count retries : Nat}

theorem le_firstFinal (passing : ∀ i < count, (outcomes i).isPassing = true) :
    (count : ℕ∞) ≤ firstFinal outcomes := by
  refine le_iInf₂ fun i isFinal => Nat.cast_le.2 (Nat.le_of_not_lt fun isEarly => ?_)
  cases (passing i isEarly).symm.trans isFinal

theorem firstFinal_le (isFinal : (outcomes count).isPassing = false) :
    firstFinal outcomes ≤ count :=
  iInf₂_le count isFinal

theorem min_firstFinal (passing : ∀ i < count, (outcomes i).isPassing = true)
    (isAdmitted : count ≤ retries)
    (ended : count = retries ∨ (outcomes count).isPassing = false) :
    min (firstFinal outcomes) retries = count := by
  have early := le_firstFinal passing
  rcases ended with rfl | isFinal
  · exact min_eq_right early
  · rw [le_antisymm (firstFinal_le isFinal) early]
    exact min_eq_left (Nat.cast_le.2 isAdmitted)

end Outcome

end Webhook

open Webhook

/-! ## Delays -/

namespace RetryPolicy

/--
Whether a span is as long as the delay before a retry may be: the base, doubled
for every earlier retry up to sixteen times, and at most half of the base more.
-/
def Admits (policy : RetryPolicy) (retry : Nat) (delay : Span) : Prop :=
  let doubled := policy.base.millis * 2 ^ min (retry - 1) 16
  min doubled longest ≤ delay.millis ∧
    delay.millis ≤ min (doubled + policy.base.millis / 2) longest

theorem delay_admits (policy : RetryPolicy) (retry : UInt32)
    (jitter : Fin (policy.jitterLimit + 1)) :
    policy.Admits retry.toNat (policy.delay retry jitter) := by
  obtain ⟨jitter, inside⟩ := jitter
  have positive : 1 ≤ 2 ^ min (retry.toNat - 1) 16 := Nat.one_le_two_pow
  have isHalf : jitter ≤ min policy.base.millis longest / 2 := Nat.le_of_lt_succ inside
  unfold Admits delay
  dsimp only
  rw [Nat.pow_eq]
  generalize 2 ^ min (retry.toNat - 1) 16 = factor at *
  -- A base that is too long is cut before it is doubled, and its product is cut again.
  rcases Nat.le_total policy.base.millis longest with isShort | isLong
  · rw [Nat.min_eq_left isShort] at *
    omega
  · have atBase : longest ≤ longest * factor := Nat.le_mul_of_pos_right _ positive
    have above : policy.base.millis ≤ policy.base.millis * factor :=
      Nat.le_mul_of_pos_right _ positive
    rw [Nat.min_eq_right isLong] at *
    omega

end RetryPolicy

/-! ## Attempts -/

namespace Exchange

abbrev post (limit : Span) (url : String) (payload : Json) (outcome : Outcome) : Exchange :=
  ⟨.post limit url payload, outcome⟩

def isPost : Exchange → Bool
  | ⟨.post .., _⟩ => true
  | _ => false

def isAttempt : Exchange → Bool
  | ⟨.post .., _⟩ | ⟨.sleep _, _⟩ => true
  | _ => false

def status? : Exchange → Option UInt16
  | ⟨.post .., .ok status⟩ => some status
  | _ => none

def lastStatus (exchanges : List Exchange) : Option UInt16 :=
  (exchanges.filterMap status?).getLast?

theorem lastStatus_cons (exchange : Exchange) (later : List Exchange) :
    lastStatus (exchange :: later) = (lastStatus later).or exchange.status? := by
  unfold lastStatus
  rw [List.filterMap_cons]
  cases exchange.status? with
  | none => exact Option.or_none.symm
  | some status => rw [List.getLast?_cons, ← Option.or_some]

theorem status?_post (limit : Span) (url : String) (payload : Json) (outcome : Outcome) :
    status? (.post limit url payload outcome) = outcome.toOption := by
  cases outcome with
  | error fault => rfl
  | ok status => rfl

end Exchange

/-- Respondents to whom posts come out as a sequence says; all else is as with some others. -/
abbrev Respondents.posting (others : Respondents) : Respondents where
  State := (Nat → Outcome) × others.State
  answer
    | (outcomes, state), .post .. => (outcomes 0, (fun i => outcomes (i + 1)), state)
    | (outcomes, state), call =>
        ((others.answer state call).1, outcomes, (others.answer state call).2)

namespace Posted

theorem judge_of_isPassing {outcome : Outcome} (isPassing : outcome.isPassing = true) :
    ∃ reason, judge outcome = .inr reason := by
  cases outcome with
  | error fault => exact ⟨_, if_pos isPassing⟩
  | ok status =>
      have fails := Bool.eq_false_iff.1 (Outcome.isSuccess_of_isPassing isPassing)
      exact ⟨_, (if_neg fails).trans (if_pos isPassing)⟩

theorem judge_of_not_isPassing {outcome : Outcome} (isFinal : outcome.isPassing = false) :
    ∃ result, judge outcome = .inl result ∧ (result = .success ↔ outcome.isSuccess = true) ∧
      (result.isFailed = true ↔ result ≠ .success) := by
  have lasts := Bool.eq_false_iff.1 isFinal
  cases outcome with
  | error fault =>
      exact ⟨.failed fault.message, if_neg lasts, by simp [Outcome.isSuccess],
        by simp [ActionResult.isFailed]⟩
  | ok status =>
      cases succeeds : Outcome.isSuccess (.ok status) with
      | true => exact ⟨.success, if_pos succeeds, by simp, by simp [ActionResult.isFailed]⟩
      | false =>
          exact ⟨.failed _, (if_neg (Bool.eq_false_iff.1 succeeds)).trans (if_neg lasts), by simp,
            by simp [ActionResult.isFailed]⟩

/-- Posts that come out as a sequence says, with delays between one and the next. -/
def timeline (post : Outcome → Exchange) (outcomes : Nat → Outcome) : List Span → List Exchange
  | [] => [post (outcomes 0)]
  | delay :: later =>
      post (outcomes 0) :: ⟨.sleep delay, ()⟩ :: timeline post (fun i => outcomes (i + 1)) later

/--
Whether attempts that come out as a sequence says go on with some delays, after
some earlier attempts, and end before more than the given number of retries.
-/
structure Course (rule : ExecutionRule) (post : Outcome → Exchange) (retries : Nat)
    (earlier : UInt32) (status : Option UInt16) (outcomes : Nat → Outcome)
    (delays : List Span) (exchanges : List Exchange) (posted : Posted) : Prop where
  passing : ∀ i < delays.length, (outcomes i).isPassing = true
  isAdmitted : delays.length ≤ retries
  ended : delays.length = retries ∨ (outcomes delays.length).isPassing = false
  posts : exchanges.countP Exchange.isPost = delays.length + 1
  timeline : exchanges.filter Exchange.isAttempt = timeline post outcomes delays
  spaced : ∀ i delay, delays[i]? = some delay → rule.retry.Admits (earlier.toNat + i + 1) delay
  attempts : posted.attempts.toNat = earlier.toNat + delays.length + 1
  status : posted.status = (Exchange.lastStatus exchanges).or status
  success : posted.result = .success ↔ (outcomes delays.length).isSuccess = true
  failed : posted.result.isFailed = true ↔ posted.result ≠ .success

section Course

variable {rule : ExecutionRule} {url : String} {payload : Json} {retries : Nat}
  {earlier : UInt32} {status : Option UInt16} {outcomes : Nat → Outcome}

theorem toNat_succ (inside : earlier.toNat + retries + 1 < UInt32.size) :
    (earlier + 1).toNat = earlier.toNat + 1 := by
  have small : earlier.toNat + 1 < 2 ^ 32 := by
    rw [UInt32.size] at inside
    omega
  rw [UInt32.toNat_add]
  exact Nat.mod_eq_of_lt small

/-- The attempts end with the first one. -/
theorem Course.last {result : ActionResult} (inside : earlier.toNat + retries + 1 < UInt32.size)
    (ended : 0 = retries ∨ (outcomes 0).isPassing = false)
    (success : result = .success ↔ (outcomes 0).isSuccess = true)
    (failed : result.isFailed = true ↔ result ≠ .success) :
    Course rule (.post rule.webhookLimit url payload) retries earlier status outcomes []
      [.post rule.webhookLimit url payload (outcomes 0)]
      ⟨result, (outcomes 0).toOption.or status, earlier + 1⟩ where
  passing := by simp
  isAdmitted := Nat.zero_le _
  ended := ended
  posts := rfl
  timeline := rfl
  spaced := by simp
  attempts := toNat_succ inside
  status := by rw [Exchange.lastStatus_cons, Exchange.status?_post]; rfl
  success := success
  failed := failed

/-- The first attempt is worth another one, and the others take their course after a delay. -/
theorem Course.again {delay : Span} {delays : List Span} {exchanges : List Exchange}
    {posted : Posted} {limit : Nat} {jitter : Fin (limit + 1)}
    (inside : earlier.toNat + (retries + 1) + 1 < UInt32.size)
    (isPassing : (outcomes 0).isPassing = true)
    (isDelay : rule.retry.Admits (earlier.toNat + 1) delay)
    (others : Course rule (.post rule.webhookLimit url payload) retries (earlier + 1)
      ((outcomes 0).toOption.or status) (fun i => outcomes (i + 1)) delays exchanges posted) :
    Course rule (.post rule.webhookLimit url payload) (retries + 1) earlier status outcomes
      (delay :: delays)
      (.post rule.webhookLimit url payload (outcomes 0) :: ⟨.jitter limit, jitter⟩ ::
        ⟨.sleep delay, ()⟩ :: exchanges) posted where
  passing := by
    intro i isEarly
    cases i with
    | zero => exact isPassing
    | succ i => exact others.passing i (Nat.lt_of_succ_lt_succ isEarly)
  isAdmitted := Nat.succ_le_succ others.isAdmitted
  ended := others.ended.imp_left (congrArg Nat.succ)
  posts := (List.countP_cons_of_pos rfl).trans (congrArg Nat.succ others.posts)
  timeline := congrArg (fun later => _ :: _ :: later) others.timeline
  spaced := by
    intro i own isOwn
    cases i with
    | zero =>
        cases isOwn
        exact isDelay
    | succ i =>
        have spaced := others.spaced i own isOwn
        rwa [toNat_succ (by omega), Nat.add_assoc _ 1 i, Nat.add_comm 1 i] at spaced
  attempts := by
    rw [others.attempts, toNat_succ (by omega), List.length_cons]
    omega
  status := by
    have waited : Exchange.lastStatus (⟨.jitter limit, jitter⟩ :: ⟨.sleep delay, ()⟩ :: exchanges) =
        Exchange.lastStatus exchanges := rfl
    rw [Exchange.lastStatus_cons, waited, Exchange.status?_post, Option.or_assoc, others.status]
  success := others.success
  failed := others.failed

section Play

variable {others : Respondents} {state : others.State}

theorem answer_post (limit : Span) :
    others.posting.answer (outcomes, state) (.post limit url payload) =
      (outcomes 0, (fun i => outcomes (i + 1)), state) := rfl

/-- The first attempt ends a run if its outcome does or no retry is left. -/
theorem play_last (isLast : 0 = retries ∨ (outcomes 0).isPassing = false) :
    ∃ result : ActionResult, (result = .success ↔ (outcomes 0).isSuccess = true) ∧
      (result.isFailed = true ↔ result ≠ .success) ∧
      Program.play others.posting (outcomes, state) (run rule url payload retries earlier status) =
        ⟨[.post rule.webhookLimit url payload (outcomes 0)],
          ⟨result, (outcomes 0).toOption.or status, earlier + 1⟩,
          (fun i => outcomes (i + 1), state)⟩ := by
  cases passes : (outcomes 0).isPassing with
  | false =>
      obtain ⟨result, judged, success, failed⟩ := judge_of_not_isPassing passes
      refine ⟨result, success, failed, ?_⟩
      unfold run
      rw [Program.play_ask, answer_post]
      simp only [judged]
      rfl
  | true =>
      obtain rfl : 0 = retries := isLast.resolve_right (by simp [passes])
      obtain ⟨reason, judged⟩ := judge_of_isPassing passes
      refine ⟨.failed (reason ++ " after " ++ toString (earlier + 1) ++ " attempts"), ?_, ?_, ?_⟩
      · simp [Outcome.isSuccess_of_isPassing passes]
      · simp [ActionResult.isFailed]
      · unfold run
        rw [Program.play_ask, answer_post]
        simp only [judged]
        rfl

theorem play_again (isPassing : (outcomes 0).isPassing = true) :
    ∃ (jitter : Fin (rule.retry.jitterLimit + 1)) (later : others.State),
      Program.play others.posting (outcomes, state)
          (run rule url payload (retries + 1) earlier status) =
        (Program.play others.posting (fun i => outcomes (i + 1), later)
          (run rule url payload retries (earlier + 1) ((outcomes 0).toOption.or status))).after
            [.post rule.webhookLimit url payload (outcomes 0),
              ⟨.jitter rule.retry.jitterLimit, jitter⟩,
              ⟨.sleep (rule.retry.delay (earlier + 1) jitter), ()⟩] := by
  obtain ⟨reason, judged⟩ := judge_of_isPassing isPassing
  let jittered := others.answer state (.jitter rule.retry.jitterLimit)
  let slept := others.answer jittered.2 (.sleep (rule.retry.delay (earlier + 1) jittered.1))
  refine ⟨jittered.1, slept.2, ?_⟩
  rw [run.eq_def, Program.play_ask, answer_post]
  simp only [judged]
  rfl

end Play

/-- Every run of attempts takes its course. -/
theorem run_course (rule : ExecutionRule) (url : String) (payload : Json) (status : Option UInt16)
    (outcomes : Nat → Outcome) (others : Respondents) (state : others.State)
    (inside : earlier.toNat + retries + 1 < UInt32.size) :
    let played := Program.play others.posting (outcomes, state)
      (run rule url payload retries earlier status)
    ∃ delays, Course rule (.post rule.webhookLimit url payload) retries earlier status outcomes
      delays played.exchanges played.value := by
  -- On the retries that are left: each of them leaves the outcomes after the first one.
  induction retries generalizing earlier status outcomes state with
  | zero =>
      obtain ⟨result, success, failed, ends⟩ := play_last (Or.inl rfl)
      rw [ends]
      exact ⟨[], .last inside (Or.inl rfl) success failed⟩
  | succ retries ih =>
      cases passes : (outcomes 0).isPassing with
      | false =>
          obtain ⟨result, success, failed, ends⟩ := play_last (Or.inr passes)
          rw [ends]
          exact ⟨[], .last inside (Or.inr passes) success failed⟩
      | true =>
          obtain ⟨jitter, later, goesOn⟩ := play_again passes
          have counted : (earlier + 1).toNat = earlier.toNat + 1 := toNat_succ (by omega)
          have small : (earlier + 1).toNat + retries + 1 < UInt32.size := by
            rw [counted]
            omega
          obtain ⟨delays, course⟩ := ih _ _ later small
          have isDelay := rule.retry.delay_admits (earlier + 1) jitter
          rw [goesOn]
          exact ⟨_ :: delays, course.again inside passes (counted ▸ isDelay)⟩

end Course

/--
What a post leaves when its attempts come out as a sequence says: the first
outcome that is not worth another attempt ends them, unless the retries do.
-/
structure Reported (rule : ExecutionRule) (url : String) (payload : Json)
    (outcomes : Nat → Outcome) (exchanges : List Exchange) (record : ActionRecord) : Prop where
  posts : (exchanges.countP Exchange.isPost : ℕ∞) =
    min (Outcome.firstFinal outcomes) rule.retry.maxRetries.toNat + 1
  timeline : ∃ delays,
    exchanges.filter Exchange.isAttempt =
      timeline (.post rule.webhookLimit url payload) outcomes delays ∧
    ∀ i delay, delays[i]? = some delay → rule.retry.Admits (i + 1) delay
  success : record.result = .success ↔
    ∃ last : Nat, Outcome.firstFinal outcomes = last ∧
      last ≤ rule.retry.maxRetries.toNat ∧ (outcomes last).isSuccess = true
  failed : record.result.isFailed = true ↔ record.result ≠ .success
  detail : ∃ attempts : UInt32,
    record.detail = some (.webhook (Exchange.lastStatus exchanges) attempts) ∧
      attempts.toNat = exchanges.countP Exchange.isPost

section Reported

variable {rule : ExecutionRule} {url : String} {payload : Json} {outcomes : Nat → Outcome}
  {delays : List Span} {exchanges : List Exchange} {posted : Posted}

/-- The course of all attempts tells the one that ended them. -/
theorem Course.success_iff {post : Outcome → Exchange} {retries : Nat} {earlier : UInt32}
    {status : Option UInt16}
    (course : Course rule post retries earlier status outcomes delays exchanges posted) :
    posted.result = .success ↔
      ∃ last : Nat, Outcome.firstFinal outcomes = last ∧ last ≤ retries ∧
        (outcomes last).isSuccess = true := by
  rw [course.success]
  have early := Outcome.le_firstFinal course.passing
  constructor
  · intro succeeds
    have isFinal : (outcomes delays.length).isPassing = false := by
      by_contra goesOn
      have passes := Bool.eq_true_of_not_eq_false goesOn
      exact absurd succeeds (Bool.eq_false_iff.1 (Outcome.isSuccess_of_isPassing passes))
    exact ⟨_, le_antisymm (Outcome.firstFinal_le isFinal) early, course.isAdmitted, succeeds⟩
  · rintro ⟨last, isFirst, isAdmitted, succeeds⟩
    have cutoff := Outcome.min_firstFinal course.passing course.isAdmitted course.ended
    rw [isFirst, min_eq_left (Nat.cast_le.2 isAdmitted)] at cutoff
    rwa [← Nat.cast_inj.1 cutoff]

theorem Course.reported {record : ActionRecord} {executedAt : Instant}
    (course : Course rule (.post rule.webhookLimit url payload)
      rule.retry.maxRetries.toNat 0 none outcomes delays exchanges posted)
    (result : record.result = posted.result)
    (detail : record.detail = some (.webhook posted.status posted.attempts)) :
    Reported rule url payload outcomes (exchanges ++ [⟨.clock, executedAt⟩]) record := by
  have posts : List.countP Exchange.isPost (exchanges ++ [⟨.clock, executedAt⟩]) =
      delays.length + 1 := List.countP_append.trans course.posts
  have lastStatus : Exchange.lastStatus (exchanges ++ [⟨.clock, executedAt⟩]) = posted.status := by
    rw [course.status, Option.or_none, Exchange.lastStatus, List.filterMap_append]
    exact congrArg List.getLast? (List.append_nil _)
  constructor
  case posts =>
    rw [posts, Outcome.min_firstFinal course.passing course.isAdmitted course.ended]
    exact Nat.cast_succ _
  case timeline =>
    refine ⟨delays, ?_, fun i delay isOwn => ?_⟩
    · rw [List.filter_append, course.timeline]
      exact List.append_nil _
    · have spaced := course.spaced i delay isOwn
      rwa [UInt32.toNat_zero, Nat.zero_add] at spaced
  case success => rw [result, course.success_iff]
  case failed => rw [result, course.failed]
  case detail =>
    refine ⟨posted.attempts, lastStatus ▸ detail, ?_⟩
    rw [posts, course.attempts, UInt32.toNat_zero, Nat.zero_add]

end Reported

end Posted

namespace Firing

/--
Whatever the attempts to post come to, and whatever else happens, a post ends
with its first outcome that is not worth another attempt or when its retries
are used up, and its record says which of the two and how.
-/
theorem record_retries (rule : ExecutionRule) (firing : Firing) (index : Nat) (url : String)
    (outcomes : Nat → Outcome) (others : Respondents) (state : others.State)
    (isBounded : rule.retry.maxRetries.toNat + 1 < UInt32.size) :
    let played := Program.play others.posting (outcomes, state)
      (firing.record rule index (.webhook url))
    Posted.Reported rule url firing.payload outcomes played.exchanges played.value := by
  have inside : (0 : UInt32).toNat + rule.retry.maxRetries.toNat + 1 < UInt32.size := by
    rwa [UInt32.toNat_zero, Nat.zero_add]
  obtain ⟨delays, course⟩ :=
    Posted.run_course rule url firing.payload none outcomes others state inside
  rw [record, act, bind_assoc, Program.play_bind]
  exact course.reported rfl rfl

/-- The server fails twice and then accepts the post. -/
def exampleOutcomes : Nat → Outcome
  | 0 | 1 => .ok 503
  | _ => .ok 200

/-- The third post succeeds, and it is the last one. -/
theorem record_retries_exampleOutcomes :
    let played := Program.play (Outside.silent.respondents ()).posting (exampleOutcomes, ())
      (Executor.exampleFiring.record ⟨.standard, ⟨10000⟩, ⟨30000⟩⟩ 0 (.webhook "http://a"))
    RetryPolicy.standard.maxRetries.toNat + 1 < UInt32.size ∧
      played.value.result = .success ∧ played.exchanges.countP Exchange.isPost = 3 := by
  have isBounded : RetryPolicy.standard.maxRetries.toNat + 1 < UInt32.size := by decide
  have reported := record_retries ⟨.standard, ⟨10000⟩, ⟨30000⟩⟩ Executor.exampleFiring 0 "http://a"
    exampleOutcomes (Outside.silent.respondents ()) () isBounded
  have passing : ∀ i < 2, (exampleOutcomes i).isPassing = true := by decide
  have isFirst : Outcome.firstFinal exampleOutcomes = (2 : Nat) :=
    le_antisymm (Outcome.firstFinal_le rfl) (Outcome.le_firstFinal passing)
  refine ⟨isBounded, reported.success.2 ⟨2, isFirst, by decide, by decide⟩, ?_⟩
  have posts := reported.posts
  rw [isFirst] at posts
  exact Nat.cast_inj.1 posts

end Firing

end AdMonitor
