import AdMonitor.Proofs.Action.Sequence
import AdMonitor.Proofs.Budget.Stage

/-!
# What becomes of scaled budgets

The budget of every member takes one of three courses (`BudgetCourse`): it
cannot be read, it is not known, or an update is sent.  The requests of an action
that scales budgets are those of its members one after the other, and its record
adds up what has become of them (`Firing.record_addsUp`).
-/

namespace AdMonitor

def Exchange.isOnPlatform : Exchange → Bool
  | ⟨.platform .., _⟩ => true
  | _ => false

/--
Whether a budget is that of a member: the finite one that the platform reports,
or the finite one of the snapshot if the platform reports none.
-/
inductive Member.HasBudget (member : Member) : Option Float → Float → Prop where
  | live (budget : Float) (isFinite : budget.isFinite = true) :
      member.HasBudget (some budget) budget
  | known (live : Option Float) (budget : Float)
      (isUnreported : ∀ reported, live = some reported → reported.isFinite = false)
      (isKnown : member.snapshot.get? "budget" = some budget)
      (isFinite : budget.isFinite = true) : member.HasBudget live budget

theorem Member.hasBudget_iff {member : Member} {live : Option Float} {budget : Float} :
    member.HasBudget live budget ↔
      (live.filter Float.isFinite).or ((member.snapshot.get? "budget").filter Float.isFinite) =
        some budget := by
  rw [Option.or_eq_some_iff, Option.filter_eq_none_iff]
  simp only [Option.filter_eq_some_iff]
  constructor
  · intro isOwn
    cases isOwn with
    | live _ isFinite => exact Or.inl ⟨rfl, isFinite⟩
    | known _ _ isUnreported isKnown isFinite =>
        refine Or.inr ⟨fun reported isReported => ?_, isKnown, isFinite⟩
        exact Bool.eq_false_iff.1 (isUnreported reported isReported)
  · rintro (⟨rfl, isFinite⟩ | ⟨isUnreported, isKnown, isFinite⟩)
    · exact .live budget isFinite
    · refine .known live budget (fun reported isReported => ?_) isKnown isFinite
      exact Bool.eq_false_iff.2 (isUnreported reported isReported)

/-- Why a call of an action was made in vain: it was answered with an error, or timed out. -/
def Reply.failure? {α : Type} (limit : Span) : Reply α → Option Failure
  | .answered (.ok _) => none
  | .answered (.error failure) => some failure
  | .timedOut => some (.collaborator ("call timed out after " ++ limit.write))

theorem Reply.result_eq_error {α : Type} {limit : Span} {reply : Reply α} {failure : Failure} :
    reply.result limit = .error failure ↔ reply.failure? limit = some failure := by
  cases reply with
  | timedOut => simp [result, failure?]
  | answered answer => cases answer <;> simp [result, failure?]

/-- What can become of the budget of a member when it is to be scaled. -/
inductive BudgetCourse (limit : Span) where
  /-- The platform answers with an error, or too late. -/
  | unread (member : Member) (reply : Reply (Option Float)) (failure : Failure)
      (fails : reply.failure? limit = some failure)
  /-- Neither the platform nor the snapshot knows a finite budget. -/
  | unknown (member : Member) (live : Option Float)
      (isUnknown : ∀ budget, ¬member.HasBudget live budget)
  | sent (member : Member) (live : Option Float) (previous : Float)
      (isOwn : member.HasBudget live previous) (reply : Reply Unit)

namespace BudgetCourse

variable {limit : Span} {plan : BudgetPlan}

def member : BudgetCourse limit → Member
  | .unread member .. | .unknown member .. | .sent member .. => member

def campaign (course : BudgetCourse limit) : CampaignId :=
  course.member.entity.campaign

def exchanges (plan : BudgetPlan) : BudgetCourse limit → List Exchange
  | .unread member reply .. =>
      [⟨.platform limit (.currentBudget member.entity.campaign), reply⟩]
  | .unknown member live _ =>
      [⟨.platform limit (.currentBudget member.entity.campaign), .answered (.ok live)⟩]
  | .sent member live previous _ reply =>
      let change := plan.apply member.entity.campaign previous
      [⟨.platform limit (.currentBudget member.entity.campaign), .answered (.ok live)⟩,
        ⟨.platform limit (.updateBudget member.entity.campaign change.new), reply⟩]

def failure? : BudgetCourse limit → Option Failure
  | .unread _ _ failure _ => some failure
  | .unknown .. => none
  | .sent _ _ _ _ reply => reply.failure? limit

def isUnknown : BudgetCourse limit → Bool
  | .unknown .. => true
  | .unread .. | .sent .. => false

def change? (plan : BudgetPlan) (course : BudgetCourse limit) : Option BudgetChange :=
  match course with
  | .unread .. | .unknown .. => none
  | .sent member _ previous _ _ =>
      some { plan.apply member.entity.campaign previous with
        error := course.failure?.map Failure.message }

def complaint? (course : BudgetCourse limit) : Option String :=
  course.failure?.map fun failure => course.campaign ++ ": " ++ failure.message

def unbounded : String := "scaling up without max_budget is unbounded"

def warnings (plan : BudgetPlan) (courses : List (BudgetCourse limit)) : List String :=
  (if plan.direction = .up ∧ plan.max = none then [unbounded] else []) ++
    (courses.filter isUnknown).map fun course =>
      "current budget of " ++ course.campaign ++ " unknown"

structure Judge (courses : List (BudgetCourse limit)) (result : ActionResult) : Prop where
  failed : ∀ reason, result = .failed reason ↔
    (∃ course ∈ courses, course.failure?.isSome = true) ∧
      reason = "; ".intercalate (courses.filterMap complaint?)
  skipped : (∃ reason, result = .skipped reason) ↔ ∀ course ∈ courses, course.isUnknown = true
  success : result = .success ↔
    (∀ course ∈ courses, course.failure? = none) ∧ ∃ course ∈ courses, course.isUnknown = false

/-- Whether a record, and what has been asked before it, add up what some budgets have come to. -/
structure AddUp (plan : BudgetPlan) (courses : List (BudgetCourse limit))
    (exchanges : List Exchange) (record : ActionRecord) : Prop where
  exchanges : exchanges.filter Exchange.isOnPlatform =
    courses.flatMap (BudgetCourse.exchanges plan)
  judge : Judge courses record.result
  detail : record.detail = some (.budget (courses.filterMap (change? plan))
    (if warnings plan courses = [] then none
      else some ("; ".intercalate (warnings plan courses))))
  isUnbounded : unbounded ∈ warnings plan courses ↔ plan.direction = .up ∧ plan.max = none

/-! ## Courses of a run -/

def outcome (plan : BudgetPlan) (course : BudgetCourse limit) : Rescale :=
  match course with
  | .unread _ _ failure _ => .unreadable failure
  | .unknown .. => .unknown
  | .sent member _ previous _ _ =>
      .changed { plan.apply member.entity.campaign previous with
        error := course.failure?.map Failure.message }

abbrev outcomes (plan : BudgetPlan) (courses : List (BudgetCourse limit)) :
    List (CampaignId × Rescale) :=
  courses.map fun course => (course.campaign, course.outcome plan)

/-- The budget of a member takes a course. -/
theorem run_leaves (limit : Span) (plan : BudgetPlan) (member : Member) :
    (Rescale.run limit plan member.entity.campaign
      ((member.snapshot.get? "budget").filter Float.isFinite)).Leaves Exchange.isOnPlatform
        fun exchanges outcome => ∃ course : BudgetCourse limit, course.member = member ∧
          exchanges = course.exchanges plan ∧ outcome = course.outcome plan := by
  -- One course for each way in which reading and then updating can come out.
  refine Program.Leaves.ask (fun _ => rfl) fun reply => ?_
  split
  next failure fails =>
    exact .done ⟨.unread member reply failure (Reply.result_eq_error.1 fails), rfl, rfl, rfl⟩
  next live isLive =>
    obtain rfl := Reply.result_eq_ok.1 isLive
    split
    next isNone =>
      have isUnknown : ∀ budget, ¬member.HasBudget live budget := by
        intro budget isOwn
        cases isNone.symm.trans (Member.hasBudget_iff.1 isOwn)
      exact .done ⟨.unknown member live isUnknown, rfl, rfl, rfl⟩
    next previous isPrevious =>
      have isOwn := Member.hasBudget_iff.2 isPrevious
      refine Program.Leaves.ask (fun _ => rfl) fun reply => ?_
      split
      next taken =>
        refine .done ⟨.sent member live previous isOwn reply, rfl, rfl, ?_⟩
        rw [outcome, failure?, Reply.result_eq_ok.1 taken]
        rfl
      next failure refused =>
        refine .done ⟨.sent member live previous isOwn reply, rfl, rfl, ?_⟩
        rw [outcome, failure?, Reply.result_eq_error.1 refused]
        rfl

/-- The budgets of all members take their courses, one after the other. -/
theorem runAll_leaves (limit : Span) (plan : BudgetPlan) (members : List Member) :
    (Rescale.runAll limit plan members).Leaves Exchange.isOnPlatform fun exchanges outcomes =>
      ∃ courses : List (BudgetCourse limit), courses.map member = members ∧
        exchanges = courses.flatMap (BudgetCourse.exchanges plan) ∧
        outcomes = BudgetCourse.outcomes plan courses := by
  induction members with
  | nil => exact .done ⟨[], rfl, rfl, rfl⟩
  | cons member rest ih =>
      have first := (run_leaves limit plan member).withLock (.campaign member.entity.campaign)
        fun _ _ => rfl
      refine first.bind ?_
      rintro _ _ ⟨course, rfl, rfl, rfl⟩
      refine ih.bind ?_
      rintro _ _ ⟨courses, rfl, rfl, rfl⟩
      refine .done ⟨course :: courses, rfl, ?_, rfl⟩
      rw [List.append_nil, List.flatMap_cons]

/-! ## Sums of courses -/

section Sums

variable (plan : BudgetPlan) (courses : List (BudgetCourse limit))

theorem failures_outcomes : Rescale.failures (outcomes plan courses) =
    courses.filterMap complaint? := by
  unfold Rescale.failures
  rw [List.filterMap_map]
  refine congrArg (List.filterMap · courses) (funext fun course => ?_)
  cases course with
  | unread | unknown => rfl
  | sent => exact Option.map_map ..

theorem changes_outcomes : Rescale.changes (outcomes plan courses) =
    courses.filterMap (change? plan) := by
  unfold Rescale.changes
  rw [List.filterMap_map]
  refine congrArg (List.filterMap · courses) (funext fun course => ?_)
  cases course with
  | unread | unknown | sent => rfl

theorem warnings_outcomes : Rescale.warnings plan (outcomes plan courses) =
    warnings plan courses := by
  have isUnknown : (fun entry : CampaignId × Rescale => entry.2.isUnknown) ∘
      (fun course : BudgetCourse limit => (course.campaign, course.outcome plan)) =
        BudgetCourse.isUnknown := by
    refine funext fun course => ?_
    cases course with
    | unread | unknown | sent => rfl
  unfold Rescale.warnings warnings
  rw [List.filter_map, List.map_map, isUnknown]
  simp [unbounded, Function.comp_def]

end Sums

variable {courses : List (BudgetCourse limit)}

theorem isUnknown_iff (plan : BudgetPlan) {course : BudgetCourse limit} :
    course.isUnknown = true ↔ course.change? plan = none ∧ course.failure? = none := by
  cases course with
  | unread | unknown | sent => simp [isUnknown, change?, failure?]

theorem failure?_of_isUnknown {course : BudgetCourse limit} (isUnknown : course.isUnknown = true) :
    course.failure? = none := by
  cases course with
  | unread | sent => cases isUnknown
  | unknown => rfl

theorem complaints_eq_nil_iff :
    courses.filterMap complaint? = [] ↔ ∀ course ∈ courses, course.failure? = none := by
  simp only [List.filterMap_eq_nil_iff, complaint?, Option.map_eq_none_iff]

theorem areUnknown_iff : (∀ course ∈ courses, course.isUnknown = true) ↔
    courses.filterMap (change? plan) = [] ∧ courses.filterMap complaint? = [] := by
  rw [complaints_eq_nil_iff, List.filterMap_eq_nil_iff]
  simp only [isUnknown_iff plan, forall_and]

theorem mem_warnings_iff :
    unbounded ∈ warnings plan courses ↔ plan.direction = .up ∧ plan.max = none := by
  -- A campaign may have any name, but its warning begins with another letter.
  have differs : ∀ campaign : CampaignId,
      "current budget of " ++ campaign ++ " unknown" ≠ unbounded := by
    intro campaign same
    have heads := congrArg (fun text => text.toList.head?) same
    simp [unbounded] at heads
  unfold warnings
  rw [List.mem_append, List.mem_map]
  by_cases isUnbounded : plan.direction = .up ∧ plan.max = none
  · rw [if_pos isUnbounded]
    exact iff_of_true (Or.inl (List.mem_singleton_self _)) isUnbounded
  · rw [if_neg isUnbounded]
    refine iff_of_false ?_ isUnbounded
    rintro (isGeneral | ⟨course, -, same⟩)
    · cases isGeneral
    · exact differs _ same

/-! ## Verdicts -/

/-- If nothing is known of any budget, nothing has failed. -/
theorem judge_skipped (areUnknown : ∀ course ∈ courses, course.isUnknown = true)
    (reason : String) : Judge courses (.skipped reason) := by
  constructor
  case failed =>
    refine fun other => iff_of_false (fun same => by cases same) ?_
    rintro ⟨⟨course, found, fails⟩, -⟩
    rw [failure?_of_isUnknown (areUnknown course found)] at fails
    cases fails
  case skipped => exact iff_of_true ⟨reason, rfl⟩ areUnknown
  case success =>
    refine iff_of_false (fun same => by cases same) ?_
    rintro ⟨-, course, found, isKnown⟩
    cases isKnown.symm.trans (areUnknown course found)

theorem judge_success (areDone : ∀ course ∈ courses, course.failure? = none)
    (isKnown : ∃ course ∈ courses, course.isUnknown = false) : Judge courses .success := by
  constructor
  case failed =>
    refine fun other => iff_of_false (fun same => by cases same) ?_
    rintro ⟨⟨course, found, fails⟩, -⟩
    rw [areDone course found] at fails
    cases fails
  case skipped =>
    obtain ⟨course, found, isKnown⟩ := isKnown
    refine iff_of_false (fun ⟨reason, same⟩ => by cases same) fun areUnknown => ?_
    cases isKnown.symm.trans (areUnknown course found)
  case success => exact iff_of_true rfl ⟨areDone, isKnown⟩

theorem judge_failed (fails : ∃ course ∈ courses, course.failure?.isSome = true) :
    Judge courses (.failed ("; ".intercalate (courses.filterMap complaint?))) := by
  constructor
  case failed =>
    intro reason
    rw [ActionResult.failed.injEq, eq_comm]
    exact (and_iff_right fails).symm
  case skipped =>
    obtain ⟨course, found, fails⟩ := fails
    refine iff_of_false (fun ⟨reason, same⟩ => by cases same) fun areUnknown => ?_
    rw [failure?_of_isUnknown (areUnknown course found)] at fails
    cases fails
  case success =>
    obtain ⟨course, found, fails⟩ := fails
    refine iff_of_false (fun same => by cases same) fun isDone => ?_
    rw [isDone.1 course found] at fails
    cases fails

theorem judge_result (plan : BudgetPlan) (courses : List (BudgetCourse limit)) :
    Judge courses (Rescale.result (outcomes plan courses)) := by
  unfold Rescale.result
  rw [changes_outcomes, failures_outcomes]
  split
  next areEmpty =>
    rw [Bool.and_eq_true, List.isEmpty_iff, List.isEmpty_iff, ← areUnknown_iff] at areEmpty
    exact judge_skipped areEmpty _
  next isKnown =>
    -- Some update was sent or some reading has failed, so the complaints decide.
    rw [Bool.and_eq_true, List.isEmpty_iff, List.isEmpty_iff, ← areUnknown_iff] at isKnown
    cases complaints : courses.filterMap complaint? with
    | nil =>
        refine judge_success (complaints_eq_nil_iff.1 complaints) ?_
        simpa using isKnown
    | cons first others =>
        have isFirst : first ∈ courses.filterMap complaint? := complaints ▸ List.mem_cons_self
        obtain ⟨course, found, isOne⟩ := List.mem_filterMap.1 isFirst
        obtain ⟨failure, fails, -⟩ := Option.map_eq_some_iff.1 isOne
        have judged := judge_failed ⟨course, found, Option.isSome_of_eq_some fails⟩
        rwa [complaints] at judged

theorem detail_outcomes (plan : BudgetPlan) (courses : List (BudgetCourse limit)) :
    Rescale.detail plan (outcomes plan courses) =
      .budget (courses.filterMap (change? plan)) (if warnings plan courses = [] then none
        else some ("; ".intercalate (warnings plan courses))) := by
  unfold Rescale.detail
  rw [changes_outcomes, warnings_outcomes]
  cases warnings plan courses with
  | nil => rfl
  | cons first others => rfl

end BudgetCourse

namespace Firing

theorem act_scaleBudget_leaves (rule : ExecutionRule) (firing : Firing) (plan : BudgetPlan)
    (isOwn : firing.agent.scope.filter.level = .campaign) :
    (firing.act rule (.scaleBudget plan)).Leaves Exchange.isOnPlatform fun exchanges acted =>
      ∃ courses : List (BudgetCourse rule.callLimit),
        courses.map BudgetCourse.member = firing.members ∧
          exchanges = courses.flatMap (BudgetCourse.exchanges plan) ∧
          acted = (Rescale.result (BudgetCourse.outcomes plan courses),
            some (Rescale.detail plan (BudgetCourse.outcomes plan courses))) := by
  rw [act, if_pos (beq_iff_eq.2 isOwn)]
  refine (BudgetCourse.runAll_leaves rule.callLimit plan firing.members).bind ?_
  rintro _ _ ⟨courses, areOwn, rfl, rfl⟩
  exact .done ⟨courses, areOwn, List.append_nil _, rfl⟩

/-- Budgets are not scaled unless the scope is one of campaigns. -/
theorem act_scaleBudget_idle (rule : ExecutionRule) (firing : Firing) (plan : BudgetPlan)
    (isOther : firing.agent.scope.filter.level ≠ .campaign) :
    (firing.act rule (.scaleBudget plan)).Leaves Exchange.isOnPlatform fun exchanges acted =>
      exchanges = [] ∧ ∃ reason, acted.1 = .skipped reason := by
  rw [act, if_neg (mt beq_iff_eq.1 isOther)]
  exact .done ⟨rfl, _, rfl⟩

theorem record_leaves (rule : ExecutionRule) (firing : Firing) (index : Nat) (action : Action)
    {relation : List Exchange → ActionResult × Option ActionDetail → Prop}
    (leaves : (firing.act rule action).Leaves Exchange.isOnPlatform relation) :
    (firing.record rule index action).Leaves Exchange.isOnPlatform fun exchanges record =>
      relation exchanges (record.result, record.detail) := by
  refine leaves.bind fun exchanges acted isRelated => ?_
  refine .pass (fun _ => rfl) fun executedAt => .done ?_
  rwa [List.append_nil]

/--
An action that scales budgets reads the budget of every member in turn, sends an
update for each that is known, and records what has become of them.  Without a
scope of campaigns it asks the platform nothing.
-/
theorem record_addsUp (rule : ExecutionRule) (firing : Firing) (index : Nat) (plan : BudgetPlan)
    (respondents : Respondents) (state : respondents.State) :
    let played := Program.play respondents state (firing.record rule index (.scaleBudget plan))
    if firing.agent.scope.filter.level = .campaign then
      ∃ courses : List (BudgetCourse rule.callLimit),
        courses.map BudgetCourse.member = firing.members ∧
          BudgetCourse.AddUp plan courses played.exchanges played.value
    else
      played.exchanges.filter Exchange.isOnPlatform = [] ∧
        ∃ reason, played.value.result = .skipped reason := by
  intro played
  split
  next isOwn =>
    have leaves := act_scaleBudget_leaves rule firing plan isOwn
    obtain ⟨courses, areOwn, requests, acted⟩ :=
      record_leaves rule firing index _ leaves respondents state
    obtain ⟨result, detail⟩ := Prod.mk.inj acted
    refine ⟨courses, areOwn, requests, ?_, ?_, BudgetCourse.mem_warnings_iff⟩
    · exact result ▸ BudgetCourse.judge_result plan courses
    · rw [detail, BudgetCourse.detail_outcomes]
  next isOther =>
    have leaves := act_scaleBudget_idle rule firing plan isOther
    exact record_leaves rule firing index _ leaves respondents state

end Firing

end AdMonitor
