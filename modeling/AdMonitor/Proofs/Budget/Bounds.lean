import AdMonitor.Proofs.Action.Rescaling
import AdMonitor.Proofs.Agent.Acceptance
import AdMonitor.Proofs.Budget.Compounding
import AdMonitor.Proofs.Decimal.Order
import AdMonitor.Proofs.Visit.Orders

/-!
# Bounds of budgets

The bounds of an accepted plan are numbers that do not cross, so the bound that
is applied last does not undo the one before.  Whatever the product is, the new
budget is within the bounds, and it is the product where this is within them.
Every budget that is sent is one that is recorded (`Firing.record_bounds`).
-/

namespace AdMonitor

namespace BudgetPlan

open Decimal

variable {plan : BudgetPlan} {x low high : Float}

structure Spans (plan : BudgetPlan) (x : Float) : Prop where
  atMost : ∀ bound, plan.max = some bound → x ≤ bound
  atLeast : ∀ bound, plan.min = some bound → bound ≤ x

/-- Whether a new budget is what the bounds of a plan make of a rounded product. -/
structure Settles (plan : BudgetPlan) (rounded new : Float) : Prop where
  spans : plan.Spans new
  kept : plan.Spans rounded → new = rounded

structure Rules (plan : BudgetPlan) (change : BudgetChange) : Prop where
  raw : change.raw = change.previous * plan.factor
  settles : plan.Settles (toCents change.raw) change.new
  clamped : change.clamped = false ↔ (change.new == toCents change.raw) = true

/-! ## Bounds that do not cross -/

/-- Whether the bounds of a plan are numbers that do not cross. -/
structure IsOrdered (plan : BudgetPlan) : Prop where
  max : ∀ bound, plan.max = some bound → bound.isNaN = false
  min : ∀ bound, plan.min = some bound → bound.isNaN = false
  order : ∀ low high, plan.min = some low → plan.max = some high → low ≤ high

theorem checkBounds_eq_ok_iff {bounds : List Float} :
    checkBounds bounds = .ok () ↔ ∀ bound ∈ bounds, isBound bound = true := by
  unfold checkBounds
  cases found : bounds.find? fun bound => !isBound bound with
  | none =>
      refine iff_of_true rfl fun bound isOne => ?_
      simpa using List.find?_eq_none.1 found bound isOne
  | some bound =>
      refine iff_of_false nofun fun areBounds => ?_
      have fails := List.find?_some found
      rw [areBounds bound (List.mem_of_find?_eq_some found)] at fails
      cases fails

/-- What a plan has to be for an agent to be accepted. -/
theorem check_eq_ok_iff : plan.check = .ok () ↔
    (plan.percent.isFinite = true ∧ 0.0 < plan.percent ∧ plan.percent ≤ 100.0) ∧
      (∀ bound ∈ plan.min.toList ++ plan.max.toList, isBound bound = true) ∧
      ∀ low high, plan.min = some low → plan.max = some high → ¬ high < low := by
  rw [← checkBounds_eq_ok_iff, check]
  by_cases isShare : plan.percent.isFinite = true ∧ 0.0 < plan.percent ∧ plan.percent ≤ 100.0
  · have isAllowed : (!(plan.percent.isFinite && plan.percent > 0.0 && plan.percent ≤ 100.0)) =
        false := by
      simp [isShare]
    rw [and_iff_right isShare, isAllowed]
    cases checkBounds (plan.min.toList ++ plan.max.toList) with
    | error fault => exact iff_of_false nofun nofun
    | ok _ =>
        rw [and_iff_right rfl]
        cases plan.min with
        | none => exact iff_of_true rfl nofun
        | some low =>
            cases plan.max with
            | none => exact iff_of_true rfl nofun
            | some high =>
                by_cases crossed : high < low
                · refine iff_of_false ?_ fun ordered => ordered low high rfl rfl crossed
                  exact fun accepted => by simp [crossed] at accepted; cases accepted
                · refine iff_of_true ?_ fun _ _ isLow isHigh => ?_
                  · simp [crossed]
                  · cases isLow
                    cases isHigh
                    exact crossed
  · have isRefused : (!(plan.percent.isFinite && plan.percent > 0.0 && plan.percent ≤ 100.0)) =
        true := by
      refine Bool.not_eq_true' _ ▸ Bool.eq_false_iff.2 fun holds => isShare ?_
      simpa [and_assoc] using holds
    rw [isRefused]
    exact iff_of_false nofun fun sound => isShare sound.1

theorem isOrdered_of_check (accepted : plan.check = .ok ()) : plan.IsOrdered := by
  obtain ⟨-, areBounds, uncrossed⟩ := check_eq_ok_iff.1 accepted
  have isNumber : ∀ bound ∈ plan.min.toList ++ plan.max.toList, bound.isNaN = false :=
    fun bound isOne => isNaN_of_isFinite (Bool.and_eq_true_iff.1 (areBounds bound isOne)).1
  have max : ∀ bound, plan.max = some bound → bound.isNaN = false := fun bound isMax =>
    isNumber bound (List.mem_append_right _ (Option.mem_toList.2 isMax))
  have min : ∀ bound, plan.min = some bound → bound.isNaN = false := fun bound isMin =>
    isNumber bound (List.mem_append_left _ (Option.mem_toList.2 isMin))
  refine ⟨max, min, fun low high isMin isMax => ?_⟩
  exact le_of_not_lt (max high isMax) (min low isMin) (uncrossed low high isMin isMax)

/-! ## One bound -/

theorem atMost_le (isNumber : high.isNaN = false) : atMost high x ≤ high := by
  unfold atMost
  split
  · exact le_refl isNumber
  · rename_i isOther
    split
    · exact le_refl isNumber
    · rename_i notAbove
      exact le_of_not_lt isNumber (Bool.eq_false_iff.2 isOther) notAbove

theorem le_atLeast (isNumber : low.isNaN = false) : low ≤ atLeast low x := by
  unfold atLeast
  split
  · exact le_refl isNumber
  · rename_i isOther
    split
    · exact le_refl isNumber
    · rename_i notBelow
      exact le_of_not_lt (Bool.eq_false_iff.2 isOther) isNumber notBelow

theorem atMost_of_le (isLess : x ≤ high) : atMost high x = x := by
  unfold atMost
  rw [if_neg (Bool.eq_false_iff.1 (isNaN_of_le isLess).1), if_neg (not_lt_of_le isLess)]

theorem atLeast_of_le (isLess : low ≤ x) : atLeast low x = x := by
  unfold atLeast
  rw [if_neg (Bool.eq_false_iff.1 (isNaN_of_le isLess).2), if_neg (not_lt_of_le isLess)]

/-- A lower bound raises nothing above what it is below itself. -/
theorem atLeast_le (isLow : low ≤ high) (isLess : x ≤ high) : atLeast low x ≤ high := by
  unfold atLeast
  split
  · exact isLow
  · split
    · exact isLow
    · exact isLess

/-! ## Both bounds -/

/-- Bounds that do not cross settle every product, also one that is infinite or no number. -/
theorem IsOrdered.settles_clamp (isOrdered : plan.IsOrdered) (rounded : Float) :
    plan.Settles rounded (plan.clamp rounded) := by
  unfold clamp
  refine ⟨⟨fun high isMax => ?_, fun low isMin => ?_⟩, fun spans => ?_⟩
  · have isCapped : atMost high rounded ≤ high := atMost_le (isOrdered.max high isMax)
    rw [isMax]
    cases isMin : plan.min with
    | none => exact isCapped
    | some low => exact atLeast_le (isOrdered.order low high isMin isMax) isCapped
  · rw [isMin]
    exact le_atLeast (isOrdered.min low isMin)
  · cases isMax : plan.max with
    | none =>
        cases isMin : plan.min with
        | none => rfl
        | some low => exact atLeast_of_le (spans.atLeast low isMin)
    | some high =>
        have kept : atMost high rounded = rounded := atMost_of_le (spans.atMost high isMax)
        cases isMin : plan.min with
        | none => exact kept
        | some low =>
            dsimp only
            rw [kept]
            exact atLeast_of_le (spans.atLeast low isMin)

theorem IsOrdered.rules_apply (isOrdered : plan.IsOrdered) (campaign : CampaignId)
    (previous : Float) : plan.Rules (plan.apply campaign previous) where
  raw := rfl
  settles := isOrdered.settles_clamp _
  clamped := by rw [BudgetPlan.apply, bne, Bool.not_eq_false']

end BudgetPlan

/-! ## Changes that are sent and recorded -/

def BudgetChange.request (change : BudgetChange) : PlatformChange :=
  .budget change.campaign change.new

def ActionDetail.changes : Option ActionDetail → List BudgetChange
  | some (.budget changes _) => changes
  | _ => []

/-- The changes that some exchanges ask of the ad platform, in order. -/
def Exchange.changes (exchanges : List Exchange) : List PlatformChange :=
  exchanges.filterMap fun exchange => exchange.call.change?

theorem Exchange.changes_filter (exchanges : List Exchange) :
    changes (exchanges.filter isOnPlatform) = changes exchanges := by
  unfold changes
  rw [List.filterMap_filter]
  refine congrArg (List.filterMap · exchanges) (funext fun exchange => ?_)
  obtain ⟨call, answer⟩ := exchange
  cases call <;> rfl

namespace BudgetCourse

variable {limit : Span} {plan : BudgetPlan}

/-- What a course asks for is what is recorded of it. -/
theorem changes_exchanges (course : BudgetCourse limit) :
    Exchange.changes (course.exchanges plan) =
      (course.change? plan).toList.map BudgetChange.request := by
  cases course with
  | unread | unknown | sent => rfl

theorem changes_flatMap_exchanges (courses : List (BudgetCourse limit)) :
    Exchange.changes (courses.flatMap (BudgetCourse.exchanges plan)) =
      (courses.filterMap (change? plan)).map BudgetChange.request := by
  induction courses with
  | nil => rfl
  | cons course rest ih =>
      rw [List.flatMap_cons, Exchange.changes, List.filterMap_append, ← Exchange.changes,
        ← Exchange.changes, ih, changes_exchanges, List.filterMap_cons]
      cases course.change? plan <;> rfl

theorem rules_of_change? (isOrdered : plan.IsOrdered) {course : BudgetCourse limit}
    {change : BudgetChange} (isChange : course.change? plan = some change) :
    plan.Rules change := by
  cases course with
  | unread | unknown => cases isChange
  | sent member live previous isOwn reply =>
      cases isChange
      obtain ⟨raw, settles, clamped⟩ := isOrdered.rules_apply member.entity.campaign previous
      exact ⟨raw, settles, clamped⟩

end BudgetCourse

namespace Firing

/--
Whether the changes that are asked of the ad platform are those that the detail of a
record tells, each made as a plan demands.
-/
structure Discloses (plan : BudgetPlan) (exchanges : List Exchange)
    (detail : Option ActionDetail) : Prop where
  requests : Exchange.changes exchanges = (ActionDetail.changes detail).map BudgetChange.request
  rules : ∀ change ∈ ActionDetail.changes detail, plan.Rules change

theorem act_discloses (rule : ExecutionRule) (firing : Firing) {plan : BudgetPlan}
    (isOrdered : plan.IsOrdered) :
    (firing.act rule (.scaleBudget plan)).Leaves Exchange.isOnPlatform fun exchanges acted =>
      Discloses plan exchanges acted.2 := by
  by_cases isOwn : firing.agent.scope.filter.level = .campaign
  · intro respondents state
    obtain ⟨courses, -, requests, acted⟩ :=
      act_scaleBudget_leaves rule firing plan isOwn respondents state
    rw [requests, acted, BudgetCourse.detail_outcomes]
    refine ⟨BudgetCourse.changes_flatMap_exchanges courses, fun change isChange => ?_⟩
    obtain ⟨course, -, isChange⟩ := List.mem_filterMap.1 isChange
    exact BudgetCourse.rules_of_change? isOrdered isChange
  · rw [act, if_neg (mt beq_iff_eq.1 isOwn)]
    exact .done ⟨rfl, List.forall_mem_nil _⟩

/--
The bounds of a budget action of an accepted agent settle every product.  The
changes that the action asks for are those that its record tells, and each of
them was made so.
-/
theorem record_bounds [UrlParser] (rule : ExecutionRule) (firing : Firing) {limit : Nat}
    (accepted : firing.agent.validate limit = .ok ()) {plan : BudgetPlan}
    (isOwn : .scaleBudget plan ∈ firing.agent.actions) (index : Nat) (respondents : Respondents)
    (state : respondents.State) :
    (∀ rounded, plan.Settles rounded (plan.clamp rounded)) ∧
      let played := Program.play respondents state (firing.record rule index (.scaleBudget plan))
      Discloses plan played.exchanges played.value.detail := by
  have isOrdered := BudgetPlan.isOrdered_of_check (Agent.check_of_validate accepted isOwn)
  refine ⟨isOrdered.settles_clamp, ?_⟩
  have leaves := act_discloses rule firing isOrdered
  obtain ⟨requests, rules⟩ := record_leaves rule firing index _ leaves respondents state
  rw [Exchange.changes_filter] at requests
  exact ⟨requests, rules⟩

/-- A firing that doubles the budget of the campaign `c`, to 500 at most. -/
def exampleDoubling : Firing :=
  let first := Executor.exampleFiring
  let actions := [.scaleBudget ⟨.up, 100, some 50, some 500⟩]
  { first with agent := { first.agent with condition := .threshold "spend" .above 100, actions } }

def exampleBudget : Float := .ofBits 0x7FE0000000000000

attribute [local instance] UrlParser.refusing

/-- Twice the live budget is infinite, but the budget that is sent is within the bounds. -/
theorem record_bounds_exampleDoubling :
    let plan : BudgetPlan := ⟨.up, 100, some 50, some 500⟩
    let played := Program.play (Outside.ledger.respondents true) (fun _ => exampleBudget)
      (exampleDoubling.record Executor.exampleRule 0 (.scaleBudget plan))
    exampleDoubling.agent.validate 1 = .ok () ∧ (exampleBudget * plan.factor).isInf = true ∧
      (∃ budget, Exchange.changes played.exchanges = [.budget "c" budget] ∧
        50 ≤ budget ∧ budget ≤ 500) ∧
      Discloses plan played.exchanges played.value.detail := by
  intro plan played
  have accepted : exampleDoubling.agent.validate 1 = .ok () := by decide +kernel
  obtain ⟨settles, discloses⟩ := record_bounds Executor.exampleRule exampleDoubling accepted
    (List.mem_singleton_self _) 0 (Outside.ledger.respondents true) (fun _ => exampleBudget)
  refine ⟨accepted, by decide +kernel, ?_, discloses⟩
  have isFinite : exampleBudget.isFinite = true := by decide +kernel
  obtain ⟨atMost, atLeast⟩ := (settles (BudgetPlan.toCents (exampleBudget * plan.factor))).spans
  refine ⟨_, ?_, atLeast 50 rfl, atMost 500 rfl⟩
  simp [played, plan, record, exampleDoubling, Executor.exampleFiring, act, ActionRecord.now,
    Rescale.runAll, Rescale.run, Reply.result, Program.withLock, Program.ask, Program.clock,
    Entity.campaign, Program.play, Played.after, Outside.ledger, Option.filter_some_pos,
    isFinite, Exchange.changes, BudgetPlan.apply]
  rfl

end Firing

end AdMonitor
