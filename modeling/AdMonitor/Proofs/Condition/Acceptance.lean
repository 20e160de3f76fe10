import AdMonitor.Proofs.Agent.Acceptance
import AdMonitor.Proofs.Condition.Evaluation
import AdMonitor.Proofs.Metric.Totals

/-!
# Accepted conditions

In a condition that was accepted every composite has a child, and every metric
is one of the catalogue.  What has to be fetched for such a condition is
therefore additive, and without any of its metrics it cannot be decided.
-/

namespace AdMonitor

/-- Verdicts none of which decides do not decide together. -/
theorem Verdict.combine_of_undecided {connective : Connective} {verdicts : List Verdict}
    (areSome : verdicts ≠ [])
    (undecided : ∀ verdict ∈ verdicts, verdict ≠ .holds ∧ verdict ≠ .fails) :
    ∃ metric, combine connective verdicts = .unknown metric := by
  obtain ⟨first, rest, rfl⟩ := List.exists_cons_of_ne_nil areSome
  obtain ⟨notHolds, notFails⟩ := undecided first List.mem_cons_self
  cases combined : combine connective (first :: rest) with
  | unknown metric => exact ⟨metric, rfl⟩
  | holds =>
      cases connective with
      | all =>
          have all := firstShortfall_eq_holds_iff.1 combined
          exact absurd (all first List.mem_cons_self) notHolds
      | any => exact absurd rfl (undecided _ (firstSuccess_eq_holds_iff.1 combined)).1
  | fails =>
      cases connective with
      | all => exact absurd rfl (undecided _ (mem_of_firstShortfall combined nofun)).2
      | any =>
          have all := (firstSuccess_eq_fails_iff.1 combined).2
          exact absurd (all first List.mem_cons_self) notFails

namespace Condition

variable {condition : Condition} {snapshot : Snapshot}

theorem checkNodesOf_eq_ok_iff {children : List Condition} :
    checkNodesOf children = .ok () ↔ ∀ child ∈ children, child.checkNodes = .ok () := by
  induction children with
  | nil => exact iff_of_true rfl (List.forall_mem_nil _)
  | cons child rest ih =>
      rw [List.forall_mem_cons, checkNodesOf, ← ih]
      cases child.checkNodes with
      | error fault => exact iff_of_false nofun nofun
      | ok _ => exact (and_iff_right rfl).symm

theorem checkNodes_threshold_iff {metric : String} {comparison : Comparison} {bound : Float} :
    checkNodes (.threshold metric comparison bound) = .ok () ↔
      Metric.isKnown metric = true ∧ bound.isFinite = true := by
  rw [checkNodes]
  cases Metric.isKnown metric with
  | false => exact iff_of_false nofun nofun
  | true =>
      rw [and_iff_right rfl]
      cases bound.isFinite with
      | false => exact iff_of_false nofun nofun
      | true => exact iff_of_true rfl rfl

/-- A composite is accepted just when it has children and all of them are accepted. -/
theorem checkNodes_composite_iff {connective : Connective} {children : List Condition} :
    checkNodes (.composite connective children) = .ok () ↔
      children ≠ [] ∧ ∀ child ∈ children, child.checkNodes = .ok () := by
  cases children with
  | nil => exact iff_of_false nofun fun accepted => accepted.1 rfl
  | cons child rest =>
      have inTurn : checkNodes (.composite connective (child :: rest)) =
          checkNodesOf (child :: rest) := by
        rw [checkNodes, checkNodesOf]
      rw [inTurn, checkNodesOf_eq_ok_iff, and_iff_right (List.cons_ne_nil child rest)]

theorem isKnown_of_checkNodes (accepted : condition.checkNodes = .ok ()) :
    ∀ metric ∈ condition.mentions, Metric.isKnown metric = true := by
  induction condition using inductionOn with
  | threshold metric comparison bound =>
      intro other isMentioned
      obtain rfl := List.mem_singleton.1 isMentioned
      exact (checkNodes_threshold_iff.1 accepted).1
  | composite connective children ih =>
      intro metric isMentioned
      rw [mentions_composite] at isMentioned
      obtain ⟨child, isChild, isOwn⟩ := List.mem_flatMap.1 isMentioned
      exact ih child isChild ((checkNodes_composite_iff.1 accepted).2 child isChild) metric isOwn

/-- Without any of the metrics that it mentions an accepted condition cannot be decided. -/
theorem evaluate_of_missing (accepted : condition.checkNodes = .ok ())
    (missing : ∀ metric ∈ condition.mentions, snapshot.get? metric = none) :
    ∃ metric, condition.evaluate snapshot = .unknown metric := by
  induction condition using inductionOn with
  | threshold metric comparison bound =>
      refine ⟨metric, ?_⟩
      rw [evaluate, compareMetric, missing metric List.mem_cons_self]
  | composite connective children ih =>
      obtain ⟨areSome, areAccepted⟩ := checkNodes_composite_iff.1 accepted
      obtain ⟨first, rest, rfl⟩ := List.exists_cons_of_ne_nil areSome
      have unknown : ∀ child ∈ first :: rest, ∃ metric,
          child.evaluate snapshot = .unknown metric := by
        intro child isChild
        refine ih child isChild (areAccepted child isChild) fun metric isOwn => missing metric ?_
        rw [mentions_composite]
        exact List.mem_flatMap_of_mem isChild isOwn
      have undecided : ∀ verdict ∈ (first :: rest).map (evaluate snapshot),
          verdict ≠ .holds ∧ verdict ≠ .fails := by
        refine List.forall_mem_map.2 fun child isChild => ?_
        obtain ⟨metric, isUnknown⟩ := unknown child isChild
        rw [isUnknown]
        constructor <;> intro same <;> cases same
      rw [evaluate_composite]
      exact Verdict.combine_of_undecided (List.cons_ne_nil _ _) undecided

end Condition

/-- What is fetched for a metric of the catalogue is additive. -/
theorem Metric.additive_of_components {metric component : String}
    (known : Metric.isKnown metric = true) (isComponent : component ∈ Metric.components metric) :
    component ∈ Metric.additive := by
  rw [Metric.components_eq] at isComponent
  cases found : Metric.ratio? metric with
  | none =>
      rw [found] at isComponent
      obtain rfl := List.mem_singleton.1 isComponent
      by_contra notAdditive
      rw [Metric.isKnown, Metric.kind?_eq_none_iff.2 ⟨notAdditive, found⟩] at known
      cases known
  | some ratio =>
      rw [found, Option.elim_some] at isComponent
      have additive := Metric.components_additive ratio (Metric.ratio?_eq_some found).1
      rcases List.mem_cons.1 isComponent with rfl | isComponent
      · exact additive.1
      · obtain rfl := List.mem_singleton.1 isComponent
        exact additive.2

namespace Agent

variable {agent : Agent} {limit : Nat}

theorem checkNodes_of_validate [UrlParser] (accepted : agent.validate limit = .ok ()) :
    agent.condition.checkNodes = .ok () := by
  have outcome := (validate_eq_ok_iff.1 accepted).2
  rw [Condition.check] at outcome
  split at outcome
  · cases outcome
  · exact outcome

/-- All that an accepted agent requires is additive. -/
theorem requires_additive [UrlParser] (accepted : agent.validate limit = .ok ()) {name : String}
    (isRequired : agent.requiredMetrics.has name = true) : name ∈ Metric.additive := by
  have areBase : (Metric.base agent.condition.mentions).has name = true →
      name ∈ Metric.additive := by
    intro isBase
    obtain ⟨metric, isMentioned, isComponent⟩ :=
      List.mem_flatMap.1 (NameSet.has_ofNames.1 isBase)
    have areKnown := Condition.isKnown_of_checkNodes (checkNodes_of_validate accepted)
    exact Metric.additive_of_components (areKnown metric isMentioned) isComponent
  rw [requiredMetrics] at isRequired
  split at isRequired
  · rcases NameSet.has_insert.1 isRequired with rfl | isBase
    · decide
    · exact areBase isBase
  · exact areBase isRequired

end Agent

end AdMonitor
