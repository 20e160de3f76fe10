import AdMonitor.Condition

/-!
# How children decide

Evaluation stops at the child that decides, yet what it finds is a function of
the verdicts of all children in their order (`Condition.evaluate_composite`).
The lemmas on `Verdict.firstShortfall` and `Verdict.firstSuccess` say when this
function gives which verdict, and which metric an unknown one names.  The
metrics that a condition mentions decide it (`Condition.evaluate_congr`).
-/

namespace AdMonitor

/-! ## Combining verdicts -/

namespace Verdict

variable {gap : Option String} {metric : String} {connective : Connective}
  {verdicts : List Verdict}

theorem firstShortfall_eq_holds_iff :
    firstShortfall verdicts = .holds ↔ ∀ verdict ∈ verdicts, verdict = .holds := by
  induction verdicts with
  | nil => simp [firstShortfall]
  | cons verdict rest ih => cases verdict <;> simp [firstShortfall, ih]

/-- What falls short first is one of the verdicts. -/
theorem mem_of_firstShortfall {verdict : Verdict} (isFirst : firstShortfall verdicts = verdict)
    (falls : verdict ≠ .holds) : verdict ∈ verdicts := by
  induction verdicts with
  | nil => exact absurd isFirst.symm falls
  | cons first rest ih =>
      cases first with
      | holds => exact List.mem_cons_of_mem _ (ih isFirst)
      | fails | unknown metric => exact isFirst ▸ List.mem_cons_self

theorem firstSuccess_eq_holds_iff : firstSuccess gap verdicts = .holds ↔ .holds ∈ verdicts := by
  induction verdicts generalizing gap with
  | nil => cases gap <;> simp [firstSuccess]
  | cons verdict rest ih => cases verdict <;> simp [firstSuccess, ih]

theorem firstSuccess_eq_fails_iff :
    firstSuccess gap verdicts = .fails ↔ gap = none ∧ ∀ verdict ∈ verdicts, verdict = .fails := by
  induction verdicts generalizing gap with
  | nil => cases gap <;> simp [firstSuccess]
  | cons verdict rest ih => cases verdict <;> simp [firstSuccess, ih]

/-- A gap that wins over a failure was there before or is one of the verdicts. -/
theorem mem_of_firstSuccess (isGap : firstSuccess gap verdicts = .unknown metric) :
    gap = some metric ∨ .unknown metric ∈ verdicts := by
  induction verdicts generalizing gap with
  | nil =>
      cases gap with
      | none => cases isGap
      | some other => exact Or.inl (congrArg some (Verdict.unknown.inj isGap))
  | cons verdict rest ih =>
      cases verdict with
      | holds => cases isGap
      | fails => exact (ih isGap).imp_right (List.mem_cons_of_mem _)
      | unknown other =>
          rcases ih isGap with isOld | isLater
          · cases gap with
            | none => exact Or.inr (Option.some.inj isOld ▸ List.mem_cons_self)
            | some old => exact Or.inl isOld
          · exact Or.inr (List.mem_cons_of_mem _ isLater)

theorem mem_of_combine_eq_unknown (isGap : combine connective verdicts = .unknown metric) :
    .unknown metric ∈ verdicts := by
  cases connective with
  | all => exact mem_of_firstShortfall isGap nofun
  | any => exact (mem_of_firstSuccess isGap).resolve_left nofun

end Verdict

/-! ## Evaluating composites -/

namespace Condition

variable {snapshot other : Snapshot}

/-- What holds of comparisons, and of a composite when it holds of all its children. -/
@[elab_as_elim]
theorem inductionOn {motive : Condition → Prop} (condition : Condition)
    (threshold : ∀ metric comparison bound, motive (.threshold metric comparison bound))
    (composite : ∀ connective children, (∀ child ∈ children, motive child) →
      motive (.composite connective children)) : motive condition := by
  match condition with
  | .threshold metric comparison bound => exact threshold metric comparison bound
  | .composite connective children =>
      exact composite connective children fun child _ => inductionOn child threshold composite

theorem evaluateAll_eq_firstShortfall (snapshot : Snapshot) (children : List Condition) :
    evaluateAll snapshot children = Verdict.firstShortfall (children.map (evaluate snapshot)) := by
  induction children with
  | nil => rfl
  | cons child rest ih =>
      rw [evaluateAll, List.map_cons]
      cases evaluate snapshot child with
      | holds => exact ih
      | fails | unknown metric => rfl

theorem evaluateAny_eq_firstSuccess (snapshot : Snapshot) (gap : Option String)
    (children : List Condition) :
    evaluateAny snapshot gap children =
      Verdict.firstSuccess gap (children.map (evaluate snapshot)) := by
  induction children generalizing gap with
  | nil => rfl
  | cons child rest ih =>
      rw [evaluateAny, List.map_cons]
      cases evaluate snapshot child with
      | holds => rfl
      | fails => exact ih gap
      | unknown metric => exact ih _

/-- Stopping early does not change the verdict. -/
theorem evaluate_composite (snapshot : Snapshot) (connective : Connective)
    (children : List Condition) : evaluate snapshot (.composite connective children) =
      Verdict.combine connective (children.map (evaluate snapshot)) := by
  cases connective with
  | all => exact evaluateAll_eq_firstShortfall snapshot children
  | any => exact evaluateAny_eq_firstSuccess snapshot none children

theorem mentions_composite (connective : Connective) (children : List Condition) :
    mentions (.composite connective children) = children.flatMap mentions := by
  have listed : mentionsOf children = children.flatMap mentions := by
    induction children with
    | nil => rfl
    | cons child rest ih => rw [mentionsOf, ih, List.flatMap_cons]
  exact listed

/-- Snapshots that agree on what a condition mentions decide it alike. -/
theorem evaluate_congr {condition : Condition}
    (agree : ∀ metric ∈ condition.mentions, snapshot.get? metric = other.get? metric) :
    condition.evaluate snapshot = condition.evaluate other := by
  induction condition using inductionOn with
  | threshold metric comparison bound =>
      simp only [evaluate, compareMetric, agree metric List.mem_cons_self]
  | composite connective children ih =>
      rw [evaluate_composite, evaluate_composite]
      refine congrArg (Verdict.combine connective) (List.map_congr_left fun child isChild => ?_)
      refine ih child isChild fun metric isMentioned => agree metric ?_
      rw [mentions_composite]
      exact List.mem_flatMap_of_mem isChild isMentioned

end Condition

end AdMonitor
