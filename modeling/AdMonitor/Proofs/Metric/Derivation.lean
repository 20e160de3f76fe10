import AdMonitor.Metric

/-!
# Derived ratios and sums

Ratios are derived one after the other, yet each depends on its own components
alone, because no ratio is a component of another (`Snapshot.get?_deriveRatios`).
The sums of an aggregate are those of the additive metrics that every snapshot
has (`Snapshot.get?_sums`).
-/

namespace AdMonitor

/-- Whether what a second ratio reads and writes differs from the name of a first one. -/
def Ratio.Spares (first second : Ratio) : Prop :=
  second.name ≠ first.name ∧ second.numerator ≠ first.name ∧ second.denominator ≠ first.name

instance (first second : Ratio) : Decidable (first.Spares second) :=
  inferInstanceAs (Decidable (_ ∧ _ ∧ _))

namespace Metric

def ratio? (name : String) : Option Ratio :=
  ratios.find? fun ratio => ratio.name == name

theorem ratios_spare : ratios.Pairwise Ratio.Spares := by decide

theorem ratios_not_additive : ∀ ratio ∈ ratios, ratio.name ∉ additive := by decide

theorem ratio?_eq_some {name : String} {ratio : Ratio} (found : ratio? name = some ratio) :
    ratio ∈ ratios ∧ ratio.name = name :=
  ⟨List.mem_of_find?_eq_some found, by simpa using List.find?_some found⟩

theorem ratio?_of_additive {name : String} (isAdditive : name ∈ additive) : ratio? name = none := by
  rw [ratio?, List.find?_eq_none]
  intro ratio isRatio same
  exact ratios_not_additive ratio isRatio (eq_of_beq same ▸ isAdditive)

theorem components_eq (name : String) : components name =
    (ratio? name).elim [name] fun ratio => [ratio.numerator, ratio.denominator] := by
  by_cases isAdditive : name ∈ additive
  · simp [components, kind?, isAdditive, ratio?_of_additive isAdditive]
  · have kind : kind? name = (ratio? name).map .ratio := by simp [kind?, isAdditive, ratio?]
    rw [components, kind]
    cases ratio? name <;> rfl

end Metric

namespace Snapshot

variable {snapshot : Snapshot} {name : String}

/-! ## Ratios -/

def quotient? (snapshot : Snapshot) (ratio : Ratio) : Option Float :=
  match snapshot.get? ratio.numerator, snapshot.get? ratio.denominator with
  | some numerator, some denominator =>
      if denominator != 0.0 && denominator.isFinite && numerator.isFinite then
        some (numerator / denominator)
      else none
  | _, _ => snapshot.get? ratio.name

theorem get?_deriveRatio {ratio : Ratio} : (snapshot.deriveRatio ratio).get? name =
    if name = ratio.name then snapshot.quotient? ratio else snapshot.get? name := by
  have kept : snapshot.get? name =
      if name = ratio.name then snapshot.get? ratio.name else snapshot.get? name := by
    split
    · rename_i same
      rw [same]
    · rfl
  unfold deriveRatio quotient?
  cases snapshot.get? ratio.numerator with
  | none => exact kept
  | some numerator =>
      cases snapshot.get? ratio.denominator with
      | none => exact kept
      | some denominator =>
          dsimp only
          split
          · rw [Table.get?_insert]
          · rw [Table.get?_erase]

/-- Deriving one ratio leaves another as it is. -/
theorem quotient?_deriveRatio {first second : Ratio} (spares : first.Spares second) :
    (snapshot.deriveRatio first).quotient? second = snapshot.quotient? second := by
  obtain ⟨name, numerator, denominator⟩ := spares
  simp only [quotient?, get?_deriveRatio, if_neg name, if_neg numerator, if_neg denominator]

theorem get?_foldl_deriveRatio {ratios : List Ratio} (spare : ratios.Pairwise Ratio.Spares) :
    (ratios.foldl deriveRatio snapshot).get? name =
      (ratios.find? fun ratio => ratio.name == name).elim (snapshot.get? name)
        snapshot.quotient? := by
  induction ratios generalizing snapshot with
  | nil => rfl
  | cons first rest ih =>
      obtain ⟨spares, others⟩ := List.pairwise_cons.1 spare
      rw [List.foldl_cons, ih others]
      by_cases same : first.name = name
      · have isLast : rest.find? (fun ratio => ratio.name == name) = none := by
          rw [List.find?_eq_none]
          intro ratio isRatio isNamed
          exact (spares ratio isRatio).1 ((eq_of_beq isNamed).trans same.symm)
        rw [isLast, List.find?_cons_of_pos (by simpa using same)]
        exact get?_deriveRatio.trans (if_pos same.symm)
      · rw [List.find?_cons_of_neg (by simpa using same)]
        cases found : rest.find? fun ratio => ratio.name == name with
        | none => exact get?_deriveRatio.trans (if_neg (Ne.symm same))
        | some ratio => exact quotient?_deriveRatio (spares ratio (List.mem_of_find?_eq_some found))

theorem get?_deriveRatios : snapshot.deriveRatios.get? name =
    (Metric.ratio? name).elim (snapshot.get? name) snapshot.quotient? :=
  get?_foldl_deriveRatio Metric.ratios_spare

theorem get?_deriveRatios_of_additive (isAdditive : name ∈ Metric.additive) :
    snapshot.deriveRatios.get? name = snapshot.get? name := by
  rw [get?_deriveRatios, Metric.ratio?_of_additive isAdditive]
  rfl

/-! ## Sums -/

def sum? (snapshots : List Snapshot) (name : String) : Option Float :=
  (snapshots.mapM fun snapshot : Snapshot => snapshot.get? name).map total

def sums (snapshots : List Snapshot) : Snapshot :=
  Metric.additive.foldl (addTotal snapshots) .empty

theorem aggregate_eq {snapshots : List Snapshot} (isSome : snapshots ≠ []) :
    aggregate snapshots = (sums snapshots).deriveRatios := by
  cases snapshots with
  | nil => exact absurd rfl isSome
  | cons first rest => rfl

theorem get?_addTotal {snapshots : List Snapshot} {metric : String} :
    (addTotal snapshots snapshot metric).get? name =
      if name = metric then (sum? snapshots name).or (snapshot.get? name)
      else snapshot.get? name := by
  by_cases same : name = metric
  · subst same
    unfold addTotal sum?
    split <;> rename_i found <;> simp [found, Table.get?_insert]
  · unfold addTotal
    split <;> simp [same, Table.get?_insert]

theorem get?_foldl_addTotal {snapshots : List Snapshot} {names : List String} :
    (names.foldl (addTotal snapshots) snapshot).get? name =
      if name ∈ names then (sum? snapshots name).or (snapshot.get? name)
      else snapshot.get? name := by
  induction names generalizing snapshot with
  | nil => rfl
  | cons first rest ih =>
      rw [List.foldl_cons, ih, get?_addTotal]
      by_cases same : name = first
      · -- A metric that is listed twice is summed twice, to the same sum.
        subst same
        cases sum? snapshots name <;> simp
      · simp [same]

theorem get?_sums {snapshots : List Snapshot} : (sums snapshots).get? name =
    if name ∈ Metric.additive then sum? snapshots name else none := by
  rw [sums, get?_foldl_addTotal, Table.get?_empty, Option.or_none]

end Snapshot

end AdMonitor
