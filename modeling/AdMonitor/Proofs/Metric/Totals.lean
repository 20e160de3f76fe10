import AdMonitor.Proofs.Metric.Derivation
import Mathlib.Data.List.Forall2

/-!
# Aggregates are ratios of sums

An aggregate has the sums of the additive metrics that all its parts have, the
ratios of these sums, and nothing else (`Snapshot.aggregate_isAggregate`).  This
settles it completely (`Snapshot.IsAggregate.unique`), so it makes no difference
which ratios the parts store or have derived.
-/

namespace AdMonitor

/-! ## The catalogue -/

namespace Metric

variable {name : String} {ratio : Ratio}

theorem kind?_eq_additive_iff : kind? name = some .additive ↔ name ∈ additive := by
  by_cases isAdditive : name ∈ additive <;> simp [kind?, isAdditive]

theorem kind?_eq_ratio_iff : kind? name = some (.ratio ratio) ↔ ratio? name = some ratio := by
  by_cases isAdditive : name ∈ additive
  · simp [kind?, isAdditive, ratio?_of_additive isAdditive]
  · simp [kind?, isAdditive, ratio?]

theorem kind?_eq_none_iff : kind? name = none ↔ name ∉ additive ∧ ratio? name = none := by
  by_cases isAdditive : name ∈ additive <;> simp [kind?, isAdditive, ratio?]

/-- The components of a ratio are additive in the catalogue. -/
theorem kind?_components (isRatio : kind? name = some (.ratio ratio)) :
    kind? ratio.numerator = some .additive ∧ kind? ratio.denominator = some .additive := by
  have found := (ratio?_eq_some (kind?_eq_ratio_iff.1 isRatio)).1
  exact (components_additive ratio found).imp kind?_eq_additive_iff.2 kind?_eq_additive_iff.2

end Metric

namespace Snapshot

variable {snapshot whole other : Snapshot} {parts others : List Snapshot} {name : String}
  {ratio : Ratio}

/-! ## Deriving twice -/

/-- What is stored of a ratio counts for its derivation only when a component is missing. -/
theorem quotient?_of_stored (numerator : other.get? ratio.numerator = snapshot.get? ratio.numerator)
    (denominator : other.get? ratio.denominator = snapshot.get? ratio.denominator)
    (stored : other.get? ratio.name = snapshot.quotient? ratio) :
    other.quotient? ratio = snapshot.quotient? ratio := by
  rw [quotient?, numerator, denominator, stored]
  unfold quotient?
  cases snapshot.get? ratio.numerator with
  | none => rfl
  | some _ => cases snapshot.get? ratio.denominator <;> rfl

theorem deriveRatios_deriveRatios (snapshot : Snapshot) :
    snapshot.deriveRatios.deriveRatios = snapshot.deriveRatios := by
  refine Table.ext fun name => ?_
  cases found : Metric.ratio? name with
  | none => rw [get?_deriveRatios, found, Option.elim_none]
  | some ratio =>
      obtain ⟨isRatio, rfl⟩ := Metric.ratio?_eq_some found
      obtain ⟨numerator, denominator⟩ := Metric.components_additive ratio isRatio
      have stored : snapshot.deriveRatios.get? ratio.name = snapshot.quotient? ratio := by
        rw [get?_deriveRatios, found, Option.elim_some]
      rw [get?_deriveRatios, found, Option.elim_some, stored]
      exact quotient?_of_stored (get?_deriveRatios_of_additive numerator)
        (get?_deriveRatios_of_additive denominator) stored

/-! ## What an aggregate is -/

/-- Whether every part has a metric, and these are its values from the first to the last part. -/
def Report (parts : List Snapshot) (name : String) (values : List Float) : Prop :=
  List.Forall₂ (fun (part : Snapshot) value => part.get? name = some value) parts values

/-- Whether a snapshot is what the catalogue makes of its parts. -/
structure IsAggregate (parts : List Snapshot) (whole : Snapshot) : Prop where
  /-- An additive metric is summed from left to right when no part lacks it. -/
  sums : ∀ name, Metric.kind? name = some .additive → ∀ sum,
    whole.get? name = some sum ↔ ∃ values, Report parts name values ∧ sum = total values
  /-- A ratio divides two sums that are finite, the second of which is not zero. -/
  quotients : ∀ name ratio, Metric.kind? name = some (.ratio ratio) → ∀ quotient,
    whole.get? name = some quotient ↔ ∃ numerator denominator,
      whole.get? ratio.numerator = some numerator ∧
      whole.get? ratio.denominator = some denominator ∧
      numerator.isFinite = true ∧ denominator.isFinite = true ∧ (denominator == 0.0) = false ∧
      quotient = numerator / denominator
  others : ∀ name, Metric.kind? name = none → whole.get? name = none

theorem IsAggregate.congr (isAggregate : IsAggregate parts whole)
    (same : ∀ name values, Metric.kind? name = some .additive →
      (Report others name values ↔ Report parts name values)) : IsAggregate others whole where
  sums name isAdditive sum := by
    rw [isAggregate.sums name isAdditive]
    exact exists_congr fun values => and_congr_left' (same name values isAdditive).symm
  quotients := isAggregate.quotients
  others := isAggregate.others

/-- The parts settle an aggregate. -/
theorem IsAggregate.unique (isFirst : IsAggregate parts whole)
    (isSecond : IsAggregate parts other) : whole = other := by
  have additive : ∀ name, Metric.kind? name = some .additive →
      whole.get? name = other.get? name := fun name isAdditive => Option.ext fun sum =>
    (isFirst.sums name isAdditive sum).trans (isSecond.sums name isAdditive sum).symm
  refine Table.ext fun name => ?_
  cases kind : Metric.kind? name with
  | none => rw [isFirst.others name kind, isSecond.others name kind]
  | some entry =>
      cases entry with
      | additive => exact additive name kind
      | ratio ratio =>
          obtain ⟨numerator, denominator⟩ := Metric.kind?_components kind
          refine Option.ext fun quotient => ?_
          rw [isFirst.quotients name ratio kind, isSecond.quotients name ratio kind,
            additive _ numerator, additive _ denominator]

/-! ## Aggregates of snapshots -/

theorem sum?_eq_some_iff {sum : Float} :
    sum? parts name = some sum ↔ ∃ values, Report parts name values ∧ sum = total values := by
  have collected : ∀ values,
      (parts.mapM fun part : Snapshot => part.get? name) = some values ↔
        Report parts name values := by
    induction parts with
    | nil =>
        intro values
        rw [Report, List.forall₂_nil_left_iff, List.mapM_nil]
        exact Option.some_inj.trans eq_comm
    | cons part rest ih =>
        intro values
        simp only [List.mapM_cons, Report, List.forall₂_cons_left_iff, Option.bind_eq_bind,
          Option.bind_eq_some_iff, Option.pure_def, Option.some.injEq, ih]
        grind [Report]
  rw [sum?, Option.map_eq_some_iff]
  exact exists_congr fun values => and_congr (collected values) eq_comm

theorem quotient?_eq_some_iff (unstored : snapshot.get? ratio.name = none) {quotient : Float} :
    snapshot.quotient? ratio = some quotient ↔ ∃ numerator denominator,
      snapshot.get? ratio.numerator = some numerator ∧
      snapshot.get? ratio.denominator = some denominator ∧
      numerator.isFinite = true ∧ denominator.isFinite = true ∧ (denominator == 0.0) = false ∧
      quotient = numerator / denominator := by
  unfold quotient?
  split
  · rename_i numerator denominator isNumerator isDenominator
    have isDivisible_iff :
        (denominator != 0.0 && denominator.isFinite && numerator.isFinite) = true ↔
          numerator.isFinite = true ∧ denominator.isFinite = true ∧
            (denominator == 0.0) = false := by
      rw [bne, Bool.and_eq_true, Bool.and_eq_true, Bool.not_eq_true']
      tauto
    rw [Option.ite_none_right_eq_some, isDivisible_iff]
    constructor
    · rintro ⟨⟨isFinite, isFinite', isNonzero⟩, isQuotient⟩
      exact ⟨numerator, denominator, isNumerator, isDenominator, isFinite, isFinite', isNonzero,
        (Option.some.inj isQuotient).symm⟩
    · rintro ⟨_, _, isNumerator', isDenominator', isFinite, isFinite', isNonzero, rfl⟩
      obtain rfl := Option.some.inj (isNumerator.symm.trans isNumerator')
      obtain rfl := Option.some.inj (isDenominator.symm.trans isDenominator')
      exact ⟨⟨isFinite, isFinite', isNonzero⟩, rfl⟩
  · rename_i incomplete
    rw [unstored]
    refine iff_of_false nofun ?_
    rintro ⟨numerator, denominator, isNumerator, isDenominator, -⟩
    exact incomplete numerator denominator isNumerator isDenominator

theorem aggregate_isAggregate (isSome : parts ≠ []) : IsAggregate parts (aggregate parts) := by
  rw [aggregate_eq isSome]
  have additive : ∀ {name}, Metric.kind? name = some .additive →
      (Snapshot.sums parts).deriveRatios.get? name = sum? parts name := by
    intro name kind
    have isAdditive := Metric.kind?_eq_additive_iff.1 kind
    rw [get?_deriveRatios_of_additive isAdditive, get?_sums, if_pos isAdditive]
  refine ⟨fun name kind sum => ?_, fun name ratio kind quotient => ?_, fun name kind => ?_⟩
  · rw [additive kind, sum?_eq_some_iff]
  · have found := Metric.kind?_eq_ratio_iff.1 kind
    obtain ⟨isRatio, rfl⟩ := Metric.ratio?_eq_some found
    obtain ⟨numerator, denominator⟩ := Metric.components_additive ratio isRatio
    have unstored : (Snapshot.sums parts).get? ratio.name = none := by
      rw [get?_sums, if_neg (Metric.ratios_not_additive ratio isRatio)]
    rw [get?_deriveRatios, found, Option.elim_some, quotient?_eq_some_iff unstored,
      get?_deriveRatios_of_additive numerator, get?_deriveRatios_of_additive denominator]
  · obtain ⟨notAdditive, notRatio⟩ := Metric.kind?_eq_none_iff.1 kind
    rw [get?_deriveRatios, notRatio, Option.elim_none, get?_sums, if_neg notAdditive]

/-- What the parts report of additive metrics does not change when ratios are derived first. -/
theorem report_of_derived
    (derived : List.Forall₂ (fun part other => other = part ∨ other = part.deriveRatios)
      parts others)
    (isAdditive : name ∈ Metric.additive) {values : List Float} :
    Report others name values ↔ Report parts name values := by
  induction derived generalizing values with
  | nil => exact Iff.rfl
  | cons isOne rest ih =>
      simp only [Report, List.forall₂_cons_left_iff] at ih ⊢
      rcases isOne with rfl | rfl
      · simp only [ih]
      · simp only [ih, get?_deriveRatios_of_additive isAdditive]

/--
The aggregate of some snapshots is the one that has the sum of every additive
metric which all of them have, the ratio of two sums for every ratio of the
catalogue which can be formed, and no other metric.  It stays the same when the
ratios of any of the snapshots are derived first.  Deriving ratios twice is
deriving them once, and changes no metric but ratios of the catalogue.
-/
theorem aggregate_dividesSums {parts : List Snapshot} (isSome : parts ≠ []) :
    (∀ whole, IsAggregate parts whole ↔ whole = aggregate parts) ∧
      (∀ others : List Snapshot,
        List.Forall₂ (fun part other => other = part ∨ other = part.deriveRatios) parts others →
          aggregate others = aggregate parts) ∧
      (∀ snapshot : Snapshot, snapshot.deriveRatios.deriveRatios = snapshot.deriveRatios) ∧
      ∀ (snapshot : Snapshot) name, (∀ ratio, Metric.kind? name ≠ some (.ratio ratio)) →
        snapshot.deriveRatios.get? name = snapshot.get? name := by
  have isOwn := aggregate_isAggregate isSome
  refine ⟨fun whole => ⟨fun isAggregate => isAggregate.unique isOwn, fun same => same ▸ isOwn⟩,
    fun others derived => ?_, deriveRatios_deriveRatios, fun snapshot name notRatio => ?_⟩
  · have areSome : others ≠ [] := by
      rintro rfl
      exact isSome (List.forall₂_nil_right_iff.1 derived)
    refine (aggregate_isAggregate areSome).unique (isOwn.congr fun name values kind => ?_)
    exact report_of_derived derived (Metric.kind?_eq_additive_iff.1 kind)
  · cases found : Metric.ratio? name with
    | none => rw [get?_deriveRatios, found, Option.elim_none]
    | some ratio => exact absurd (Metric.kind?_eq_ratio_iff.2 found) (notRatio ratio)

/-- Two entities, one with a ratio that is out of date and one with a metric of its own. -/
def exampleParts : List Snapshot :=
  [.ofList [("clicks", 0), ("revenue", 300), ("roas", 9), ("spend", 100)],
    .ofList [("clicks", 0), ("conversions", 2), ("reach", 7), ("revenue", 50), ("spend", 50)]]

/-- Only one entity has conversions, and nothing can be divided by the clicks. -/
theorem aggregate_dividesSums_exampleParts :
    exampleParts ≠ [] ∧
      IsAggregate exampleParts
        (.ofList [("clicks", 0), ("revenue", 350), ("roas", 350 / 150), ("spend", 150)]) ∧
      aggregate (exampleParts.map deriveRatios) = aggregate exampleParts ∧
      (∀ part ∈ exampleParts, part.deriveRatios.deriveRatios = part.deriveRatios) ∧
      ∀ part ∈ exampleParts, part.deriveRatios.get? "reach" = part.get? "reach" := by
  have isSome : exampleParts ≠ [] := List.cons_ne_nil _ _
  obtain ⟨settled, derived, twice, kept⟩ := aggregate_dividesSums isSome
  refine ⟨isSome, (settled _).2 (by decide +kernel), derived _ ?_, fun part _ => twice part,
    fun part _ => kept part "reach" fun ratio isRatio => ?_⟩
  · exact List.forall₂_map_right_iff.2 (List.forall₂_same.2 fun part _ => Or.inr rfl)
  · have unlisted : Metric.kind? "reach" = none := by decide
    rw [unlisted] at isRatio
    cases isRatio

end Snapshot

end AdMonitor
