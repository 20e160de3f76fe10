import AdMonitor.Table

/-!
# Metrics

The catalogue says how a metric combines across entities: additive metrics are
summed, ratios are recomputed from the sums.  An aggregate ratio is therefore
the ratio of two sums and never a mean of ratios.
-/

namespace AdMonitor

abbrev NameSet := Table String Unit

namespace NameSet

def ofNames (names : List String) : NameSet :=
  .ofList (names.map (·, ()))

def has (set : NameSet) (name : String) : Bool :=
  Table.contains set name

theorem mem_ofNames {names : List String} {name : String} :
    name ∈ (ofNames names).keys ↔ name ∈ names := by
  have inserted : ∀ table : NameSet,
      name ∈ ((names.map (·, ())).foldl (fun table e => Table.insert table e.1 e.2) table).keys ↔
        name ∈ names ∨ name ∈ table.keys := by
    induction names with
    | nil => simp
    | cons first rest ih =>
        intro table
        rw [List.map_cons, List.foldl_cons, ih, Table.mem_keys_iff, Table.get?_insert,
          Table.mem_keys_iff]
        grind
  rw [ofNames, Table.ofList, inserted]
  exact or_iff_left List.not_mem_nil

theorem has_ofNames {names : List String} {name : String} :
    (ofNames names).has name = true ↔ name ∈ names :=
  Table.mem_keys_iff.symm.trans mem_ofNames

theorem has_insert {set : NameSet} {name other : String} :
    NameSet.has (set.insert other ()) name = true ↔ name = other ∨ set.has name = true := by
  rw [has, Table.contains, Table.get?_insert]
  by_cases same : name = other <;> simp [same, has, Table.contains]

end NameSet

/-- The metric `numerator / denominator`. -/
structure Ratio where
  name : String
  numerator : String
  denominator : String
  deriving Repr, DecidableEq

inductive MetricKind where
  | additive
  | ratio (ratio : Ratio)
  deriving Repr, DecidableEq

namespace Metric

def additive : List String :=
  ["spend", "revenue", "conversions", "impressions", "clicks", "budget"]

def ratios : List Ratio :=
  [⟨"roas", "revenue", "spend"⟩, ⟨"cpa", "spend", "conversions"⟩,
    ⟨"ctr", "clicks", "impressions"⟩, ⟨"cpc", "spend", "clicks"⟩,
    ⟨"conversion_rate", "conversions", "clicks"⟩]

def kind? (name : String) : Option MetricKind :=
  if additive.contains name then some .additive
  else (ratios.find? (fun r => r.name == name)).map .ratio

def isKnown (name : String) : Bool :=
  (kind? name).isSome

/-- The metrics to fetch for a metric; a name outside the catalogue stands for itself. -/
def components (name : String) : List String :=
  match kind? name with
  | some (.ratio r) => [r.numerator, r.denominator]
  | _ => [name]

def base (names : List String) : NameSet :=
  .ofNames (names.flatMap components)

/-- Components of a ratio are additive, so ratios never feed each other. -/
theorem components_additive :
    ∀ r ∈ ratios, r.numerator ∈ additive ∧ r.denominator ∈ additive := by
  decide

end Metric

abbrev Snapshot := Table String Float

namespace Snapshot

/--
Recompute one ratio from its components.  A denominator that is zero, or a
component that is not finite, leaves the ratio out; without both components
the snapshot stays as it is.
-/
def deriveRatio (snapshot : Snapshot) (ratio : Ratio) : Snapshot :=
  match snapshot.get? ratio.numerator, snapshot.get? ratio.denominator with
  | some numerator, some denominator =>
      if denominator != 0.0 && denominator.isFinite && numerator.isFinite then
        snapshot.insert ratio.name (numerator / denominator)
      else
        snapshot.erase ratio.name
  | _, _ => snapshot

def deriveRatios (snapshot : Snapshot) : Snapshot :=
  Metric.ratios.foldl deriveRatio snapshot

/-- The sum from left to right; the empty sum is negative zero, the neutral element. -/
def total (values : List Float) : Float :=
  values.foldl (· + ·) (-0.0)

/-- Add one metric of all snapshots to an aggregate, if every snapshot has it. -/
def addTotal (snapshots : List Snapshot) (aggregate : Snapshot) (name : String) : Snapshot :=
  match snapshots.mapM (fun s => s.get? name) with
  | some values => aggregate.insert name (total values)
  | none => aggregate

/--
Combine snapshots of several entities.  An additive metric is summed only when
every snapshot has it; ratios are derived from the sums; other names are
dropped.
-/
def aggregate (snapshots : List Snapshot) : Snapshot :=
  match snapshots with
  | [] => .empty
  | _ => deriveRatios (Metric.additive.foldl (addTotal snapshots) .empty)

@[simp] theorem aggregate_nil : aggregate [] = .empty := rfl

end Snapshot

end AdMonitor
