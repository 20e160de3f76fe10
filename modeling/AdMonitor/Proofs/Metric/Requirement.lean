import AdMonitor.Agent
import AdMonitor.Proofs.Condition.Evaluation
import AdMonitor.Proofs.Metric.Derivation

/-!
# What an agent has to fetch

An agent asks for the components of the metrics that its condition mentions,
and for budgets if it changes them.  As long as no ratio is stored, its
condition and its budget changes come out as if it had been given everything
(`Agent.requiredMetrics_suffice`).
-/

namespace AdMonitor

namespace Snapshot

variable {snapshot other : Snapshot} {names : NameSet} {name : String}

def restrict (snapshot : Snapshot) (names : NameSet) : Snapshot :=
  snapshot.filter fun name _ => names.has name

theorem get?_restrict : (snapshot.restrict names).get? name =
    if names.has name then snapshot.get? name else none := by
  rw [restrict, Table.get?_filter]
  cases snapshot.get? name <;> simp [Option.filter]

def IsBasic (snapshot : Snapshot) : Prop :=
  ∀ ratio ∈ Metric.ratios, snapshot.get? ratio.name = none

theorem IsBasic.restrict (isBasic : snapshot.IsBasic) : (snapshot.restrict names).IsBasic := by
  intro ratio isRatio
  rw [get?_restrict, isBasic ratio isRatio, ite_self]

theorem sums_isBasic (snapshots : List Snapshot) : (sums snapshots).IsBasic := by
  intro ratio isRatio
  rw [get?_sums, if_neg (Metric.ratios_not_additive ratio isRatio)]

/-- What is derived under a name depends on the components of the name. -/
theorem IsBasic.get?_deriveRatios_congr (isBasic : snapshot.IsBasic) (isBasic' : other.IsBasic)
    (agree : ∀ component ∈ Metric.components name,
      snapshot.get? component = other.get? component) :
    snapshot.deriveRatios.get? name = other.deriveRatios.get? name := by
  rw [get?_deriveRatios, get?_deriveRatios]
  rw [Metric.components_eq] at agree
  cases found : Metric.ratio? name with
  | none =>
      rw [found] at agree
      exact agree name List.mem_cons_self
  | some ratio =>
      rw [found] at agree
      have numerator := agree ratio.numerator List.mem_cons_self
      have denominator := agree ratio.denominator (List.mem_cons_of_mem _ List.mem_cons_self)
      have isRatio := (Metric.ratio?_eq_some found).1
      have stored := (isBasic ratio isRatio).trans (isBasic' ratio isRatio).symm
      simp only [Option.elim_some, quotient?, numerator, denominator, stored]

theorem sum?_congr {α : Type} {items : List α} {first second : α → Snapshot}
    (agree : ∀ item ∈ items, (first item).get? name = (second item).get? name) :
    sum? (items.map first) name = sum? (items.map second) name := by
  have same : (items.map first).mapM (fun snapshot : Snapshot => snapshot.get? name) =
      (items.map second).mapM fun snapshot : Snapshot => snapshot.get? name := by
    induction items with
    | nil => rfl
    | cons item rest ih =>
        obtain ⟨own, others⟩ := List.forall_mem_cons.1 agree
        rw [List.map_cons, List.map_cons, List.mapM_cons, List.mapM_cons, own, ih others]
  rw [sum?, sum?, same]

end Snapshot

namespace Agent

variable {agent : Agent}

/-- What an agent makes of the metrics of an entity, fetching those only that it requires. -/
def fetched (agent : Agent) (full : Snapshot) : Snapshot :=
  (full.restrict agent.requiredMetrics).deriveRatios

theorem requires_component {metric component : String}
    (isMentioned : metric ∈ agent.condition.mentions)
    (isComponent : component ∈ Metric.components metric) :
    agent.requiredMetrics.has component = true := by
  have isBase : (Metric.base agent.condition.mentions).has component = true :=
    NameSet.has_ofNames.2 (List.mem_flatMap.2 ⟨metric, isMentioned, isComponent⟩)
  unfold requiredMetrics
  split
  · exact NameSet.has_insert.2 (Or.inr isBase)
  · exact isBase

theorem requires_budget (scales : agent.actions.any Action.scalesBudget = true) :
    agent.requiredMetrics.has "budget" = true := by
  rw [requiredMetrics, if_pos scales]
  exact NameSet.has_insert.2 (Or.inl rfl)

theorem get?_fetched_of_additive {full : Snapshot} {name : String}
    (isAdditive : name ∈ Metric.additive) (isRequired : agent.requiredMetrics.has name = true) :
    (agent.fetched full).get? name = full.deriveRatios.get? name := by
  rw [fetched, Snapshot.get?_deriveRatios_of_additive isAdditive,
    Snapshot.get?_deriveRatios_of_additive isAdditive, Snapshot.get?_restrict, if_pos isRequired]

theorem evaluate_fetched {full : Snapshot} (isBasic : full.IsBasic) :
    agent.condition.evaluate (agent.fetched full) =
      agent.condition.evaluate full.deriveRatios := by
  refine Condition.evaluate_congr fun metric isMentioned => ?_
  refine isBasic.restrict.get?_deriveRatios_congr isBasic fun component isComponent => ?_
  rw [Snapshot.get?_restrict, if_pos (requires_component isMentioned isComponent)]

theorem evaluate_aggregate_fetched (maps : List Snapshot) :
    agent.condition.evaluate (.aggregate (maps.map agent.fetched)) =
      agent.condition.evaluate (.aggregate (maps.map Snapshot.deriveRatios)) := by
  by_cases isNone : maps = []
  · rw [isNone, List.map_nil, List.map_nil]
  have hasOwn : maps.map agent.fetched ≠ [] := mt List.map_eq_nil_iff.1 isNone
  have hasFull : maps.map Snapshot.deriveRatios ≠ [] := mt List.map_eq_nil_iff.1 isNone
  rw [Snapshot.aggregate_eq hasOwn, Snapshot.aggregate_eq hasFull]
  refine Condition.evaluate_congr fun metric isMentioned => ?_
  refine (Snapshot.sums_isBasic _).get?_deriveRatios_congr (Snapshot.sums_isBasic _) ?_
  intro component isComponent
  rw [Snapshot.get?_sums, Snapshot.get?_sums]
  split
  · rename_i isAdditive
    refine Snapshot.sum?_congr fun full _ => ?_
    exact get?_fetched_of_additive isAdditive (requires_component isMentioned isComponent)
  · rfl

/--
Of entities whose metrics store no ratio, it is enough to fetch what an agent
requires: its condition has the same verdict for each of them and for all
together, and if it changes budgets it finds the same.  This holds of every
agent, whether it is accepted or not.
-/
theorem requiredMetrics_suffice (agent : Agent) {maps : List Snapshot}
    (areBasic : ∀ full ∈ maps, full.IsBasic) :
    (∀ full ∈ maps, agent.condition.evaluate (agent.fetched full) =
        agent.condition.evaluate full.deriveRatios) ∧
      agent.condition.evaluate (.aggregate (maps.map agent.fetched)) =
        agent.condition.evaluate (.aggregate (maps.map Snapshot.deriveRatios)) ∧
      (agent.actions.any Action.scalesBudget = true →
        ∀ full ∈ maps, (agent.fetched full).get? "budget" = full.deriveRatios.get? "budget") := by
  refine ⟨fun full isFull => ?_, evaluate_aggregate_fetched maps, fun scales full _ => ?_⟩
  · exact evaluate_fetched (areBasic full isFull)
  · exact get?_fetched_of_additive (by decide) (requires_budget scales)

/-- An agent that lowers the budgets of campaigns that sell enough at too little return. -/
def exampleAgent : Agent where
  id := "a"
  workspace := "w"
  name := "saver"
  status := .active
  scope := ⟨⟨none, .campaign⟩, .all true⟩
  condition := .composite .all [.threshold "roas" .below 1.5, .threshold "conversions" .above 3]
  accumulation := ⟨1, .evaluations, .consecutive, none⟩
  trigger := ⟨.once, 0⟩
  actions := [.scaleBudget { direction := .down, percent := 10, min := none, max := none }]
  createdAt := default
  updatedAt := default
  lastEvaluatedAt := none

def exampleMaps : List Snapshot :=
  [.ofList [("budget", 50), ("clicks", 7), ("conversions", 2), ("revenue", 120), ("spend", 100)],
    .ofList [("budget", 30), ("conversions", 2), ("revenue", 90), ("spend", 50)]]

/-- Only together do the two campaigns sell enough, and the clicks are not asked for. -/
theorem requiredMetrics_suffice_exampleMaps :
    (∀ full ∈ exampleMaps, full.IsBasic) ∧
      exampleAgent.requiredMetrics.keys = ["budget", "conversions", "revenue", "spend"] ∧
      exampleAgent.condition.evaluate (.aggregate (exampleMaps.map exampleAgent.fetched)) =
        .holds ∧
      (∀ full ∈ exampleMaps, exampleAgent.condition.evaluate (exampleAgent.fetched full) =
        exampleAgent.condition.evaluate full.deriveRatios) ∧
      ∀ full ∈ exampleMaps,
        (exampleAgent.fetched full).get? "budget" = full.deriveRatios.get? "budget" := by
  have areBasic : ∀ full ∈ exampleMaps, full.IsBasic := by
    unfold Snapshot.IsBasic
    decide +kernel
  have scales : exampleAgent.actions.any Action.scalesBudget = true := rfl
  obtain ⟨alone, together, budgets⟩ := requiredMetrics_suffice exampleAgent areBasic
  have isFull : exampleAgent.condition.evaluate
      (.aggregate (exampleMaps.map Snapshot.deriveRatios)) = .holds := by
    decide +kernel
  exact ⟨areBasic, by decide +kernel, together.trans isFull, alone, budgets scales⟩

/-- A ratio that is stored without its components is not fetched, and leaves a gap. -/
example :
    let full : Snapshot := .ofList [("conversions", 4), ("roas", 1)]
    exampleAgent.condition.evaluate full.deriveRatios = .holds ∧
      exampleAgent.condition.evaluate (exampleAgent.fetched full) = .unknown "roas" := by
  decide +kernel

end Agent

end AdMonitor
