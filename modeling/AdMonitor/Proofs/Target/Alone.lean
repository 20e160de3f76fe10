import AdMonitor.Proofs.Condition.Acceptance
import AdMonitor.Proofs.Decimal.NegativeZero
import AdMonitor.Proofs.Target.Provider

/-!
# Aggregates of one entity

All entities of a scope together are read in another way than one that is
listed: they come from a listing, their metrics are summed, and ratios are
derived once more from the sums.  If there is only one entity, both ways come to
the same (`Agent.read_alone`).
-/

namespace AdMonitor

/-! ## Sums of one -/

namespace Snapshot

variable {snapshot : Snapshot}

def IsAdditive (snapshot : Snapshot) : Prop :=
  ∀ name, (snapshot.get? name).isSome = true → name ∈ Metric.additive

/-- Negative zero, from which a sum starts, does not change a single value. -/
theorem total_singleton (value : Float) : total [value] = value :=
  Decimal.negativeZero_add value

theorem sums_singleton (isAdditive : snapshot.IsAdditive) :
    sums [snapshot.deriveRatios] = snapshot := by
  refine Table.ext fun name => ?_
  rw [get?_sums]
  split
  · rename_i isOne
    rw [sum?, List.mapM_cons, List.mapM_nil, get?_deriveRatios_of_additive isOne]
    cases snapshot.get? name with
    | none => rfl
    | some value => exact congrArg some (total_singleton value)
  · rename_i isOther
    exact (Option.not_isSome_iff_eq_none.1 fun isSome => isOther (isAdditive name isSome)).symm

theorem aggregate_singleton (isAdditive : snapshot.IsAdditive) :
    aggregate [snapshot.deriveRatios] = snapshot.deriveRatios := by
  rw [aggregate_eq (List.cons_ne_nil _ _), sums_singleton isAdditive]

end Snapshot

/-! ## Readings of one -/

/-- Whether two readings have the same members and decide a condition alike, or are both not
available. -/
def Reading.AgreesOn (condition : Condition) : Reading → Reading → Prop
  | .available snapshot members, .available other others =>
      condition.evaluate snapshot = condition.evaluate other ∧ members = others
  | .unavailable _, .unavailable _ => True
  | _, _ => False

/-- Whether the metrics that are found of entities are among those that an agent requires. -/
def Provider.IsExact (provider : Provider) (limit : Span) (agent : Agent) : Prop :=
  ∀ entity found, provider.Finds limit agent entity found →
    ∀ name, (found.get? name).isSome = true → agent.requiredMetrics.has name = true

/-- An account leaves out all that is not required, unless nothing is. -/
theorem Account.provider_isExact {account : Account} {limit : Span} {agent : Agent}
    (areSome : agent.requiredMetrics.size ≠ 0) : account.provider.IsExact limit agent := by
  intro entity found isFound name isSome
  have answered : account.snapshot? ⟨agent.workspace, entity.id⟩ agent.requiredMetrics =
      some found := Except.ok.inj (Reply.answered.inj isFound)
  obtain ⟨metrics, -, rfl⟩ := Option.map_eq_some_iff.1 answered
  obtain ⟨value, isValue⟩ := Option.isSome_iff_exists.1 isSome
  rw [Table.get?_filter, Option.filter_eq_some_iff, Bool.or_eq_true, beq_iff_eq] at isValue
  exact isValue.2.resolve_left areSome

namespace Agent

variable {provider : Provider} {limit : Span} {agent : Agent} {entity : Entity}

def selecting (agent : Agent) (selection : Selection) : Agent :=
  { agent with scope := { agent.scope with selection } }

/-- Of a single entity the two ways of reading agree, however its fetch comes out. -/
theorem readings_agree (condition : Condition) (isAdditive : ∀ found,
      provider.Finds limit agent entity found → found.IsAdditive) :
    (Reading.ofMembers (provider.members limit agent [entity])).AgreesOn condition
      (.ofEntity entity.id (provider.members limit agent [entity])) := by
  rw [Provider.members, List.map_cons, List.map_nil, Member.collect]
  split
  · trivial
  · trivial
  · rename_i found isFound
    have additive := isAdditive found (Reply.metrics_eq_ok.1 isFound)
    refine ⟨?_, rfl⟩
    exact congrArg condition.evaluate (Snapshot.aggregate_singleton additive)

/--
An agent that was accepted finds the same whether its scope has all entities
together, of which there is only one, or lists this one: the same members and
metrics that decide its condition alike, or no reading at all.  This needs a
provider who answers with required metrics only, and who finds the entity that
it lists.
-/
theorem read_alone [UrlParser] {depth : Nat} (accepted : agent.validate depth = .ok ())
    (isExact : provider.IsExact limit agent) {listed : List Entity}
    (lists : provider limit (.list agent.workspace agent.scope.filter) = .answered (.ok listed))
    (isOnly : listed.filter agent.scope.filter.admits = [entity])
    (finds : provider limit (.entity ⟨agent.workspace, entity.id⟩) =
      .answered (.ok (some entity)))
    {ids : List EntityId} (isListed : entity.id ∈ ids) :
    let together := agent.selecting (.all true)
    let alone := agent.selecting (.listed ids)
    ∃ targets first second,
      (together.resolve limit).consult provider = some (.ok [.aggregate [entity]]) ∧
      (alone.resolve limit).consult provider = some (.ok targets) ∧ .entity entity.id ∈ targets ∧
      (together.read limit (.aggregate [entity])).consult provider = some first ∧
      (alone.read limit (.entity entity.id)).consult provider = some second ∧
      first.AgreesOn agent.condition second := by
  intro together alone
  have admits : agent.scope.filter.admits entity = true :=
    (List.mem_filter.1 (isOnly ▸ List.mem_singleton_self entity)).2
  have resolved : (together.resolve limit).consult provider =
      some (.ok [.aggregate [entity]]) := by
    have resolved : (together.resolve limit).consult provider =
        some (.ok [.aggregate (listed.filter agent.scope.filter.admits)]) :=
      consult_resolve_all rfl lists
    rwa [isOnly] at resolved
  refine ⟨_, _, _, resolved, consult_resolve_listed rfl, ?_,
    consult_readAggregate (List.cons_ne_nil _ _), consult_readEntity finds admits, ?_⟩
  · exact List.mem_map_of_mem (List.mem_eraseDups.2 isListed)
  · refine readings_agree agent.condition fun found isFound name isSome => ?_
    exact requires_additive accepted (isExact entity found isFound name isSome)

attribute [local instance] UrlParser.refusing

/-- The only campaign of an account, whose return is 3 in either way of reading. -/
theorem read_alone_exampleAccount :
    let provider := (Account.ofHoldings [⟨"w", exampleCampaign "x",
      some (.ofList [("clicks", 7), ("revenue", 300), ("spend", 100)]), false⟩]).provider
    let limit : Span := .ofSeconds 5
    gauge.validate 8 = .ok () ∧ provider.IsExact limit gauge ∧
      provider limit (.list "w" gauge.scope.filter) = .answered (.ok [exampleCampaign "x"]) ∧
      provider limit (.entity ⟨"w", "x"⟩) = .answered (.ok (some (exampleCampaign "x"))) ∧
      ∃ snapshot members second,
        ((gauge.selecting (.all true)).read limit (.aggregate [exampleCampaign "x"])).consult
          provider = some (.available snapshot members) ∧
        ((gauge.selecting (.listed ["x"])).read limit (.entity "x")).consult provider =
          some second ∧
        snapshot.get? "roas" = some 3 ∧
        (Reading.available snapshot members).AgreesOn gauge.condition second := by
  intro provider limit
  have isExact : provider.IsExact limit gauge := Account.provider_isExact (by decide +kernel)
  obtain ⟨_, first, second, -, -, -, isFirst, isSecond, agree⟩ :=
    @read_alone provider limit gauge (exampleCampaign "x") _ 8 rfl isExact [exampleCampaign "x"]
      rfl rfl rfl ["x"] List.mem_cons_self
  obtain rfl := Option.some.inj isFirst
  exact ⟨rfl, isExact, rfl, rfl, _, _, second, rfl, isSecond, by decide +kernel, agree⟩

end Agent

end AdMonitor
