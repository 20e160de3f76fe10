import AdMonitor.Proofs.Condition.Acceptance
import AdMonitor.Proofs.Target.Provider

/-!
# Gaps in aggregates

An aggregate has an additive metric just when all entities whose metrics were
found have it (`Agent.read_keepsGaps`).  An entity that lacks the metric in its
metrics therefore leaves a gap, which no condition on the metric or its ratios
decides; but an entity without any metrics is left out, and the others decide
without it.
-/

namespace AdMonitor

/-! ## Sums with gaps -/

namespace Snapshot

variable {parts : List Snapshot} {name metric : String}

/-- A metric is summed just when no part lacks it. -/
theorem sum?_isSome_iff : (sum? parts name).isSome = true ↔
    ∀ part ∈ parts, (part.get? name).isSome = true := by
  rw [sum?, Option.isSome_map]
  induction parts with
  | nil => exact iff_of_true rfl (List.forall_mem_nil _)
  | cons part rest ih =>
      rw [List.forall_mem_cons, ← ih, List.mapM_cons]
      cases part.get? name with
      | none => simp
      | some value => cases rest.mapM fun part : Snapshot => part.get? name <;> simp

theorem get?_aggregate_isSome_iff (areSome : parts ≠ []) (isAdditive : metric ∈ Metric.additive) :
    ((aggregate parts).get? metric).isSome = true ↔
      ∀ part ∈ parts, (part.get? metric).isSome = true := by
  rw [aggregate_eq areSome, get?_deriveRatios_of_additive isAdditive, get?_sums,
    if_pos isAdditive, sum?_isSome_iff]

/-- Without one of its components there is no ratio in an aggregate. -/
theorem get?_aggregate_of_component (areSome : parts ≠ [])
    (missing : (aggregate parts).get? metric = none)
    (isComponent : metric ∈ Metric.components name) : (aggregate parts).get? name = none := by
  rw [Metric.components_eq] at isComponent
  cases found : Metric.ratio? name with
  | none =>
      rw [found] at isComponent
      exact List.mem_singleton.1 isComponent ▸ missing
  | some ratio =>
      rw [found] at isComponent
      have quotients := (aggregate_isAggregate areSome).quotients name ratio
        (Metric.kind?_eq_ratio_iff.2 found)
      refine Option.eq_none_iff_forall_ne_some.2 fun quotient isQuotient => ?_
      obtain ⟨numerator, denominator, isNumerator, isDenominator, -⟩ :=
        (quotients quotient).1 isQuotient
      rcases List.mem_cons.1 isComponent with rfl | isComponent
      · cases missing.symm.trans isNumerator
      · cases List.mem_singleton.1 isComponent
        cases missing.symm.trans isDenominator

end Snapshot

/-! ## Readings with gaps -/

def Reading.Provides (reading : Reading) (metric : String) : Prop :=
  ∃ snapshot members, reading = .available snapshot members ∧
    (snapshot.get? metric).isSome = true

theorem Reading.ofMembers_provides_iff {found : Except Failure (List Member)} {metric : String}
    (isAdditive : metric ∈ Metric.additive) : (ofMembers found).Provides metric ↔
      ∃ members, found = .ok members ∧ members ≠ [] ∧
        ∀ member ∈ members, (member.snapshot.get? metric).isSome = true := by
  constructor
  · rintro ⟨snapshot, members, isRead, isSome⟩
    obtain ⟨rfl, areSome, rfl⟩ := of_ofMembers isRead
    have areParts : members.map Member.snapshot ≠ [] := mt List.map_eq_nil_iff.1 areSome
    rw [Snapshot.get?_aggregate_isSome_iff areParts isAdditive, List.forall_mem_map] at isSome
    exact ⟨members, rfl, areSome, isSome⟩
  · rintro ⟨members, rfl, areSome, isSome⟩
    have areParts : members.map Member.snapshot ≠ [] := mt List.map_eq_nil_iff.1 areSome
    obtain ⟨first, rest, rfl⟩ := List.exists_cons_of_ne_nil areSome
    refine ⟨_, _, rfl, ?_⟩
    rwa [Snapshot.get?_aggregate_isSome_iff areParts isAdditive, List.forall_mem_map]

namespace Provider

variable {provider : Provider} {limit : Span} {agent : Agent} {entities : List Entity}

/-- Whether there is no value of a metric, be it that an entity has no metrics at all or that
they lack this one. -/
def Lacks (provider : Provider) (limit : Span) (agent : Agent) (entity : Entity)
    (metric : String) : Prop :=
  ∃ found : Option Snapshot, provider.metricsOf limit agent entity = .answered (.ok found) ∧
    (found.bind fun snapshot : Snapshot => snapshot.get? metric) = none

theorem members_eq_ok_iff {found : List Member} :
    provider.members limit agent entities = .ok found ↔
      (∀ entity ∈ entities, (provider.metricsOf limit agent entity).succeeds = true) ∧
        found = entities.filterMap fun entity =>
          Member.ofFetch? (entity, provider.metricsOf limit agent entity) := by
  rw [members, Member.collect_eq_ok_iff, List.forall_mem_map, List.filterMap_map]
  rfl

/-- The members are the entities whose metrics are found. -/
theorem mem_members {found : List Member}
    (collected : provider.members limit agent entities = .ok found) (member : Member) :
    member ∈ found ↔ ∃ entity ∈ entities, ∃ snapshot, provider.Finds limit agent entity snapshot ∧
      member = ⟨entity, snapshot.deriveRatios⟩ := by
  obtain ⟨-, rfl⟩ := members_eq_ok_iff.1 collected
  rw [List.mem_filterMap]
  refine exists_congr fun entity => and_congr_right fun _ => ?_
  constructor
  · intro isMember
    obtain ⟨snapshot, isFetch, derived⟩ := Member.ofFetch?_eq_some isMember
    obtain ⟨rfl, finds⟩ := Prod.mk.inj isFetch
    exact ⟨snapshot, finds, derived ▸ rfl⟩
  · rintro ⟨snapshot, finds, rfl⟩
    rw [finds]
    rfl

theorem members_ne_nil_iff {found : List Member}
    (collected : provider.members limit agent entities = .ok found) :
    found ≠ [] ↔ ∃ entity ∈ entities, ∃ snapshot, provider.Finds limit agent entity snapshot := by
  constructor
  · intro areSome
    obtain ⟨member, isMember⟩ := List.exists_mem_of_ne_nil found areSome
    obtain ⟨entity, isOne, snapshot, finds, -⟩ := (mem_members collected member).1 isMember
    exact ⟨entity, isOne, snapshot, finds⟩
  · rintro ⟨entity, isOne, snapshot, finds⟩
    exact List.ne_nil_of_mem ((mem_members collected _).2 ⟨entity, isOne, snapshot, finds, rfl⟩)

/-- The members have an additive metric when what is found has it. -/
theorem members_provide_iff {found : List Member} {metric : String}
    (collected : provider.members limit agent entities = .ok found)
    (isAdditive : metric ∈ Metric.additive) :
    (∀ member ∈ found, (member.snapshot.get? metric).isSome = true) ↔
      ∀ entity ∈ entities, ∀ snapshot, provider.Finds limit agent entity snapshot →
        (snapshot.get? metric).isSome = true := by
  constructor
  · intro provide entity isOne snapshot finds
    have isMember := (mem_members collected _).2 ⟨entity, isOne, snapshot, finds, rfl⟩
    have provided := provide _ isMember
    rwa [Snapshot.get?_deriveRatios_of_additive isAdditive] at provided
  · intro provide member isMember
    obtain ⟨entity, isOne, snapshot, finds, rfl⟩ := (mem_members collected member).1 isMember
    rw [Snapshot.get?_deriveRatios_of_additive isAdditive]
    exact provide entity isOne snapshot finds

end Provider

namespace Agent

variable {provider : Provider} {limit : Span} {agent : Agent} {entities : List Entity}
  {metric : String} {reading : Reading} {condition : Condition}

/-- An available reading of some entities is made of their members, of which there are some. -/
theorem aggregate_of_consult {snapshot : Snapshot} {members : List Member}
    (isRead : (agent.read limit (.aggregate entities)).consult provider =
      some (.available snapshot members)) :
    provider.members limit agent entities = .ok members ∧ members ≠ [] ∧
      snapshot = Snapshot.aggregate (members.map Member.snapshot) := by
  cases entities with
  | nil => cases isRead
  | cons first rest =>
      rw [read, consult_readAggregate (List.cons_ne_nil _ _)] at isRead
      exact Reading.of_ofMembers (Option.some.inj isRead)

/-- Without a metric no condition can be decided that mentions nothing but the metric and its
ratios. -/
theorem evaluate_of_gap {snapshot : Snapshot} {members : List Member}
    (isRead : (agent.read limit (.aggregate entities)).consult provider =
      some (.available snapshot members))
    (missing : snapshot.get? metric = none) (accepted : condition.checkNodes = .ok ())
    (isOnly : ∀ name ∈ condition.mentions, metric ∈ Metric.components name) :
    ∃ gap, condition.evaluate snapshot = .unknown gap := by
  obtain ⟨-, areSome, rfl⟩ := aggregate_of_consult isRead
  refine Condition.evaluate_of_missing accepted fun name isMentioned => ?_
  exact Snapshot.get?_aggregate_of_component (mt List.map_eq_nil_iff.1 areSome) missing
    (isOnly name isMentioned)

theorem read_provides_iff (isAdditive : metric ∈ Metric.additive) : ∃ reading,
    (agent.read limit (.aggregate entities)).consult provider = some reading ∧
      (reading.Provides metric ↔
        (∀ entity ∈ entities, (provider.metricsOf limit agent entity).succeeds = true) ∧
        (∃ entity ∈ entities, ∃ found, provider.Finds limit agent entity found) ∧
        ∀ entity ∈ entities, ∀ found, provider.Finds limit agent entity found →
          (found.get? metric).isSome = true) := by
  by_cases areSome : entities = []
  · subst areSome
    refine ⟨_, rfl, iff_of_false ?_ ?_⟩
    · rintro ⟨snapshot, members, wrong, -⟩
      cases wrong
    · rintro ⟨-, ⟨entity, isOne, -⟩, -⟩
      cases isOne
  · refine ⟨_, consult_readAggregate areSome, ?_⟩
    rw [Reading.ofMembers_provides_iff isAdditive]
    constructor
    · rintro ⟨members, collected, areMembers, provide⟩
      exact ⟨(Provider.members_eq_ok_iff.1 collected).1,
        (Provider.members_ne_nil_iff collected).1 areMembers,
        (Provider.members_provide_iff collected isAdditive).1 provide⟩
    · rintro ⟨succeed, areFound, provide⟩
      have collected := Provider.members_eq_ok_iff.2 ⟨succeed, rfl⟩
      exact ⟨_, collected, (Provider.members_ne_nil_iff collected).2 areFound,
        (Provider.members_provide_iff collected isAdditive).2 provide⟩

/--
The reading of several entities has an additive metric just when no fetch of
their metrics fails, some metrics are found, and all that are found have this
one.  When each entity has metrics, one that lacks the metric therefore keeps it
from the reading; then no accepted condition is decided that mentions only the
metric and its ratios.
-/
theorem read_keepsGaps (isAdditive : metric ∈ Metric.additive) : ∃ reading,
    (agent.read limit (.aggregate entities)).consult provider = some reading ∧
      (reading.Provides metric ↔
        (∀ entity ∈ entities, (provider.metricsOf limit agent entity).succeeds = true) ∧
        (∃ entity ∈ entities, ∃ found, provider.Finds limit agent entity found) ∧
        ∀ entity ∈ entities, ∀ found, provider.Finds limit agent entity found →
          (found.get? metric).isSome = true) ∧
      ((∀ entity ∈ entities, provider.metricsOf limit agent entity ≠ .answered (.ok none)) →
        (∃ entity ∈ entities, provider.Lacks limit agent entity metric) →
          ¬ reading.Provides metric) ∧
      (¬ reading.Provides metric → ∀ snapshot members, reading = .available snapshot members →
        ∀ condition : Condition, condition.checkNodes = .ok () →
          (∀ name ∈ condition.mentions, metric ∈ Metric.components name) →
            ∃ gap, condition.evaluate snapshot = .unknown gap) := by
  obtain ⟨reading, isRead, provides⟩ := read_provides_iff isAdditive
  refine ⟨reading, isRead, provides, ?_, ?_⟩
  · rintro areFound ⟨entity, isOne, found, isReply, lacks⟩ provided
    cases found with
    | none => exact areFound entity isOne isReply
    | some found =>
        have isSome := (provides.1 provided).2.2 entity isOne found isReply
        rw [Option.bind_some] at lacks
        rw [lacks] at isSome
        cases isSome
  · rintro unprovided snapshot members rfl condition accepted isOnly
    have missing : snapshot.get? metric = none := by
      refine Option.not_isSome_iff_eq_none.1 fun isSome => unprovided ?_
      exact ⟨snapshot, members, rfl, isSome⟩
    exact evaluate_of_gap isRead missing accepted isOnly

/-- Two campaigns, of which the first has revenue and spend, and the second some metrics or none. -/
def exampleAccount (metrics : Option Snapshot) : Account :=
  .ofHoldings [⟨"w", exampleCampaign "x", some (.ofList [("revenue", 300), ("spend", 100)]), false⟩,
    ⟨"w", exampleCampaign "y", metrics, false⟩]

/-- The second campaign spends without any revenue on record, so the return stays unknown. -/
theorem read_keepsGaps_exampleAccount :
    let provider := (exampleAccount (some (.ofList [("spend", 50)]))).provider
    let entities := [exampleCampaign "x", exampleCampaign "y"]
    let limit : Span := .ofSeconds 5
    "revenue" ∈ Metric.additive ∧
      (∀ entity ∈ entities, provider.metricsOf limit gauge entity ≠ .answered (.ok none)) ∧
      provider.Lacks limit gauge (exampleCampaign "y") "revenue" ∧
      ∃ snapshot members,
        (gauge.read limit (.aggregate entities)).consult provider =
          some (.available snapshot members) ∧
        snapshot.get? "spend" = some 150 ∧ snapshot.get? "revenue" = none ∧
        ∃ gap, gauge.condition.evaluate snapshot = .unknown gap := by
  intro provider entities limit
  have isAdditive : "revenue" ∈ Metric.additive := by decide
  have areHeld : ∀ entity ∈ entities,
      ((exampleAccount (some (.ofList [("spend", 50)]))).snapshot? ⟨"w", entity.id⟩
        gauge.requiredMetrics).isSome = true := by
    decide +kernel
  have areFound : ∀ entity ∈ entities,
      provider.metricsOf limit gauge entity ≠ .answered (.ok none) := by
    intro entity isOne same
    exact Option.isSome_iff_ne_none.1 (areHeld entity isOne)
      (Except.ok.inj (Reply.answered.inj same))
  have lacks : provider.Lacks limit gauge (exampleCampaign "y") "revenue" :=
    ⟨_, rfl, by decide +kernel⟩
  have isOne : exampleCampaign "y" ∈ entities := List.mem_cons_of_mem _ List.mem_cons_self
  obtain ⟨reading, isRead, -, keeps, undecided⟩ :=
    @read_keepsGaps provider limit gauge entities "revenue" isAdditive
  have unprovided := keeps areFound ⟨_, isOne, lacks⟩
  refine ⟨isAdditive, areFound, lacks, _, _, rfl, ?_, ?_, ?_⟩
  · decide +kernel
  · decide +kernel
  · exact undecided unprovided _ _ (Option.some.inj (isRead.symm.trans rfl)) gauge.condition rfl
      (by decide)

attribute [local instance] UrlParser.refusing

/--
The second campaign is held, listed and found, but has no metrics.  The reading
takes the first campaign for both, and the condition holds.
-/
theorem read_skips_exampleAccount :
    let provider := (exampleAccount none).provider
    let entities := [exampleCampaign "x", exampleCampaign "y"]
    let limit : Span := .ofSeconds 5
    gauge.validate 8 = .ok () ∧
      provider limit (.list "w" gauge.scope.filter) = .answered (.ok entities) ∧
      provider limit (.entity ⟨"w", "y"⟩) = .answered (.ok (some (exampleCampaign "y"))) ∧
      (gauge.resolve limit).consult provider = some (.ok [.aggregate entities]) ∧
      provider.Lacks limit gauge (exampleCampaign "y") "revenue" ∧
      ∃ snapshot members,
        (gauge.read limit (.aggregate entities)).consult provider =
          some (.available snapshot members) ∧
        snapshot.get? "revenue" = some 300 ∧ gauge.condition.evaluate snapshot = .holds := by
  intro provider entities limit
  refine ⟨rfl, ?_, ?_, ?_, ⟨_, rfl, ?_⟩, _, _, rfl, ?_, ?_⟩
  · rfl
  · rfl
  · rfl
  · decide +kernel
  · decide +kernel
  · decide +kernel

end Agent

end AdMonitor
