import AdMonitor.Proofs.Interleaving.Solo

/-!
# Keys of targets

Within one resolution keys tell targets apart: there is either the aggregate
alone, or one target for each listed id, in the order in which the ids are
listed first.  Between an aggregate and an entity the key decides as long as no
entity is listed under the key of the aggregate (`Scope.IsUnambiguous`), and
nothing keeps an agent from doing so.
-/

namespace AdMonitor

/-! ## First occurrences -/

section FirstOccurrence

variable {α : Type} [BEq α] [LawfulBEq α]

/-- Of two elements that pass a test, the one that is first among those that pass is first. -/
theorem idxOf_lt_of_filter (test : α → Bool) {all : List α} {first second : α}
    (passes : test first = true) (passes' : test second = true)
    (isEarlier : (all.filter test).idxOf first < (all.filter test).idxOf second) :
    all.idxOf first < all.idxOf second := by
  induction all with
  | nil => exact isEarlier
  | cons head rest ih => grind

/-- What is left when repetitions are erased stands in the order of its first occurrences. -/
theorem eraseDups_inOrder (all : List α) :
    all.eraseDups.Pairwise fun first second => all.idxOf first < all.idxOf second := by
  match all with
  | [] => simp
  | head :: rest =>
      have inOrder := eraseDups_inOrder (rest.filter fun other => !other == head)
      rw [List.eraseDups_cons, List.pairwise_cons]
      constructor
      · intro other found
        have differs := (List.mem_filter.1 (List.mem_eraseDups.1 found)).2
        grind
      · refine inOrder.imp_of_mem fun {first second} isFirst isSecond isEarlier => ?_
        have differs := (List.mem_filter.1 (List.mem_eraseDups.1 isFirst)).2
        have differs' := (List.mem_filter.1 (List.mem_eraseDups.1 isSecond)).2
        have inRest := idxOf_lt_of_filter (!· == head) differs differs' isEarlier
        grind
termination_by all.length
decreasing_by exact Nat.lt_succ_of_le (List.length_filter_le ..)

end FirstOccurrence

/-! ## Targets -/

namespace Target

variable {target : Target}

theorem key_of_isAggregate (isAggregate : target.isAggregate = true) :
    target.key = TargetKey.aggregate := by
  cases target with
  | aggregate members => rfl
  | entity id => cases isAggregate

end Target

/-- Whether no entity of a scope is listed under the key that all entities together have. -/
def Scope.IsUnambiguous (scope : Scope) : Prop :=
  TargetKey.aggregate ∉ scope.distinctIds

namespace Agent

variable {agent : Agent} {limit : Span} {lookup : List Exchange} {targets : List Target}

/-- What a resolution comes to when it succeeds. -/
theorem targets_of_resolve (resolves : (agent.resolve limit).Ends lookup (.ok targets)) :
    agent.scope.selection = .all true ∧ (∃ members, targets = [.aggregate members]) ∨
      ∃ ids, agent.scope.selection = .listed ids ∧ targets = ids.eraseDups.map .entity := by
  unfold resolve at resolves
  split at resolves
  · rename_i isAll
    obtain ⟨reply, later, rfl, goesOn⟩ := Program.ends_ask_iff.1 resolves
    split at goesOn
    · cases (Program.ends_done_iff.1 goesOn).2
    · cases (Program.ends_done_iff.1 goesOn).2
      exact Or.inl ⟨isAll, _, rfl⟩
  · cases (Program.ends_done_iff.1 resolves).2
  · rename_i ids isListed
    cases (Program.ends_done_iff.1 resolves).2
    exact Or.inr ⟨ids, isListed, by rw [Scope.distinctIds, isListed]⟩

/-- Keys tell the aggregate from entities just when no entity is listed under its key. -/
theorem keys_decide_iff (resolves : (agent.resolve limit).Ends lookup (.ok targets)) :
    (∀ target ∈ targets, target.key = TargetKey.aggregate ↔ target.isAggregate = true) ↔
      agent.scope.IsUnambiguous := by
  rcases targets_of_resolve resolves with ⟨isAll, members, rfl⟩ | ⟨ids, isListed, rfl⟩
  · refine iff_of_true (List.forall_mem_singleton.2 (iff_of_true rfl rfl)) ?_
    rw [Scope.IsUnambiguous, Scope.distinctIds, isAll]
    exact List.not_mem_nil
  · rw [Scope.IsUnambiguous, Scope.distinctIds, isListed, List.forall_mem_map]
    constructor
    · intro decides reserved
      cases (decides _ reserved).1 rfl
    · intro unreserved id found
      refine iff_of_false (fun same => ?_) Bool.false_ne_true
      exact unreserved (same ▸ found)

/--
The keys of the targets that are found for an agent differ.  Those of a scope
that lists entities are the listed ids, each once and in the order in which they
first occur.  A key is that of the aggregate just when its target is, for all
targets of an agent whose scope is unambiguous and for no others; a visit of
such an agent takes up what the visit of an aggregate has stored only for the
aggregate itself, whatever scope the agent had before.  This holds of every
agent, whether it is accepted or not.
-/
theorem resolve_tellsApart (resolves : (agent.resolve limit).Ends lookup (.ok targets)) :
    (targets.map Target.key).Nodup ∧
      (∀ ids, agent.scope.selection = .listed ids → ∃ found : List EntityId,
        targets = found.map .entity ∧ (∀ id, id ∈ found ↔ id ∈ ids) ∧
          found.Pairwise fun first second => ids.idxOf first < ids.idxOf second) ∧
      ((∀ target ∈ targets, target.key = TargetKey.aggregate ↔ target.isAggregate = true) ↔
        agent.scope.IsUnambiguous) ∧
      (agent.scope.IsUnambiguous → ∀ visit earlier : Visit, visit.agent = agent →
        visit.target ∈ targets → earlier.target.isAggregate = true → visit.key = earlier.key →
          visit.target.isAggregate = true) := by
  refine ⟨?_, fun ids isListed => ?_, keys_decide_iff resolves,
    fun isUnambiguous visit earlier isOwn isTarget isAggregate sameKey => ?_⟩
  · rw [((resolve_uses limit agent).leads resolves).2 targets rfl]
    exact agent.scope.targetKeys_nodup
  · rcases targets_of_resolve resolves with ⟨isAll, -⟩ | ⟨own, isOwn, rfl⟩
    · cases isAll.symm.trans isListed
    · obtain rfl : own = ids := Selection.listed.inj (isOwn.symm.trans isListed)
      exact ⟨_, rfl, fun id => List.mem_eraseDups, eraseDups_inOrder own⟩
  · refine ((keys_decide_iff resolves).2 isUnambiguous _ isTarget).1 ?_
    calc visit.target.key = earlier.target.key := congrArg StateKey.target sameKey
      _ = TargetKey.aggregate := Target.key_of_isAggregate isAggregate

def exampleListing : Agent :=
  { watcher with scope := ⟨⟨none, .campaign⟩, .listed ["y", "x", "y"]⟩ }

/-- Whatever a visit of an aggregate has stored, neither campaign takes it up. -/
theorem resolve_tellsApart_exampleListing :
    let targets : List Target := [.entity "y", .entity "x"]
    (exampleListing.resolve (.ofSeconds 5)).Ends [] (.ok targets) ∧
      exampleListing.scope.IsUnambiguous ∧
      (targets.map Target.key).Nodup ∧
      ∀ slot members,
        (⟨.standard, slot, exampleListing, .entity "x"⟩ : Visit).key ≠
          (⟨.standard, slot, watcher, .aggregate members⟩ : Visit).key := by
  intro targets
  have resolves : (exampleListing.resolve (.ofSeconds 5)).Ends [] (.ok targets) := .start
  obtain ⟨nodup, -, -, apart⟩ := resolve_tellsApart resolves
  have isUnambiguous : exampleListing.scope.IsUnambiguous := by
    rw [Scope.IsUnambiguous]
    decide
  refine ⟨resolves, isUnambiguous, nodup, fun slot members sameKey => ?_⟩
  cases apart isUnambiguous _ _ rfl (List.mem_cons_of_mem _ List.mem_cons_self) rfl sameKey

/-- An agent that lists an entity whose id is the key of the aggregate. -/
def exampleReserved : Agent :=
  { watcher with scope := ⟨⟨none, .campaign⟩, .listed [TargetKey.aggregate]⟩ }

attribute [local instance] UrlParser.refusing

/--
The agent is accepted, and so was it when it had all entities together.  What
was stored then keeps the entity from firing, which would fire on its own.
-/
theorem resolve_confuses_exampleReserved :
    let all : Agent := { watcher with scope := ⟨⟨none, .campaign⟩, .all true⟩ }
    let earlier : Visit := ⟨.standard, ⟨1, ⟨0, 0⟩⟩, all, .aggregate []⟩
    let visit : Visit := ⟨.standard, ⟨2, ⟨900, 0⟩⟩, exampleReserved, .entity TargetKey.aggregate⟩
    let snapshot : Snapshot := .ofList [("spend", 150)]
    let decides (state : TargetState) : Option Decision :=
      (visit.step state snapshot).map Visit.Step.decision
    all.validate 8 = .ok () ∧ exampleReserved.validate 8 = .ok () ∧
      (exampleReserved.resolve (.ofSeconds 5)).Ends [] (.ok [visit.target]) ∧
      visit.key = earlier.key ∧
      earlier.target.isAggregate = true ∧ visit.target.isAggregate = false ∧
      decides visit.freshState = some .fire ∧
      ∃ before, earlier.step earlier.freshState snapshot = some before ∧
        decides before.state = some (.suppressed .alreadyFired) := by
  intro all earlier visit snapshot decides
  have isListed : [visit.target] = exampleReserved.scope.distinctIds.map .entity := by decide
  refine ⟨rfl, rfl, ?_, rfl, rfl, rfl, ?_, ?_⟩
  · rw [isListed]
    exact .start
  · decide +kernel
  · exact ⟨_, rfl, by decide +kernel⟩

end Agent

end AdMonitor
