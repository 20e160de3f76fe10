import AdMonitor.Simulation.World

/-!
# What the ad platform leaves alone

Entities are held by workspace, but the ad platform knows a campaign by its
bare id.  A request to it changes nothing except the flag or the budget of a
campaign with that id, in whatever workspace, and the entities of the account
stay what and where they are (`PlatformQuery.answer_keeps`).
-/

namespace AdMonitor

def PlatformChange.apply (holding : Holding) : PlatformChange → Holding
  | .budget _ value => holding.setMetric "budget" value
  | .paused _ flag => holding.setPaused flag

theorem PlatformChange.entity_apply (change : PlatformChange) (holding : Holding) :
    (change.apply holding).entity = holding.entity := by
  cases change <;> rfl

theorem PlatformChange.key_apply (change : PlatformChange) (holding : Holding) :
    (change.apply holding).key = holding.key := by
  cases change <;> rfl

namespace Account

variable {α : Type} {view : Holding → α} {touched wider : CampaignId → Prop}
  {first middle account : Account} {key : EntityKey}

/-- Whether what is held under a key is none of some campaigns. -/
def Spares (account : Account) (touched : CampaignId → Prop) (key : EntityKey) : Prop :=
  ∀ holding, account.holdings.get? key = some holding →
    ∀ id, touched id → holding.isCampaign id = false

theorem Spares.congr (spares : first.Spares touched key)
    (same : account.entity? key = first.entity? key) : account.Spares touched key := by
  intro holding found id isTouched
  rw [entity?, found] at same
  obtain ⟨other, isOther, sameEntity⟩ := Option.map_eq_some_iff.1 same.symm
  have isSpared := spares other isOther id isTouched
  rwa [Holding.isCampaign, sameEntity] at isSpared

/-- Whether an account comes from another by changes that, but for some campaigns, cannot be seen in
a view of what is held. -/
structure Keeps (view : Holding → α) (touched : CampaignId → Prop) (first account : Account) :
    Prop where
  entities : ∀ key, account.entity? key = first.entity? key
  spared : ∀ key, first.Spares touched key →
    (account.holdings.get? key).map view = (first.holdings.get? key).map view

namespace Keeps

theorem refl : account.Keeps view touched account := ⟨fun _ => rfl, fun _ _ => rfl⟩

theorem trans (keeps : first.Keeps view touched middle)
    (goesOn : middle.Keeps view touched account) : first.Keeps view touched account where
  entities key := (goesOn.entities key).trans (keeps.entities key)
  spared key spares := by
    have spares' := spares.congr (keeps.entities key)
    exact (goesOn.spared key spares').trans (keeps.spared key spares)

end Keeps

/-- A change of one holding cannot be seen, or it is one of a campaign. -/
theorem modify_keeps {change : Holding → Holding}
    (sameKey : ∀ holding, (change holding).key = holding.key)
    (sameEntity : ∀ holding, (change holding).entity = holding.entity)
    (isSeen : ∀ holding, account.holdings.get? key = some holding →
      view (change holding) = view holding ∨ ∃ id, touched id ∧ holding.isCampaign id = true) :
    account.Keeps view touched (account.modify key change sameKey) where
  entities other := by
    rw [entity?, modify, Table.get?_modify]
    split
    · rw [Option.map_map]
      exact congrArg (Option.map · _) (funext sameEntity)
    · rfl
  spared other spares := by
    rw [modify, Table.get?_modify]
    split
    · next same =>
      subst same
      cases found : account.holdings.get? other with
      | none => rfl
      | some holding =>
          rcases isSeen holding found with unseen | ⟨id, isTouched, isCampaign⟩
          · exact congrArg some unseen
          · cases (spares holding found id isTouched).symm.trans isCampaign
    · rfl

theorem isCampaign_of_campaignKey? {id : CampaignId} (found : account.campaignKey? id = some key)
    {holding : Holding} (isHeld : account.holdings.get? key = some holding) :
    holding.isCampaign id = true := by
  obtain ⟨entry, isFirst, rfl⟩ := Option.map_eq_some_iff.1 found
  have isOwn := Table.get?_eq_some_iff.2 (List.mem_of_find?_eq_some isFirst)
  have isMatch := List.find?_some isFirst
  cases isHeld.symm.trans isOwn
  exact isMatch

theorem commit_keeps {change : PlatformChange}
    (isSeen : (∀ holding, view (change.apply holding) = view holding) ∨ touched change.campaign) :
    account.Keeps view touched (PlatformQuery.commit account
      (account.modifyCampaign change.campaign change.apply change.key_apply)).2 := by
  rw [modifyCampaign]
  split
  · exact .refl
  · next key found =>
    refine modify_keeps change.key_apply change.entity_apply fun holding isHeld => ?_
    rcases isSeen with unseen | isTouched
    · exact Or.inl (unseen holding)
    · exact Or.inr ⟨_, isTouched, isCampaign_of_campaignKey? found isHeld⟩

/-! ### Listings -/

/-- What is held comes in the order of workspaces, and of ids within each. -/
theorem values_sorted (account : Account) :
    account.holdings.values.Pairwise fun a b => compare a.key b.key = .lt := by
  refine List.pairwise_map.2 (account.holdings.sorted.imp_of_mem ?_)
  intro first later isFirst isLater less
  rw [account.keyed first.1 first.2 (Table.get?_eq_some_iff.2 isFirst),
    account.keyed later.1 later.2 (Table.get?_eq_some_iff.2 isLater)]
  exact less

/-- Entities are listed in the order of their ids. -/
theorem list_sorted (account : Account) (workspace : WorkspaceId) (filter : EntityFilter) :
    (account.list workspace filter).Pairwise fun a b => compare a.id b.id = .lt := by
  refine List.pairwise_map.2 ((account.values_sorted.filter _).imp_of_mem ?_)
  intro first later isFirst isLater less
  have isOwn := eq_of_beq (Bool.and_eq_true_iff.1 (List.mem_filter.1 isFirst).2).1
  have isSame := eq_of_beq (Bool.and_eq_true_iff.1 (List.mem_filter.1 isLater).2).1
  rwa [Holding.key, Holding.key, isOwn, isSame, EntityKey.compare_entity] at less

/-- Entities that are listed of a workspace are held in it. -/
theorem exists_of_mem_list {workspace : WorkspaceId} {filter : EntityFilter} {entity : Entity}
    (isListed : entity ∈ account.list workspace filter) :
    ∃ id, account.entity? ⟨workspace, id⟩ = some entity := by
  obtain ⟨holding, isKept, rfl⟩ := List.mem_map.1 isListed
  obtain ⟨isOne, passes⟩ := List.mem_filter.1 isKept
  obtain ⟨⟨key, _⟩, isEntry, rfl⟩ := List.mem_map.1 isOne
  have isHeld := Table.get?_eq_some_iff.2 isEntry
  obtain rfl := account.keyed key _ isHeld
  obtain rfl := eq_of_beq (Bool.and_eq_true_iff.1 passes).1
  exact ⟨_, congrArg (Option.map _) isHeld⟩

end Account

/-- A request to the ad platform makes no change but the one that it asks for, and this one to a
campaign with the id that it names. -/
theorem PlatformQuery.answer_keeps {α : Type} {view : Holding → α} {touched : CampaignId → Prop}
    (account : Account) (query : PlatformQuery)
    (isSeen : ∀ change, query.change? = some change →
      (∀ holding, view (change.apply holding) = view holding) ∨ touched change.campaign) :
    account.Keeps view touched (query.answer account).2 := by
  cases query with
  | currentBudget campaign => exact .refl
  | updateBudget campaign budget =>
      rw [answer, Account.updateBudget]
      split
      · exact .refl
      · exact Account.commit_keeps (isSeen _ rfl)
  | setPaused campaign paused => exact Account.commit_keeps (isSeen _ rfl)

end AdMonitor
