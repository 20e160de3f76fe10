import AdMonitor.Account.File
import AdMonitor.Proofs.Account.Frame
import AdMonitor.Proofs.Stepwise
import Mathlib.Data.List.Induction
import Mathlib.Data.List.Nodup
import Mathlib.Logic.Function.Basic

/-!
# Changes of campaigns

The ad platform scans the entities of all workspaces for a campaign.  Where no
two campaigns share an id, the scan finds the one with the id in whatever order
it goes.  So a change is made to this campaign alone or to nothing at all, and
it is read until the next one is made (`CampaignCall.calls_changeCampaigns`).
-/

namespace AdMonitor

namespace Account

variable {account : Account} {key other : EntityKey} {holding : Holding} {id : CampaignId}
  {change : Holding → Holding} (sameKey : ∀ holding, (change holding).key = holding.key)

/-! ## The campaign with an id -/

def campaigns (account : Account) : List (EntityKey × Holding) :=
  account.holdings.entries.filter fun e => e.2.entity.level == .campaign

/-- Whether no two campaigns have the same id; entities of other levels may share it. -/
def HasDistinctCampaigns (account : Account) : Prop :=
  (account.campaigns.map fun e => e.2.entity.id).Nodup

instance (account : Account) : Decidable account.HasDistinctCampaigns :=
  inferInstanceAs (Decidable (List.Nodup _))

def HasCampaign (account : Account) (id : CampaignId) : Prop :=
  ∃ key entity, account.entity? key = some entity ∧ entity.level = .campaign ∧ entity.id = id

theorem hasCampaign_iff : account.HasCampaign id ↔
    ∃ key holding, account.holdings.get? key = some holding ∧ holding.isCampaign id = true := by
  constructor
  · rintro ⟨key, entity, found, isCampaign, rfl⟩
    obtain ⟨holding, isHeld, rfl⟩ := Option.map_eq_some_iff.1 found
    exact ⟨key, holding, isHeld, by simp [Holding.isCampaign, isCampaign]⟩
  · rintro ⟨key, holding, isHeld, isCampaign⟩
    obtain ⟨isLevel, isOwn⟩ := Bool.and_eq_true_iff.1 isCampaign
    exact ⟨key, holding.entity, by rw [entity?, isHeld]; rfl, eq_of_beq isLevel, eq_of_beq isOwn⟩

theorem exists_of_campaignKey? (found : account.campaignKey? id = some key) :
    ∃ holding, account.holdings.get? key = some holding ∧ holding.isCampaign id = true := by
  obtain ⟨entry, isFirst, rfl⟩ := Option.map_eq_some_iff.1 found
  have isHeld := Table.get?_eq_some_iff.2 (List.mem_of_find?_eq_some isFirst)
  exact ⟨entry.2, isHeld, isCampaign_of_campaignKey? found isHeld⟩

theorem hasCampaign_of_campaignKey? (found : account.campaignKey? id = some key) :
    account.HasCampaign id :=
  hasCampaign_iff.2 ⟨key, exists_of_campaignKey? found⟩

theorem campaignKey?_eq_none_iff : account.campaignKey? id = none ↔ ¬ account.HasCampaign id := by
  constructor
  · intro notFound hasCampaign
    obtain ⟨key, holding, isHeld, isCampaign⟩ := hasCampaign_iff.1 hasCampaign
    have isNone := List.find?_eq_none.1 (Option.map_eq_none_iff.1 notFound)
    exact isNone (key, holding) (Table.get?_eq_some_iff.1 isHeld) isCampaign
  · intro isMissing
    cases found : account.campaignKey? id with
    | none => rfl
    | some key => exact absurd (hasCampaign_of_campaignKey? found) isMissing

theorem entity?_modify (sameEntity : ∀ holding, (change holding).entity = holding.entity) :
    (account.modify key change sameKey).entity? other = account.entity? other := by
  have keeps : account.Keeps (fun _ => ()) (fun _ => False) (account.modify key change sameKey) :=
    modify_keeps sameKey sameEntity fun _ _ => .inl rfl
  exact keeps.entities other

namespace HasDistinctCampaigns

theorem entry_eq (distinct : account.HasDistinctCampaigns) {first second : EntityKey × Holding}
    (isFirst : first ∈ account.holdings.entries) (isSecond : second ∈ account.holdings.entries)
    (isCampaign : first.2.isCampaign id = true) (isSame : second.2.isCampaign id = true) :
    first = second := by
  obtain ⟨isLevel, isOwn⟩ := Bool.and_eq_true_iff.1 isCampaign
  obtain ⟨isLevel', isOwn'⟩ := Bool.and_eq_true_iff.1 isSame
  exact List.inj_on_of_nodup_map distinct (List.mem_filter.2 ⟨isFirst, isLevel⟩)
    (List.mem_filter.2 ⟨isSecond, isLevel'⟩) ((eq_of_beq isOwn).trans (eq_of_beq isOwn').symm)

/-- In whatever order the entities are scanned, what is found is the one campaign with the id. -/
theorem find?_eq_some_iff (distinct : account.HasDistinctCampaigns)
    {order : List (EntityKey × Holding)} (isOrder : order.Perm account.holdings.entries)
    {entry : EntityKey × Holding} : order.find? (fun e => e.2.isCampaign id) = some entry ↔
      entry ∈ account.holdings.entries ∧ entry.2.isCampaign id = true := by
  constructor
  · intro found
    have isCampaign := List.find?_some found
    exact ⟨isOrder.mem_iff.1 (List.mem_of_find?_eq_some found), isCampaign⟩
  · rintro ⟨isHeld, isCampaign⟩
    cases found : order.find? (fun e => e.2.isCampaign id) with
    | none => exact absurd isCampaign (List.find?_eq_none.1 found entry (isOrder.mem_iff.2 isHeld))
    | some first =>
        have isSame := List.find?_some found
        have isFirst := isOrder.mem_iff.1 (List.mem_of_find?_eq_some found)
        rw [distinct.entry_eq isFirst isHeld isSame isCampaign]

theorem campaign?_eq_some_iff (distinct : account.HasDistinctCampaigns) :
    account.campaign? id = some holding ↔
      ∃ key, account.holdings.get? key = some holding ∧ holding.isCampaign id = true := by
  rw [campaign?, Table.values, List.find?_map, Option.map_eq_some_iff]
  constructor
  · rintro ⟨entry, found, rfl⟩
    obtain ⟨isHeld, isCampaign⟩ := (distinct.find?_eq_some_iff (.refl _)).1 found
    exact ⟨entry.1, Table.get?_eq_some_iff.2 isHeld, isCampaign⟩
  · rintro ⟨key, isHeld, isCampaign⟩
    exact ⟨(key, holding), (distinct.find?_eq_some_iff (.refl _)).2
      ⟨Table.get?_eq_some_iff.1 isHeld, isCampaign⟩, rfl⟩

theorem isPaused_eq (distinct : account.HasDistinctCampaigns) :
    account.isPaused id = (account.campaign? id).any Holding.paused := by
  rw [Bool.eq_iff_iff, isPaused, Table.values, List.any_map, List.any_eq_true, Option.any_eq_true]
  simp only [distinct.campaign?_eq_some_iff, Table.get?_eq_some_iff, Function.comp,
    Bool.and_eq_true]
  constructor
  · rintro ⟨entry, isHeld, isCampaign, isPaused⟩
    exact ⟨entry.2, ⟨entry.1, isHeld, isCampaign⟩, isPaused⟩
  · rintro ⟨holding, ⟨key, isHeld, isCampaign⟩, isPaused⟩
    exact ⟨(key, holding), isHeld, isCampaign, isPaused⟩

/-- What is read of a campaign is what is held of it. -/
theorem reads (distinct : account.HasDistinctCampaigns)
    (isHeld : account.holdings.get? key = some holding)
    (isCampaign : holding.isCampaign id = true) :
    account.budget id = holding.budget ∧ account.isPaused id = holding.paused := by
  have isFirst := distinct.campaign?_eq_some_iff.2 ⟨key, isHeld, isCampaign⟩
  rw [budget, distinct.isPaused_eq, isFirst]
  exact ⟨rfl, rfl⟩

theorem modify (distinct : account.HasDistinctCampaigns)
    (sameEntity : ∀ holding, (change holding).entity = holding.entity) :
    (account.modify key change sameKey).HasDistinctCampaigns := by
  have isSame : ∀ e : EntityKey × Holding,
      (if key = e.1 then change e.2 else e.2).entity = e.2.entity := by
    intro e
    split
    · exact sameEntity _
    · rfl
  have sameIds : (account.modify key change sameKey).campaigns.map (fun e => e.2.entity.id) =
      account.campaigns.map (fun e => e.2.entity.id) := by
    simp [campaigns, Account.modify, Table.modify, Table.map, List.filter_map, Function.comp_def,
      isSame]
  rw [HasDistinctCampaigns, sameIds]
  exact distinct

/-- A change under the key that was found is one of the campaign with the id. -/
theorem get?_modify (distinct : account.HasDistinctCampaigns)
    (found : account.campaignKey? id = some key) :
    (account.modify key change sameKey).holdings.get? other = (account.holdings.get? other).map
      fun holding => if holding.isCampaign id then change holding else holding := by
  obtain ⟨own, isOwn, isCampaign⟩ := exists_of_campaignKey? found
  rw [Account.modify, Table.get?_modify]
  split
  · next same =>
    subst same
    rw [isOwn, Option.map_some, Option.map_some, if_pos isCampaign]
  · next isOther =>
    cases isHeld : account.holdings.get? other with
    | none => rfl
    | some holding =>
        rw [Option.map_some, if_neg]
        intro isTwin
        have same := distinct.entry_eq (Table.get?_eq_some_iff.1 isHeld)
          (Table.get?_eq_some_iff.1 isOwn) isTwin isCampaign
        exact isOther (congrArg Prod.fst same)

theorem campaign?_modify (distinct : account.HasDistinctCampaigns)
    (sameEntity : ∀ holding, (change holding).entity = holding.entity)
    (found : account.campaignKey? id = some key) (twin : CampaignId) :
    (account.modify key change sameKey).campaign? twin = (account.campaign? twin).map
      fun holding => if holding.isCampaign id then change holding else holding := by
  have sameLevel : ∀ holding : Holding,
      (if holding.isCampaign id then change holding else holding).isCampaign twin =
        holding.isCampaign twin := by
    intro holding
    split
    · rw [Holding.isCampaign, sameEntity, Holding.isCampaign]
    · rfl
  refine Option.ext fun changed => ?_
  rw [(distinct.modify sameKey sameEntity).campaign?_eq_some_iff, Option.map_eq_some_iff]
  simp only [distinct.get?_modify sameKey found, distinct.campaign?_eq_some_iff,
    Option.map_eq_some_iff]
  constructor
  · rintro ⟨place, ⟨holding, isHeld, rfl⟩, isTwin⟩
    exact ⟨holding, ⟨place, isHeld, (sameLevel holding).symm.trans isTwin⟩, rfl⟩
  · rintro ⟨holding, ⟨place, isHeld, isTwin⟩, rfl⟩
    exact ⟨place, ⟨holding, isHeld, rfl⟩, (sameLevel holding).trans isTwin⟩

end HasDistinctCampaigns

end Account

/-! ## Changes -/

namespace PlatformChange

def budgetOf? (id : CampaignId) : PlatformChange → Option Float
  | .budget campaign value => if campaign = id then some value else none
  | .paused .. => none

def flagOf? (id : CampaignId) : PlatformChange → Option Bool
  | .budget .. => none
  | .paused campaign flag => if campaign = id then some flag else none

/-- Whether a holding comes from another by setting the budget or the flag, and nothing else. -/
def Sets (before after : Holding) : PlatformChange → Prop
  | .budget _ value => after = { before with metrics := after.metrics } ∧
      ∃ metrics, after.metrics = some metrics ∧ ∀ name, metrics.get? name =
        if name = "budget" then some value else before.metrics.bind fun old => old.get? name
  | .paused _ flag => after = { before with paused := flag }

theorem sets_apply (change : PlatformChange) (holding : Holding) :
    change.Sets holding (change.apply holding) := by
  cases change with
  | paused campaign flag => rfl
  | budget campaign value =>
      refine ⟨rfl, _, rfl, fun name => ?_⟩
      rw [Table.get?_insert]
      cases holding.metrics <;> rfl

variable {holding : Holding} {id : CampaignId}

theorem gives_none_of_ne (change : PlatformChange) (isOther : change.campaign ≠ id) :
    change.budgetOf? id = none ∧ change.flagOf? id = none := by
  cases change with
  | budget => exact ⟨if_neg isOther, rfl⟩
  | paused => exact ⟨rfl, if_neg isOther⟩

/-- Of the campaign with an id a change sets what it gives to this id. -/
theorem reads_apply (change : PlatformChange) (isCampaign : holding.isCampaign id = true) :
    let changed := if holding.isCampaign change.campaign then change.apply holding else holding
    changed.budget = (change.budgetOf? id).or holding.budget ∧
      changed.paused = (change.flagOf? id).getD holding.paused := by
  intro changed
  obtain ⟨isLevel, isOwn⟩ := Bool.and_eq_true_iff.1 isCampaign
  by_cases same : change.campaign = id
  · have isChanged : changed = change.apply holding := if_pos (same ▸ isCampaign)
    rw [isChanged]
    cases change with
    | paused campaign flag =>
        have isGiven : flagOf? id (.paused campaign flag) = some flag := if_pos same
        rw [isGiven]
        exact ⟨rfl, rfl⟩
    | budget campaign value =>
        have isGiven : budgetOf? id (.budget campaign value) = some value := if_pos same
        have isSet : (holding.setMetric "budget" value).budget = some value :=
          Table.get?_insert.trans (if_pos rfl)
        rw [isGiven]
        exact ⟨isSet, rfl⟩
  · have isKept : changed = holding := if_neg fun isSame =>
      same ((eq_of_beq (Bool.and_eq_true_iff.1 isSame).2).symm.trans (eq_of_beq isOwn))
    obtain ⟨noBudget, noFlag⟩ := change.gives_none_of_ne same
    rw [isKept, noBudget, noFlag]
    exact ⟨rfl, rfl⟩

end PlatformChange

/-- What is read of a campaign after a change of one is what the change sets, or what was read
before. -/
theorem Account.HasDistinctCampaigns.reads_modify {account : Account} {key : EntityKey}
    {change : PlatformChange} (distinct : account.HasDistinctCampaigns)
    (found : account.campaignKey? change.campaign = some key) (id : CampaignId) :
    let changed := account.modify key change.apply change.key_apply
    changed.budget id = (change.budgetOf? id).or (account.budget id) ∧
      changed.isPaused id = (change.flagOf? id).getD (account.isPaused id) := by
  intro changed
  have isFirst : changed.campaign? id = _ :=
    distinct.campaign?_modify change.key_apply change.entity_apply found id
  have distinct' : changed.HasDistinctCampaigns :=
    distinct.modify change.key_apply change.entity_apply
  rw [budget, budget, distinct.isPaused_eq, distinct'.isPaused_eq, isFirst]
  cases isHeld : account.campaign? id with
  | none =>
      obtain ⟨holding, isOwn, isCampaign⟩ := exists_of_campaignKey? found
      have isOther : change.campaign ≠ id := by
        rintro rfl
        cases isHeld.symm.trans (distinct.campaign?_eq_some_iff.2 ⟨key, isOwn, isCampaign⟩)
      obtain ⟨noBudget, noFlag⟩ := change.gives_none_of_ne isOther
      rw [noBudget, noFlag]
      exact ⟨rfl, rfl⟩
  | some holding =>
      obtain ⟨_, -, isCampaign⟩ := distinct.campaign?_eq_some_iff.1 isHeld
      exact change.reads_apply isCampaign

/-! ## Calls -/

/-- Calls that ask for a change of a campaign, or have later changes of a budget rejected. -/
inductive CampaignCall where
  | ask (change : PlatformChange)
  | reject (campaign : CampaignId) (reason : String)

namespace CampaignCall

def step (account : Account) : CampaignCall → Account × Except Failure Unit
  | .ask (.budget campaign value) =>
      (PlatformQuery.answer account (.updateBudget campaign value)).swap
  | .ask (.paused campaign flag) =>
      (PlatformQuery.answer account (.setPaused campaign flag)).swap
  | .reject campaign reason => (account.reject campaign reason, .ok ())

/-- The change that a call has made with its answer, if it has made one. -/
def made? : CampaignCall → Except Failure Unit → Option PlatformChange
  | .ask change, .ok () => some change
  | .ask _, .error _ | .reject .., _ => none

/-- The changes that some calls make, the earliest first. -/
def made (account : Account) (calls : List CampaignCall) : List PlatformChange :=
  (calls.zip (Stepwise.outputs step account calls)).filterMap fun pair => made? pair.1 pair.2

/-- Whether a call is allowed after others: there is its campaign, and neither from the start nor by
one of them have changes of this budget been rejected. -/
def IsAllowed (account : Account) (calls : List CampaignCall) : CampaignCall → Prop
  | .ask (.budget campaign _) => account.HasCampaign campaign ∧
      account.rejected.get? campaign = none ∧ ∀ reason, .reject campaign reason ∉ calls
  | .ask (.paused campaign _) => account.HasCampaign campaign
  | .reject .. => True

def Makes (before after : Account) : CampaignCall → Prop
  | .ask change => after.rejected = before.rejected ∧ ∃ key holding changed,
      before.holdings.get? key = some holding ∧ holding.isCampaign change.campaign = true ∧
      change.Sets holding changed ∧
      after.holdings.get? = Function.update before.holdings.get? key (some changed)
  | .reject campaign reason => after.holdings = before.holdings ∧
      after.rejected.get? = Function.update before.rejected.get? campaign (some reason)

variable {account : Account} {call : CampaignCall}

inductive Gives (account : Account) : CampaignCall → Account × Except Failure Unit → Prop
  | fails {call : CampaignCall} (failure : Failure) (isDenied : ¬ call.IsAllowed account []) :
      Gives account call (account, .error failure)
  | makes {change : PlatformChange} {key : EntityKey}
      (isAllowed : IsAllowed account [] (.ask change))
      (found : account.campaignKey? change.campaign = some key) :
      Gives account (.ask change) (account.modify key change.apply change.key_apply, .ok ())
  | rejects (campaign : CampaignId) (reason : String) :
      Gives account (.reject campaign reason) (account.reject campaign reason, .ok ())

/-- A change that only needs its campaign is made if this is there. -/
theorem gives_modifyCampaign {change : PlatformChange}
    (isAllowed : IsAllowed account [] (.ask change) ↔ account.HasCampaign change.campaign) :
    Gives account (.ask change) (PlatformQuery.commit account
      (account.modifyCampaign change.campaign change.apply change.key_apply)).swap := by
  rw [Account.modifyCampaign]
  cases found : account.campaignKey? change.campaign with
  | none =>
      exact .fails _ fun wasAllowed =>
        Account.campaignKey?_eq_none_iff.1 found (isAllowed.1 wasAllowed)
  | some key => exact .makes (isAllowed.2 (Account.hasCampaign_of_campaignKey? found)) found

theorem gives_step (call : CampaignCall) (account : Account) :
    call.Gives account (call.step account) := by
  cases call with
  | reject campaign reason => exact .rejects campaign reason
  | ask change =>
      cases change with
      | paused campaign flag => exact gives_modifyCampaign .rfl
      | budget campaign value =>
          rw [step, PlatformQuery.answer, Account.updateBudget]
          cases isClosed : account.rejected.get? campaign with
          | some reason =>
              exact .fails _ fun isAllowed =>
                Option.some_ne_none reason (isClosed.symm.trans isAllowed.2.1)
          | none =>
              exact gives_modifyCampaign (and_iff_left ⟨isClosed, fun _ => List.not_mem_nil⟩)

namespace Gives

variable {result : Account × Except Failure Unit} {key : EntityKey} {id : CampaignId}

theorem entity?_eq (gives : call.Gives account result) :
    result.1.entity? key = account.entity? key := by
  cases gives with
  | fails | rejects => rfl
  | @makes change =>
      exact Account.entity?_modify change.key_apply change.entity_apply

theorem distinct (gives : call.Gives account result) (distinct : account.HasDistinctCampaigns) :
    result.1.HasDistinctCampaigns := by
  cases gives with
  | fails | rejects => exact distinct
  | @makes change => exact distinct.modify change.key_apply change.entity_apply

theorem rejected_eq_none_iff (gives : call.Gives account result) :
    result.1.rejected.get? id = none ↔
      account.rejected.get? id = none ∧ ∀ reason, call ≠ .reject id reason := by
  cases gives with
  | makes => exact (and_iff_left fun _ => nofun).symm
  | fails failure isDenied =>
      refine (and_iff_left fun reason => ?_).symm
      rintro rfl
      exact isDenied trivial
  | rejects campaign reason =>
      rw [Account.reject, Table.get?_insert]
      by_cases same : id = campaign
      · subst same
        simp
      · simp [same, Ne.symm same]

theorem reads (gives : call.Gives account result) (distinct : account.HasDistinctCampaigns)
    (id : CampaignId) :
    result.1.budget id =
        ((call.made? result.2).bind (PlatformChange.budgetOf? id)).or (account.budget id) ∧
      result.1.isPaused id =
        ((call.made? result.2).bind (PlatformChange.flagOf? id)).getD (account.isPaused id) := by
  cases gives with
  | makes _ found => exact distinct.reads_modify found id
  | rejects => exact ⟨rfl, rfl⟩
  | @fails call => cases call <;> exact ⟨rfl, rfl⟩

theorem makes_or_fails (gives : call.Gives account result) :
    (call.IsAllowed account [] ∧ ∃ next, result = (next, .ok ()) ∧ call.Makes account next) ∨
      (¬ call.IsAllowed account [] ∧ ∃ failure, result = (account, .error failure)) := by
  cases gives with
  | fails failure isDenied => exact .inr ⟨isDenied, failure, rfl⟩
  | rejects campaign reason =>
      refine .inl ⟨trivial, _, rfl, rfl, funext fun id => Table.get?_insert.trans ?_⟩
      rw [Function.update_apply]
  | @makes change key isAllowed found =>
      obtain ⟨holding, isHeld, isCampaign⟩ := Account.exists_of_campaignKey? found
      refine .inl ⟨isAllowed, _, rfl, rfl, key, holding, _, isHeld, isCampaign,
        change.sets_apply holding, funext fun other => ?_⟩
      rw [Account.modify, Table.get?_modify, Function.update_apply]
      split
      · next same =>
        subst same
        rw [isHeld]
        rfl
      · rfl

end Gives

section Run

variable {calls : List CampaignCall}

theorem made_concat (calls : List CampaignCall) (call : CampaignCall) :
    made account (calls ++ [call]) = made account calls ++
      (call.made? (call.step (Stepwise.after step account calls)).2).toList := by
  rw [made, Stepwise.outputs_concat, List.zip_append (Stepwise.length_outputs _).symm,
    List.filterMap_append]
  refine congrArg (made account calls ++ ·) ?_
  cases isMade : call.made? (call.step (Stepwise.after step account calls)).2 <;> simp [isMade]

/-- What the last item gives counts, if it gives anything. -/
theorem getLast?_filterMap_concat {α β : Type} (f : α → Option β) (items : List α)
    (item : Option α) : ((items ++ item.toList).filterMap f).getLast? =
      (item.bind f).or (items.filterMap f).getLast? := by
  rw [List.filterMap_append, List.getLast?_append]
  cases item with
  | none => rfl
  | some item => cases given : f item <;> simp [given]

theorem hasCampaign_after (id : CampaignId) :
    (Stepwise.after step account calls).HasCampaign id ↔ account.HasCampaign id := by
  induction calls using List.reverseRecOn with
  | nil => rfl
  | append_singleton calls call ih =>
      rw [Stepwise.after_concat, ← ih]
      simp only [Account.HasCampaign, (gives_step call _).entity?_eq]

theorem rejected_after (id : CampaignId) :
    (Stepwise.after step account calls).rejected.get? id = none ↔
      account.rejected.get? id = none ∧ ∀ reason, .reject id reason ∉ calls := by
  induction calls using List.reverseRecOn with
  | nil => simp [Stepwise.after]
  | append_singleton calls call ih =>
      rw [Stepwise.after_concat, (gives_step call _).rejected_eq_none_iff, ih]
      grind

theorem isAllowed_after (call : CampaignCall) :
    call.IsAllowed (Stepwise.after step account calls) [] ↔ call.IsAllowed account calls := by
  match call with
  | .reject .. => rfl
  | .ask (.paused campaign _) => exact hasCampaign_after campaign
  | .ask (.budget campaign _) =>
      refine and_congr (hasCampaign_after campaign) ?_
      rw [rejected_after]
      simp

theorem distinct_after (distinct : account.HasDistinctCampaigns) :
    (Stepwise.after step account calls).HasDistinctCampaigns := by
  induction calls using List.reverseRecOn with
  | nil => exact distinct
  | append_singleton calls call ih =>
      rw [Stepwise.after_concat]
      exact (gives_step call _).distinct ih

theorem reads_after (distinct : account.HasDistinctCampaigns) (id : CampaignId) :
    (Stepwise.after step account calls).budget id =
        ((made account calls).filterMap (PlatformChange.budgetOf? id)).getLast?.or
          (account.budget id) ∧
      (Stepwise.after step account calls).isPaused id =
        ((made account calls).filterMap (PlatformChange.flagOf? id)).getLast?.getD
          (account.isPaused id) := by
  induction calls using List.reverseRecOn with
  | nil => exact ⟨rfl, rfl⟩
  | append_singleton calls call ih =>
      obtain ⟨isBudget, isFlag⟩ := (gives_step call _).reads (distinct_after distinct) id
      rw [Stepwise.after_concat, made_concat, getLast?_filterMap_concat,
        getLast?_filterMap_concat, isBudget, isFlag, ih.1, ih.2, Option.or_assoc, Option.getD_or]
      exact ⟨rfl, rfl⟩

end Run

/--
Where no two campaigns share an id, calls act on single campaigns.  A call that
is allowed sets the budget or the flag of a campaign with its id and changes
nothing else; one that is not allowed fails and changes nothing.  After any
calls, what is read of a campaign is what the last change made of it has set,
or what was read at the start, and it is what is held of the campaign.
-/
theorem calls_changeCampaigns (distinct : account.HasDistinctCampaigns)
    (calls : List CampaignCall) :
    let after := Stepwise.after step account calls
    let made := made account calls
    (∀ call : CampaignCall,
      (call.IsAllowed account calls ∧
        ∃ next, call.step after = (next, .ok ()) ∧ call.Makes after next) ∨
      (¬ call.IsAllowed account calls ∧ ∃ failure, call.step after = (after, .error failure))) ∧
    (∀ id, PlatformQuery.answer after (.currentBudget id) =
        (.ok ((made.filterMap (PlatformChange.budgetOf? id)).getLast?.or (account.budget id)),
          after) ∧
      after.isPaused id =
        (made.filterMap (PlatformChange.flagOf? id)).getLast?.getD (account.isPaused id)) ∧
    ∀ key holding id, after.holdings.get? key = some holding → holding.isCampaign id = true →
      after.budget id = holding.budget ∧ after.isPaused id = holding.paused := by
  intro after made
  refine ⟨fun call => ?_, fun id => ?_, fun key holding id => ?_⟩
  · rw [← isAllowed_after]
    exact (call.gives_step after).makes_or_fails
  · obtain ⟨isBudget, isFlag⟩ := reads_after distinct id
    rw [PlatformQuery.answer, isBudget]
    exact ⟨rfl, isFlag⟩
  · exact (distinct_after distinct).reads

/-- A campaign without metrics, an ad set with its id in another workspace, and another campaign. -/
def exampleAccount : Account :=
  .ofHoldings [⟨"w", ⟨"x", "", .metaAds, .campaign, none⟩, none, false⟩,
    ⟨"v", ⟨"x", "", .google, .adSet, some "y"⟩, some (.ofList [("budget", 5)]), false⟩,
    ⟨"v", ⟨"y", "", .google, .campaign, none⟩, some (.ofList [("budget", 50)]), true⟩]

/-- A budget is set before its changes are rejected and after, and there is no campaign `z`. -/
def exampleCalls : List CampaignCall :=
  [.ask (.budget "x" 87.25), .ask (.budget "z" 1), .reject "x" "closed", .ask (.budget "x" 90),
    .ask (.paused "x" true), .ask (.paused "z" true)]

theorem calls_changeCampaigns_exampleCalls :
    exampleAccount.HasDistinctCampaigns ∧
      let after := Stepwise.after step exampleAccount exampleCalls
      made exampleAccount exampleCalls = [.budget "x" 87.25, .paused "x" true] ∧
      PlatformQuery.answer after (.currentBudget "x") = (.ok (some 87.25), after) ∧
      after.isPaused "x" = true ∧
      (∃ failure, step after (.ask (.budget "x" 1)) = (after, .error failure)) ∧
      ∃ next, step after (.ask (.budget "y" 60)) = (next, .ok ()) ∧
        Makes after next (.ask (.budget "y" 60)) := by
  have distinct : exampleAccount.HasDistinctCampaigns := by decide
  obtain ⟨acts, reads, -⟩ := calls_changeCampaigns distinct exampleCalls
  have isClosed : ¬ IsAllowed exampleAccount exampleCalls (.ask (.budget "x" 1)) := fun isAllowed =>
    isAllowed.2.2 "closed" (.tail _ (.tail _ (.head _)))
  have isOpen : IsAllowed exampleAccount exampleCalls (.ask (.budget "y" 60)) :=
    ⟨⟨⟨"v", "y"⟩, _, rfl, rfl, rfl⟩, rfl, fun reason => by simp [exampleCalls]⟩
  exact ⟨distinct, rfl, (reads "x").1, (reads "x").2, ((acts _).resolve_left (isClosed ·.1)).2,
    ((acts _).resolve_right (·.1 isOpen)).2⟩

end CampaignCall

end AdMonitor
