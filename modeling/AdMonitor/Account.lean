import AdMonitor.Entity
import AdMonitor.Failure
import AdMonitor.Metric
import AdMonitor.NamePair

/-!
# Accounts

An advertising account holds the entities of its workspaces with their latest
metrics.  It answers for the metrics provider and for the ad platform, so a
budget that was changed is seen by the next fetch.
-/

namespace AdMonitor

structure EntityKey where
  workspace : WorkspaceId
  entity : EntityId
  deriving Repr, DecidableEq

namespace EntityKey

def toPair (key : EntityKey) : String × String := (key.workspace, key.entity)

/-- Keys are ordered by workspace, then by entity. -/
instance : Ord EntityKey where
  compare a b := compareNames a.toPair b.toPair

instance : Std.TransOrd EntityKey where
  eq_swap {a b} := @Std.OrientedCmp.eq_swap _ compareNames _ a.toPair b.toPair
  isLE_trans {a b c} :=
    @Std.TransCmp.isLE_trans _ compareNames _ a.toPair b.toPair c.toPair

instance : Std.LawfulEqOrd EntityKey where
  compare_self {a} := @Std.ReflCmp.compare_self _ compareNames _ a.toPair
  eq_of_compare := by
    intro a b same
    have pairs : a.toPair = b.toPair := @Std.LawfulEqCmp.eq_of_compare _ compareNames _ _ _ same
    cases a
    cases b
    simpa [toPair] using pairs

theorem compare_entity {workspace : WorkspaceId} {first second : EntityId} :
    compare (⟨workspace, first⟩ : EntityKey) ⟨workspace, second⟩ = compare first second := by
  change (compare workspace workspace).then (compare first second) = _
  have isSame : compare workspace workspace = .eq := Std.ReflCmp.compare_self
  rw [isSame, Ordering.then]

end EntityKey

structure Holding where
  workspace : WorkspaceId
  entity : Entity
  /-- The latest metrics; `none` when there are no data at all. -/
  metrics : Option Snapshot
  paused : Bool

namespace Holding

def key (holding : Holding) : EntityKey := ⟨holding.workspace, holding.entity.id⟩

/-- Whether this is the campaign with an id; entities of other levels may share it. -/
def isCampaign (holding : Holding) (id : CampaignId) : Bool :=
  holding.entity.level == .campaign && holding.entity.id == id

def setMetric (holding : Holding) (name : String) (value : Float) : Holding :=
  { holding with metrics := some ((holding.metrics.getD .empty).insert name value) }

def clearMetrics (holding : Holding) : Holding :=
  { holding with metrics := none }

def setPaused (holding : Holding) (paused : Bool) : Holding :=
  { holding with paused }

def budget (holding : Holding) : Option Float :=
  holding.metrics.bind fun metrics => metrics.get? "budget"

theorem key_setMetric (name : String) (value : Float) (holding : Holding) :
    (holding.setMetric name value).key = holding.key := rfl

theorem key_clearMetrics (holding : Holding) : holding.clearMetrics.key = holding.key := rfl

theorem key_setPaused (paused : Bool) (holding : Holding) :
    (holding.setPaused paused).key = holding.key := rfl

end Holding

@[ext] structure Account where
  holdings : Table EntityKey Holding
  /-- Campaigns whose budget cannot be changed, with the reason. -/
  rejected : Table CampaignId String
  /-- Every entity is held under its own workspace and id. -/
  keyed : holdings.IsKeyed Holding.key

namespace Account

def empty : Account := ⟨.empty, .empty, nofun⟩

instance : Inhabited Account := ⟨empty⟩

/-- Hold an entity with its metrics, in place of one with the same id in its workspace. -/
def hold (account : Account) (holding : Holding) : Account where
  holdings := account.holdings.insert holding.key holding
  rejected := account.rejected
  keyed := account.keyed.insert rfl

/-- Stop holding an entity; the flag says whether it was held. -/
def remove (account : Account) (key : EntityKey) : Bool × Account :=
  (account.holdings.contains key,
    { account with
      holdings := account.holdings.erase key
      keyed := account.keyed.erase key })

def modify (account : Account) (key : EntityKey) (change : Holding → Holding)
    (keeps : ∀ holding, (change holding).key = holding.key) : Account where
  holdings := account.holdings.modify key change
  rejected := account.rejected
  keyed := account.keyed.modify key keeps

def setMetric (account : Account) (key : EntityKey) (name : String) (value : Float) : Account :=
  account.modify key (fun h => h.setMetric name value) (Holding.key_setMetric name value)

def clearMetrics (account : Account) (key : EntityKey) : Account :=
  account.modify key Holding.clearMetrics Holding.key_clearMetrics

/-- From now on refuse to change the budget of a campaign. -/
def reject (account : Account) (campaign : CampaignId) (reason : String) : Account :=
  { account with rejected := account.rejected.insert campaign reason }

def campaignKey? (account : Account) (id : CampaignId) : Option EntityKey :=
  (account.holdings.entries.find? (fun e => e.2.isCampaign id)).map (·.1)

def campaign? (account : Account) (id : CampaignId) : Option Holding :=
  account.holdings.values.find? (fun h => h.isCampaign id)

def budget (account : Account) (id : CampaignId) : Option Float :=
  (account.campaign? id).bind Holding.budget

def isPaused (account : Account) (id : CampaignId) : Bool :=
  account.holdings.values.any fun h => h.isCampaign id && h.paused

def modifyCampaign (account : Account) (id : CampaignId) (change : Holding → Holding)
    (keeps : ∀ holding, (change holding).key = holding.key) : Except Failure Account :=
  match account.campaignKey? id with
  | none => .error (.notFound ("campaign " ++ id))
  | some key => .ok (account.modify key change keeps)

def updateBudget (account : Account) (id : CampaignId) (budget : Float) :
    Except Failure Account :=
  match account.rejected.get? id with
  | some reason => .error (.collaborator reason)
  | none =>
      account.modifyCampaign id (fun h => h.setMetric "budget" budget)
        (Holding.key_setMetric "budget" budget)

def setPaused (account : Account) (id : CampaignId) (paused : Bool) :
    Except Failure Account :=
  account.modifyCampaign id (fun h => h.setPaused paused) (Holding.key_setPaused paused)

/-- The entities of a workspace that pass a filter, in the order of their ids. -/
def list (account : Account) (workspace : WorkspaceId) (filter : EntityFilter) :
    List Entity :=
  (account.holdings.values.filter fun h =>
    h.workspace == workspace && filter.admits h.entity).map Holding.entity

def entity? (account : Account) (key : EntityKey) : Option Entity :=
  (account.holdings.get? key).map Holding.entity

/-- The metrics of an entity with the given names, or all of them if none is named. -/
def snapshot? (account : Account) (key : EntityKey) (names : NameSet) : Option Snapshot :=
  ((account.holdings.get? key).bind Holding.metrics).map fun metrics =>
    metrics.filter fun name _ => names.size == 0 || names.has name

end Account

end AdMonitor
