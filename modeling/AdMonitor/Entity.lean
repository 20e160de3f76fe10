import AdMonitor.Json.Decoder

/-!
# Advertising entities

Campaigns, ad sets and ads of the connected platforms, and the filter by which
an agent selects them.
-/

namespace AdMonitor

abbrev WorkspaceId := String
abbrev EntityId := String
abbrev CampaignId := String

inductive Platform where
  | metaAds | google | tiktok
  deriving Repr, DecidableEq

namespace Platform

def name : Platform → String
  | .metaAds => "meta"
  | .google => "google"
  | .tiktok => "tiktok"

def all : List Platform := [.metaAds, .google, .tiktok]

def toJson (platform : Platform) : Json := .str platform.name

def ofJson? (json : Json) : Option Platform := do
  let word ← json.toWord?
  all.find? (fun p => p.name == word)

end Platform

inductive Level where
  | campaign | adSet | ad
  deriving Repr, DecidableEq

namespace Level

def name : Level → String
  | .campaign => "campaign"
  | .adSet => "ad_set"
  | .ad => "ad"

def all : List Level := [.campaign, .adSet, .ad]

def toJson (level : Level) : Json := .str level.name

def ofJson? (json : Json) : Option Level := do
  let word ← json.toWord?
  all.find? (fun l => l.name == word)

end Level

structure Entity where
  id : EntityId
  name : String
  platform : Platform
  level : Level
  campaignId : Option CampaignId
  deriving Repr, DecidableEq

namespace Entity

def campaign (entity : Entity) : CampaignId :=
  match entity.level with
  | .campaign => entity.id
  | _ => entity.campaignId.getD entity.id

def toMembers (entity : Entity) : List (String × Json) :=
  [("id", .str entity.id), ("name", .str entity.name),
    ("platform", entity.platform.toJson), ("level", entity.level.toJson),
    ("campaign_id", .ofOption .str entity.campaignId)]

def toJson (entity : Entity) : Json := .obj entity.toMembers

def fieldNames : List String := ["id", "name", "platform", "level", "campaign_id"]

def ofFields? (fields : Json.Fields) : Option Entity := do
  let id ← fields.required "id" Json.toText?
  let name ← fields.withDefault "name" "" Json.toText?
  let platform ← fields.required "platform" Platform.ofJson?
  let level ← fields.required "level" Level.ofJson?
  let campaignId ← fields.optional "campaign_id" Json.toText?
  return { id, name, platform, level, campaignId }

def ofJson? (json : Json) : Option Entity := do
  ofFields? (← json.fields? fieldNames)

end Entity

/-- Entities of one level, on one platform or on every platform. -/
structure EntityFilter where
  platform : Option Platform
  level : Level
  deriving Repr, DecidableEq

def EntityFilter.admits (filter : EntityFilter) (entity : Entity) : Bool :=
  entity.level == filter.level &&
    (match filter.platform with
      | none => true
      | some platform => platform == entity.platform)

end AdMonitor
