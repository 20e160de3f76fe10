import AdMonitor.Account.File
import AdMonitor.Proofs.Json.Numbers
import AdMonitor.Proofs.Json.RoundTrip
import AdMonitor.Query

/-!
# Account files

An account that was read from a file or started empty, and was then changed by
any calls, is read back from the file that it is written to.
-/

namespace AdMonitor

/-! ## Tables from their entries -/

namespace Table

variable {κ ν : Type} [Ord κ] [Std.TransOrd κ]

/-- An entry above all others is placed last. -/
theorem place_last {key : κ} {value : ν} {entries : List (κ × ν)}
    (above : ∀ e ∈ entries, compare e.1 key = .lt) :
    place key value entries = entries ++ [(key, value)] := by
  induction entries with
  | nil => rfl
  | cons head rest ih =>
      obtain ⟨k, v⟩ := head
      have greater : compare key k = .gt :=
        Std.OrientedCmp.gt_iff_lt.2 (above (k, v) List.mem_cons_self)
      simp only [place, greater, List.cons_append]
      rw [ih fun e found => above e (List.mem_cons_of_mem _ found)]

/-- A table is determined by its entries. -/
theorem ofList_entries (table : Table κ ν) : ofList table.entries = table := by
  have appended : ∀ (entries : List (κ × ν)) (start : Table κ ν),
      (start.entries ++ entries).Pairwise (fun a b => compare a.1 b.1 = .lt) →
      (entries.foldl (fun table e => table.insert e.1 e.2) start).entries =
        start.entries ++ entries := by
    intro entries
    induction entries with
    | nil => intro start _; simp
    | cons e entries ih =>
        intro start sorted
        have above : ∀ other ∈ start.entries, compare other.1 e.1 = .lt := fun other found =>
          (List.pairwise_append.1 sorted).2.2 other found e List.mem_cons_self
        have placed : (start.insert e.1 e.2).entries = start.entries ++ [e] := place_last above
        rw [List.foldl_cons, ih _ (by simpa [placed] using sorted), placed]
        simp
  have same : (ofList table.entries).entries = table.entries := appended _ empty table.sorted
  generalize ofList table.entries = other at same
  cases other
  cases table
  cases same
  rfl

end Table

/-! ## Calls that change an account -/

inductive AccountEdit where
  /-- Hold an entity with metrics, not paused, in place of one with the same id. -/
  | upsert (workspace : WorkspaceId) (entity : Entity) (metrics : List (String × Float))
  | remove (key : EntityKey)
  | clearMetrics (key : EntityKey)
  | setMetric (key : EntityKey) (metric : String) (value : Float)
  | reject (campaign : CampaignId) (reason : String)
  | updateBudget (campaign : CampaignId) (budget : Float)
  | setPaused (campaign : CampaignId) (paused : Bool)

namespace AccountEdit

/-- The account after a call; one that fails leaves it as it is. -/
def apply (account : Account) : AccountEdit → Account
  | .upsert workspace entity metrics =>
      account.hold { workspace, entity, metrics := some (.ofList metrics), paused := false }
  | .remove key => (account.remove key).2
  | .clearMetrics key => account.clearMetrics key
  | .setMetric key metric value => account.setMetric key metric value
  | .reject campaign reason => account.reject campaign reason
  | .updateBudget campaign budget =>
      (PlatformQuery.answer account (.updateBudget campaign budget)).2
  | .setPaused campaign paused => (PlatformQuery.answer account (.setPaused campaign paused)).2

def numbers : AccountEdit → List Float
  | .upsert _ _ metrics => metrics.map (·.2)
  | .setMetric _ _ value => [value]
  | .updateBudget _ budget => [budget]
  | .remove _ | .clearMetrics _ | .reject .. | .setPaused .. => []

end AccountEdit

/-! ## What every account keeps -/

namespace Holding

def HasFiniteMetrics (holding : Holding) : Prop :=
  ∀ metrics, holding.metrics = some metrics → ∀ name x, metrics.get? name = some x →
    x.isFinite = true

variable {holding : Holding}

theorem HasFiniteMetrics.setMetric (areFinite : holding.HasFiniteMetrics) {metric : String}
    {value : Float} (isFinite : value.isFinite = true) :
    (holding.setMetric metric value).HasFiniteMetrics := by
  rintro metrics ⟨rfl⟩
  refine Table.forall_insert (fun name x found => ?_) isFinite
  cases isHeld : holding.metrics with
  | none =>
      rw [isHeld] at found
      cases found
  | some metrics =>
      rw [isHeld] at found
      exact areFinite metrics isHeld name x found

end Holding

namespace Account

def HasFiniteMetrics (account : Account) : Prop :=
  ∀ key holding, account.holdings.get? key = some holding → holding.HasFiniteMetrics

namespace HasFiniteMetrics

variable {account : Account}

theorem empty : Account.empty.HasFiniteMetrics :=
  nofun

theorem hold {holding : Holding} (areFinite : account.HasFiniteMetrics)
    (isFinite : holding.HasFiniteMetrics) : (account.hold holding).HasFiniteMetrics :=
  Table.forall_insert areFinite isFinite

theorem remove (areFinite : account.HasFiniteMetrics) (key : EntityKey) :
    (account.remove key).2.HasFiniteMetrics :=
  Table.forall_erase areFinite key

theorem modify {key : EntityKey} {change : Holding → Holding}
    (sameKey : ∀ holding, (change holding).key = holding.key) (areFinite : account.HasFiniteMetrics)
    (isKept : ∀ holding, holding.HasFiniteMetrics → (change holding).HasFiniteMetrics) :
    (account.modify key change sameKey).HasFiniteMetrics :=
  Table.forall_modify areFinite isKept

/-- A change of a campaign keeps what it keeps of every entity. -/
theorem commit {campaign : CampaignId} {change : Holding → Holding}
    (sameKey : ∀ holding, (change holding).key = holding.key) (areFinite : account.HasFiniteMetrics)
    (isKept : ∀ holding, holding.HasFiniteMetrics → (change holding).HasFiniteMetrics) :
    (PlatformQuery.commit account
      (account.modifyCampaign campaign change sameKey)).2.HasFiniteMetrics := by
  rw [Account.modifyCampaign]
  split
  · exact areFinite
  · exact areFinite.modify sameKey isKept

theorem apply {edit : AccountEdit} (areFinite : account.HasFiniteMetrics)
    (bringsFinite : ∀ x ∈ edit.numbers, x.isFinite = true) :
    (edit.apply account).HasFiniteMetrics := by
  cases edit with
  | upsert workspace entity metrics =>
      refine areFinite.hold ?_
      rintro table ⟨rfl⟩
      exact Table.forall_ofList fun e found => bringsFinite e.2 (List.mem_map_of_mem found)
  | remove key => exact areFinite.remove key
  | clearMetrics key => exact areFinite.modify Holding.key_clearMetrics fun _ _ _ => nofun
  | setMetric key metric value =>
      exact areFinite.modify (Holding.key_setMetric metric value) fun _ before =>
        before.setMetric (bringsFinite value List.mem_cons_self)
  | reject campaign reason => exact areFinite
  | updateBudget campaign budget =>
      rw [AccountEdit.apply, PlatformQuery.answer, Account.updateBudget]
      split
      · exact areFinite
      · exact areFinite.commit (Holding.key_setMetric "budget" budget) fun _ before =>
          before.setMetric (bringsFinite budget List.mem_cons_self)
  | setPaused campaign paused =>
      exact areFinite.commit (Holding.key_setPaused paused) fun _ before => before

theorem applyAll {edits : List AccountEdit} (areFinite : account.HasFiniteMetrics)
    (bringFinite : ∀ edit ∈ edits, ∀ x ∈ edit.numbers, x.isFinite = true) :
    (edits.foldl AccountEdit.apply account).HasFiniteMetrics := by
  induction edits generalizing account with
  | nil => exact areFinite
  | cons edit edits ih =>
      exact ih (areFinite.apply (bringFinite edit List.mem_cons_self))
        fun other found => bringFinite other (List.mem_cons_of_mem _ found)

end HasFiniteMetrics

end Account

/-! ## The tree of an account -/

namespace Snapshot

theorem ofJson?_toJson {snapshot : Snapshot}
    (areFinite : ∀ e ∈ snapshot.entries, e.2.isFinite = true) :
    ofJson? snapshot.toJson = some snapshot := by
  have areRead : (snapshot.entries.map fun e => (e.1, Json.ofFloat e.2)).mapM
      (fun m => (Json.toFloat? m.2).map (m.1, ·)) = some snapshot.entries := by
    refine Json.mapM_map fun e found => ?_
    rw [Json.toFloat?_ofFloat (areFinite e found)]
    rfl
  calc ofJson? snapshot.toJson
      = (some snapshot.entries).bind fun entries => some (.ofList entries) :=
        congrArg (Option.bind · fun entries => some (Table.ofList entries)) areRead
    _ = some snapshot := congrArg some (Table.ofList_entries snapshot)

theorem areFinite_of_ofJson? {json : Json} {snapshot : Snapshot} (finite : json.IsFinite)
    (isRead : ofJson? json = some snapshot) :
    ∀ name x, snapshot.get? name = some x → x.isFinite = true := by
  obtain ⟨members, areMembers, isRead⟩ := Option.bind_eq_some_iff.1 isRead
  obtain ⟨entries, areEntries, isRead⟩ := Option.bind_eq_some_iff.1 isRead
  cases isRead
  refine Table.forall_ofList fun e found => ?_
  obtain ⟨⟨name, tree⟩, present, isEntry⟩ := Json.mem_of_mapM areEntries e found
  obtain ⟨x, isNumber, rfl⟩ := Option.map_eq_some_iff.1 isEntry
  cases finite with
  | obj areFinite =>
      cases areMembers
      exact (areFinite (name, tree) present).toFloat? isNumber
  | _ => cases areMembers

end Snapshot

namespace Holding

variable {holding : Holding}

theorem HasFiniteMetrics.forall_mem (areFinite : holding.HasFiniteMetrics) {metrics : Snapshot}
    (isHeld : holding.metrics = some metrics) : ∀ e ∈ metrics.entries, e.2.isFinite = true :=
  fun e found => areFinite metrics isHeld e.1 e.2 (Table.get?_eq_some_iff.2 found)

theorem ofJson?_toJson (areFinite : holding.HasFiniteMetrics) :
    ofJson? holding.toJson = some holding := by
  have metrics : Json.toOption? Snapshot.ofJson? (Json.ofOption Snapshot.toJson holding.metrics) =
      some holding.metrics :=
    Json.toOption?_ofOption rfl fun _ isHeld =>
      Snapshot.ofJson?_toJson (areFinite.forall_mem isHeld)
  have campaign : Json.toOption? Json.toText? (Json.ofOption .str holding.entity.campaignId) =
      some holding.entity.campaignId := Json.toOption?_ofOption rfl fun _ _ => rfl
  simp [toJson, ofJson?, Entity.toMembers, Entity.ofFields?, Json.namedFields?_obj, Json.toText?,
    Json.toBool?, metrics, campaign]

theorem hasFiniteMetrics_of_ofJson? {json : Json} (finite : json.IsFinite)
    (isRead : ofJson? json = some holding) : holding.HasFiniteMetrics := by
  obtain ⟨fields, isFields, isRead⟩ := Option.bind_eq_some_iff.1 isRead
  obtain ⟨workspace, -, isRead⟩ := Option.bind_eq_some_iff.1 isRead
  obtain ⟨entity, -, isRead⟩ := Option.bind_eq_some_iff.1 isRead
  obtain ⟨metrics, areMetrics, isRead⟩ := Option.bind_eq_some_iff.1 isRead
  obtain ⟨paused, -, isRead⟩ := Option.bind_eq_some_iff.1 isRead
  cases isRead
  rintro metrics rfl
  obtain ⟨tree, isFinite, isRead⟩ := (finite.namedFields? isFields).optional areMetrics
  exact Snapshot.areFinite_of_ofJson? isFinite isRead

/-- The tree of a holding is legible when its metrics are read back. -/
theorem isLegible {depth : Nat} (areFinite : holding.HasFiniteMetrics)
    (areReadBack : ∀ metrics, holding.metrics = some metrics →
      ∀ e ∈ metrics.entries, Json.IsReadBack (.float e.2)) :
    Json.IsLegible (depth + 2) holding.toJson := by
  have campaign : Json.IsLegible (depth + 1) (Json.ofOption .str holding.entity.campaignId) := by
    cases holding.entity.campaignId with
    | none => exact .null
    | some id => exact .str id
  have metrics : Json.IsLegible (depth + 1) (Json.ofOption Snapshot.toJson holding.metrics) := by
    cases isHeld : holding.metrics with
    | none => exact .null
    | some metrics =>
        refine .obj fun m found => ?_
        obtain ⟨e, isEntry, rfl⟩ := List.mem_map.1 found
        rw [Json.ofFloat, if_pos (areFinite.forall_mem isHeld e isEntry)]
        exact .float (areReadBack metrics isHeld e isEntry)
  refine .obj fun m found => ?_
  simp only [Entity.toMembers, List.cons_append, List.nil_append, List.mem_cons,
    List.not_mem_nil, or_false] at found
  rcases found with rfl | rfl | rfl | rfl | rfl | rfl | rfl | rfl
  · exact .str _
  · exact .str _
  · exact .str _
  · exact .str _
  · exact .str _
  · exact campaign
  · exact metrics
  · exact .bool _

end Holding

namespace Account

variable {account : Account}

/-- Holding entities under the keys that they name builds the table of the holdings. -/
theorem ofHoldings_values (account : Account) :
    ofHoldings account.holdings.values = { account with rejected := .empty } := by
  have held : ∀ (entries : List (EntityKey × Holding)) (start : Account),
      (∀ e ∈ entries, e.2.key = e.1) →
      ((entries.map Prod.snd).foldl hold start).holdings =
          entries.foldl (fun table e => table.insert e.1 e.2) start.holdings ∧
        ((entries.map Prod.snd).foldl hold start).rejected = start.rejected := by
    intro entries
    induction entries with
    | nil => exact fun _ _ => ⟨rfl, rfl⟩
    | cons e entries ih =>
        intro start areOwn
        rw [List.map_cons, List.foldl_cons, List.foldl_cons, ← areOwn e List.mem_cons_self]
        exact ih _ fun other found => areOwn other (List.mem_cons_of_mem _ found)
  obtain ⟨holdings, rejected⟩ := held account.holdings.entries .empty fun e found =>
    account.keyed e.1 e.2 (Table.get?_eq_some_iff.2 found)
  exact Account.ext (holdings.trans (Table.ofList_entries account.holdings)) rejected

theorem ofJson?_toJson (areFinite : account.HasFiniteMetrics) :
    ofJson? account.toJson = some { account with rejected := .empty } := by
  have areRead : Json.toList? Holding.ofJson?
      (.arr (account.holdings.values.map Holding.toJson)) = some account.holdings.values := by
    refine Json.toList?_map fun holding found => ?_
    obtain ⟨e, isHeld, rfl⟩ := List.mem_map.1 found
    exact Holding.ofJson?_toJson (areFinite e.1 e.2 (Table.get?_eq_some_iff.2 isHeld))
  simp [toJson, ofJson?, Json.fields?_obj, areRead, ofHoldings_values]

def numbers (account : Account) : List Float :=
  account.holdings.values.flatMap fun h => h.metrics.toList.flatMap Table.values

theorem isLegible (areFinite : account.HasFiniteMetrics)
    (areReadBack : ∀ x ∈ account.numbers, Json.IsReadBack (.float x)) :
    Json.IsLegible Json.maxDepth account.toJson := by
  refine .obj fun m found => ?_
  cases List.mem_singleton.1 found
  refine .arr fun item found => ?_
  obtain ⟨holding, isOne, rfl⟩ := List.mem_map.1 found
  obtain ⟨e, isHeld, rfl⟩ := List.mem_map.1 isOne
  refine Holding.isLegible (areFinite e.1 e.2 (Table.get?_eq_some_iff.2 isHeld)) ?_
  intro metrics isMetrics entry isEntry
  refine areReadBack entry.2 (List.mem_flatMap.2 ⟨e.2, isOne, ?_⟩)
  exact List.mem_flatMap.2 ⟨metrics, Option.mem_toList.2 isMetrics, List.mem_map_of_mem isEntry⟩

/-- An account has finite metrics when the numbers of its tree are finite. -/
theorem hasFiniteMetrics_of_ofJson? {json : Json} (finite : json.IsFinite)
    (isRead : ofJson? json = some account) : account.HasFiniteMetrics := by
  obtain ⟨fields, isFields, isRead⟩ := Option.bind_eq_some_iff.1 isRead
  obtain ⟨holdings, areRead, isRead⟩ := Option.bind_eq_some_iff.1 isRead
  cases isRead
  obtain ⟨list, isFinite, areRead⟩ := (finite.fields? isFields).required areRead
  have areFinite : ∀ holding ∈ holdings, holding.HasFiniteMetrics := by
    intro holding found
    obtain ⟨item, isFinite, isRead⟩ := isFinite.toList? areRead holding found
    exact Holding.hasFiniteMetrics_of_ofJson? isFinite isRead
  have held : ∀ (holdings : List Holding) (start : Account), start.HasFiniteMetrics →
      (∀ holding ∈ holdings, holding.HasFiniteMetrics) →
      HasFiniteMetrics (holdings.foldl hold start) := by
    intro holdings
    induction holdings with
    | nil => exact fun _ before _ => before
    | cons holding holdings ih =>
        intro start before areFinite
        exact ih _ (before.hold (areFinite holding List.mem_cons_self))
          fun other found => areFinite other (List.mem_cons_of_mem _ found)
  exact held holdings .empty .empty areFinite

theorem hasFiniteMetrics_of_read {text : String} (isRead : read text = .ok account) :
    account.HasFiniteMetrics := by
  rw [read] at isRead
  split at isRead
  · next other isAccount =>
    cases isRead
    obtain ⟨json, isParsed, isAccount⟩ := Option.bind_eq_some_iff.1 isAccount
    exact hasFiniteMetrics_of_ofJson? (Json.isFinite_of_parse? isParsed) isAccount
  · cases isRead

/-! ## Saving and loading -/

theorem read_write_of_hasFiniteMetrics (areFinite : account.HasFiniteMetrics)
    (areReadBack : ∀ x ∈ account.numbers, Json.IsReadBack (.float x)) :
    read account.write = .ok { account with rejected := .empty } := by
  have isParsed := Json.parse?_pretty (isLegible areFinite areReadBack)
  rw [read, write, isParsed, Option.bind_some, ofJson?_toJson areFinite]

/--
Start empty or from a file, and make any calls with finite metric values: the
file that is written then is accepted and gives the same entities, metrics and
pause flags under the same keys, each entity under its own workspace and id.
Only rejected budget updates are not in the file.  Numbers are assumed to be read back from
their own texts.
-/
theorem read_write_of_edits {start : Account} {edits : List AccountEdit}
    (isStart : start = .empty ∨ ∃ text, read text = .ok start)
    (areFinite : ∀ edit ∈ edits, ∀ x ∈ edit.numbers, x.isFinite = true)
    (areReadBack : ∀ x ∈ (edits.foldl AccountEdit.apply start).numbers,
      x.isFinite = true → Json.IsReadBack (.float x)) :
    ∃ again, read (edits.foldl AccountEdit.apply start).write = .ok again ∧
      again.holdings = (edits.foldl AccountEdit.apply start).holdings ∧
      again.rejected = .empty ∧
      ∀ key holding, again.holdings.get? key = some holding →
        holding.workspace = key.workspace ∧ holding.entity.id = key.entity := by
  have startFinite : start.HasFiniteMetrics := by
    rcases isStart with rfl | ⟨text, isRead⟩
    · exact .empty
    · exact hasFiniteMetrics_of_read isRead
  have remainFinite := startFinite.applyAll areFinite
  refine ⟨_, read_write_of_hasFiniteMetrics remainFinite fun x found => areReadBack x found ?_,
    rfl, rfl, fun key holding found => ?_⟩
  swap
  · rw [← Account.keyed _ key holding found]
    exact ⟨rfl, rfl⟩
  obtain ⟨_, isValue, inHolding⟩ := List.mem_flatMap.1 found
  obtain ⟨metrics, isMetrics, inMetrics⟩ := List.mem_flatMap.1 inHolding
  obtain ⟨e, isHeld, rfl⟩ := List.mem_map.1 isValue
  obtain ⟨entry, isEntry, rfl⟩ := List.mem_map.1 inMetrics
  have isFinite := remainFinite e.1 e.2 (Table.get?_eq_some_iff.2 isHeld)
  exact isFinite.forall_mem (Option.mem_toList.1 isMetrics) entry isEntry

def budgetText : String :=
  "\x7b\"entities\": [\x7b\"workspace_id\": \"w\", \"id\": \"x\", \"platform\": \"meta\", " ++
    "\"level\": \"campaign\", \"metrics\": \x7b\"budget\": 100\x7d\x7d]\x7d"

def budgetAccount : Account :=
  .ofHoldings [⟨"w", ⟨"x", "", .metaAds, .campaign, none⟩,
    some (.ofList [("budget", 100)]), false⟩]

/-- One call of each kind; the last change of a budget is rejected. -/
def budgetEdits : List AccountEdit :=
  [.upsert "w" ⟨"y", "\"Ad\"\n", .google, .ad, some "x"⟩ [], .updateBudget "x" 87.25,
    .setMetric ⟨"w", "x"⟩ "spend" (-0.0), .setPaused "x" true, .clearMetrics ⟨"w", "y"⟩,
    .reject "x" "closed", .updateBudget "x" 90, .remove ⟨"v", "x"⟩]

set_option maxRecDepth 20000 in
theorem read_write_of_edits_budgetEdits :
    ∃ again, read (budgetEdits.foldl AccountEdit.apply budgetAccount).write = .ok again ∧
      again.holdings = (budgetEdits.foldl AccountEdit.apply budgetAccount).holdings := by
  have isRead : read budgetText = .ok budgetAccount := rfl
  have areFinite : ∀ edit ∈ budgetEdits, ∀ x ∈ edit.numbers, x.isFinite = true := by
    decide +kernel
  have numbers : (budgetEdits.foldl AccountEdit.apply budgetAccount).numbers = [87.25, -0.0] := rfl
  obtain ⟨again, isLoaded, same, -, -⟩ :=
    read_write_of_edits (.inr ⟨budgetText, isRead⟩) areFinite fun x found _ => by
      rw [numbers] at found
      rcases List.mem_cons.1 found with rfl | found
      · exact (rfl : Json.IsReadBack (.float 87.25))
      · cases List.mem_singleton.1 found
        exact (rfl : Json.IsReadBack (.float (-0.0)))
  exact ⟨again, isLoaded, same⟩

end Account

end AdMonitor
