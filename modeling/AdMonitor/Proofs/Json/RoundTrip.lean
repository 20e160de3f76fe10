import AdMonitor.Action.Record
import AdMonitor.Proofs.Agent.Acceptance
import AdMonitor.Proofs.Instant.RoundTrip
import AdMonitor.Proofs.Json.Decoding

/-!
# What is written is read back

Agents, states and records are read back from the trees that they are written
as, provided that their numbers are finite and that their times are read back.
The numbers of an agent that was accepted are finite, and the times that clocks
show are read back.
-/

namespace AdMonitor

open Json

/-! ## Times -/

def Instant.IsReadBack (t : Instant) : Prop :=
  Instant.ofJson? t.toJson = some t

theorem Instant.IsRegular.isReadBack {t : Instant} (regular : t.IsRegular) : t.IsReadBack :=
  read?_write regular

/-! ## Words -/

@[simp] theorem Platform.ofJson?_toJson (platform : Platform) :
    Platform.ofJson? platform.toJson = some platform := by
  cases platform <;> rfl

@[simp] theorem Level.ofJson?_toJson (level : Level) :
    Level.ofJson? level.toJson = some level := by
  cases level <;> rfl

@[simp] theorem Status.ofJson?_name (status : Status) :
    Status.ofJson? (.str status.name) = some status := by
  cases status <;> rfl

@[simp] theorem Direction.ofJson?_name (direction : Direction) :
    Direction.ofJson? (.str direction.name) = some direction := by
  cases direction <;> rfl

@[simp] theorem TimeUnit.ofJson?_name (unit : TimeUnit) :
    TimeUnit.ofJson? (.str unit.name) = some unit := by
  cases unit <;> rfl

@[simp] theorem AccumulationMode.ofJson?_name (mode : AccumulationMode) :
    AccumulationMode.ofJson? (.str mode.name) = some mode := by
  cases mode <;> rfl

@[simp] theorem TriggerMode.ofJson?_name (mode : TriggerMode) :
    TriggerMode.ofJson? (.str mode.name) = some mode := by
  cases mode <;> rfl

@[simp] theorem Comparison.ofJson?_toJson (comparison : Comparison) :
    Comparison.ofJson? comparison.toJson = some comparison := by
  cases comparison <;> rfl

@[simp] theorem Connective.ofJson?_toJson (connective : Connective) :
    Connective.ofJson? connective.toJson = some connective := by
  cases connective <;> rfl

/-! ## Agents -/

theorem Selection.ofJson?_toJson (selection : Selection) :
    Selection.ofJson? selection.toJson = some selection := by
  cases selection with
  | all aggregate => simp [toJson, ofJson?, variant?_obj, fields?_obj, toText?, toBool?]
  | listed ids => simp [toJson, ofJson?, variant?_obj, fields?_obj, toText?]

theorem Scope.ofJson?_toJson (scope : Scope) : Scope.ofJson? scope.toJson = some scope := by
  have platform : toOption? Platform.ofJson? (ofOption Platform.toJson scope.filter.platform) =
      some scope.filter.platform := toOption?_ofOption rfl fun _ _ => Platform.ofJson?_toJson _
  simp [toJson, ofJson?, fields?_obj, platform, Selection.ofJson?_toJson]

theorem AccumulationRule.ofJson?_toJson (rule : AccumulationRule) :
    AccumulationRule.ofJson? rule.toJson = some rule := by
  obtain ⟨required, unit, mode, window⟩ := rule
  have isRead : ∀ n : UInt32, toNat? 32 (.int n.toNat) = some n.toNat :=
    fun n => toNat?_int n.toNat_lt
  cases window with
  | none => simp [toJson, ofJson?, fields?_obj, Json.optional, isRead]
  | some window =>
      have isWindow := toOption?_of_decodes rfl (isRead window)
      simp [toJson, ofJson?, fields?_obj, Json.optional, isRead, isWindow]

theorem TriggerRule.ofJson?_toJson (rule : TriggerRule) :
    TriggerRule.ofJson? rule.toJson = some rule := by
  have isRead : toNat? 32 (.int rule.cooldownMinutes.toNat) = some rule.cooldownMinutes.toNat :=
    toNat?_int rule.cooldownMinutes.toNat_lt
  simp [toJson, ofJson?, fields?_obj, isRead]

namespace BudgetPlan

def numbers (plan : BudgetPlan) : List Float :=
  plan.percent :: (plan.min.toList ++ plan.max.toList)

end BudgetPlan

namespace Action

def numbers : Action → List Float
  | .scaleBudget plan => plan.numbers
  | .email | .pauseCampaign | .webhook _ => []

theorem ofJson?_toJson {action : Action}
    (isFinite : ∀ x ∈ action.numbers, x.isFinite = true) :
    ofJson? action.toJson = some action := by
  cases action with
  | email | pauseCampaign =>
      simp [toJson, ofJson?, kind, toMembers, variant?_obj, fields?_obj, toText?]
  | webhook url =>
      simp [toJson, ofJson?, kind, toMembers, variant?_obj, fields?_obj, toText?]
  | scaleBudget plan =>
      obtain ⟨direction, percent, min, max⟩ := plan
      have isRead : ∀ x ∈ [percent] ++ min.toList ++ max.toList,
          toFloat? (ofFloat x) = some x := fun x found =>
        toFloat?_ofFloat (isFinite x (by simpa [numbers, BudgetPlan.numbers] using found))
      have isBound : ∀ x ∈ min.toList ++ max.toList,
          toOption? toFloat? (ofFloat x) = some (some x) := fun x found =>
        toOption?_of_decodes rfl (isRead x (by simpa using Or.inr found))
      cases min <;> cases max <;>
        simp_all [toJson, ofJson?, kind, toMembers, variant?_obj, fields?_obj, toText?,
          Json.optional]

end Action

namespace Condition

mutual

def bounds : Condition → List Float
  | .threshold _ _ bound => [bound]
  | .composite _ children => boundsOf children

def boundsOf : List Condition → List Float
  | [] => []
  | child :: rest => bounds child ++ boundsOf rest

end

mutual

theorem ofJson?_toJson : {condition : Condition} →
    (∀ x ∈ condition.bounds, x.isFinite = true) → ofJson? condition.toJson = some condition
  | .threshold metric comparison bound, isFinite => by
      have isRead := toFloat?_ofFloat (isFinite bound List.mem_cons_self)
      simp [toJson, ofJson?, ofVariant?, thresholdOf?, variant?_obj, fields?_obj, toText?, isRead]
  | .composite connective children, isFinite => by
      have areRead := itemsOf?_toJsonList (fun x found => isFinite x found)
      simp [toJson, ofJson?, ofVariant?, connectiveOf?, childrenOf?, listOf?, variant?_obj,
        fields?_obj, toText?, areRead]

theorem itemsOf?_toJsonList : {children : List Condition} →
    (∀ x ∈ boundsOf children, x.isFinite = true) →
      itemsOf? (toJsonList children) = some children
  | [], _ => rfl
  | child :: rest, isFinite => by
      have isRead := ofJson?_toJson fun x found =>
        isFinite x (List.mem_append_left (boundsOf rest) found)
      have areRead := itemsOf?_toJsonList fun x found =>
        isFinite x (List.mem_append_right (bounds child) found)
      simp [toJsonList, itemsOf?, isRead, areRead]

end

end Condition

namespace Agent

def numbers (agent : Agent) : List Float :=
  agent.condition.bounds ++ agent.actions.flatMap Action.numbers

def times (agent : Agent) : List Instant :=
  agent.createdAt :: agent.updatedAt :: agent.lastEvaluatedAt.toList

theorem ofJson?_toJson {now : Instant} {agent : Agent}
    (isFinite : ∀ x ∈ agent.numbers, x.isFinite = true)
    (isRead : ∀ t ∈ agent.times, t.IsReadBack) :
    ofJson? now agent.toJson = some agent := by
  have condition := Condition.ofJson?_toJson fun x found =>
    isFinite x (List.mem_append_left _ found)
  have actions : toList? Action.ofJson? (.arr (agent.actions.map Action.toJson)) =
      some agent.actions := toList?_map fun action present =>
    Action.ofJson?_toJson fun x found => isFinite x
      (List.mem_append_right _ (List.mem_flatMap_of_mem present found))
  have created : Instant.ofJson? agent.createdAt.toJson = some agent.createdAt :=
    isRead agent.createdAt (by simp [times])
  have updated : Instant.ofJson? agent.updatedAt.toJson = some agent.updatedAt :=
    isRead agent.updatedAt (by simp [times])
  have evaluated : toOption? Instant.ofJson? (ofOption Instant.toJson agent.lastEvaluatedAt) =
      some agent.lastEvaluatedAt :=
    toOption?_ofOption rfl fun t same => isRead t (by simp [times, same])
  simp [toJson, ofJson?, fields?_obj, toText?, condition, actions, created, updated, evaluated,
    Scope.ofJson?_toJson, AccumulationRule.ofJson?_toJson, TriggerRule.ofJson?_toJson]

end Agent

/-! ## States -/

theorem Progress.ofJson?_toJson (progress : Progress) :
    Progress.ofJson? progress.toJson = some progress := by
  cases progress with
  | streak count =>
      have isRead : toNat? 32 (.int count.toNat) = some count.toNat := toNat?_int count.toNat_lt
      simp [toJson, ofJson?, variant?_obj, fields?_obj, toText?, isRead]
  | window outcomes =>
      have areRead : toList? toBool? (.arr (outcomes.map .bool)) = some outcomes :=
        toList?_map fun _ _ => rfl
      simp [toJson, ofJson?, variant?_obj, fields?_obj, toText?, areRead]

theorem Firings.ofJson?_toJson {firings : Firings}
    (isRead : ∀ t, firings.lastFiredAt = some t → t.IsReadBack) :
    Firings.ofJson? firings.toJson = some firings := by
  have count : toNat? 64 (.int firings.count.toNat) = some firings.count.toNat :=
    toNat?_int firings.count.toNat_lt
  have fired : toOption? Instant.ofJson? (ofOption Instant.toJson firings.lastFiredAt) =
      some firings.lastFiredAt := toOption?_ofOption rfl isRead
  simp [toJson, ofJson?, fields?_obj, toBool?, count, fired]

namespace TargetState

def times (state : TargetState) : List Instant :=
  state.updatedAt :: state.firings.lastFiredAt.toList

theorem ofJson?_toJson {state : TargetState}
    (fits : ∀ n ∈ state.lastTick, n < 2 ^ 64)
    (isRead : ∀ t ∈ state.times, t.IsReadBack) :
    ofJson? state.toJson = some state := by
  have firings : Firings.ofJson? state.firings.toJson = some state.firings :=
    Firings.ofJson?_toJson fun t same => isRead t (by simp [times, same])
  have updated : Instant.ofJson? state.updatedAt.toJson = some state.updatedAt :=
    isRead state.updatedAt (by simp [times])
  have last : toOption? (toNat? 64) (ofOption (fun (n : Nat) => .int n) state.lastTick) =
      some state.lastTick := toOption?_ofOption rfl fun n same => toNat?_int (fits n same)
  simp [toJson, ofJson?, fields?_obj, firings, updated, last, Progress.ofJson?_toJson]

end TargetState

/-! ## Records -/

theorem ActionResult.ofJson?_toJson (result : ActionResult) :
    ActionResult.ofJson? result.toJson = some result := by
  cases result with
  | success => rfl
  | failed reason | skipped reason =>
      simp [toJson, ofJson?, namedFields?_obj, Fields.find?, ofParts?, toWord?]

namespace BudgetChange

def numbers (change : BudgetChange) : List Float :=
  [change.previous, change.raw, change.new]

theorem ofJson?_toJson {change : BudgetChange}
    (isFinite : ∀ x ∈ change.numbers, x.isFinite = true) :
    ofJson? change.toJson = some change := by
  obtain ⟨campaign, previous, raw, new, clamped, error⟩ := change
  have isRead : ∀ x ∈ [previous, raw, new], toFloat? (ofFloat x) = some x := fun x found =>
    toFloat?_ofFloat (isFinite x found)
  cases error <;>
    simp_all [toJson, ofJson?, fields?_obj, toText?, toBool?, toOption?, Json.optional]

end BudgetChange

namespace ActionDetail

def numbers : ActionDetail → List Float
  | .budget changes _ => changes.flatMap BudgetChange.numbers
  | .notification | .pause _ | .webhook .. => []

theorem ofJson?_toJson {detail : ActionDetail}
    (isFinite : ∀ x ∈ detail.numbers, x.isFinite = true) :
    ofJson? detail.toJson = some detail := by
  cases detail with
  | notification => simp [toJson, ofJson?, variant?_obj, fields?_obj, toText?]
  | pause campaigns => simp [toJson, ofJson?, variant?_obj, fields?_obj, toText?]
  | budget changes warning =>
      have areRead : toList? BudgetChange.ofJson? (.arr (changes.map BudgetChange.toJson)) =
          some changes := toList?_map fun change present =>
        BudgetChange.ofJson?_toJson fun x found =>
          isFinite x (List.mem_flatMap_of_mem present found)
      cases warning <;>
        simp [toJson, ofJson?, variant?_obj, fields?_obj, toText?, toOption?,
          Json.optional, areRead]
  | webhook status attempts =>
      have isRead : toNat? 32 (.int attempts.toNat) = some attempts.toNat :=
        toNat?_int attempts.toNat_lt
      cases status with
      | none =>
          simp [toJson, ofJson?, variant?_obj, fields?_obj, toText?, Json.optional, isRead]
      | some status =>
          have isStatus : toOption? (toNat? 16) (.int status.toNat) = some (some status.toNat) :=
            toOption?_of_decodes rfl (toNat?_int status.toNat_lt)
          simp [toJson, ofJson?, variant?_obj, fields?_obj, toText?, Json.optional, isRead,
            isStatus]

end ActionDetail

namespace ActionRecord

def numbers (record : ActionRecord) : List Float :=
  record.detail.toList.flatMap ActionDetail.numbers

theorem ofJson?_toJson {record : ActionRecord}
    (isFinite : ∀ x ∈ record.numbers, x.isFinite = true) (fits : record.index < 2 ^ 64)
    (isRead : record.executedAt.IsReadBack) :
    ofJson? record.toJson = some record := by
  obtain ⟨index, kind, result, detail, executedAt⟩ := record
  have isIndex : toNat? 64 (.int index) = some index := toNat?_int fits
  have isTime : Instant.ofJson? executedAt.toJson = some executedAt := isRead
  cases detail with
  | none =>
      simp [toJson, ofJson?, fields?_obj, toText?, Json.optional, ActionResult.ofJson?_toJson,
        isIndex, isTime]
  | some detail =>
      have isDetail : toOption? ActionDetail.ofJson? detail.toJson = some (some detail) :=
        toOption?_of_decodes rfl (ActionDetail.ofJson?_toJson fun x found =>
          isFinite x (by simpa [numbers] using found))
      simp [toJson, ofJson?, fields?_obj, toText?, Json.optional, ActionResult.ofJson?_toJson,
        isIndex, isTime, isDetail]

end ActionRecord

/-! ## Accepted agents -/

/-- Steps that succeed one after the other each succeed. -/
private theorem bind_eq_ok {ε α β : Type} {step : Except ε α} {next : α → Except ε β} {b : β} :
    (step >>= next) = .ok b ↔ ∃ a, step = .ok a ∧ next a = .ok b := by
  cases step with
  | error fault => exact ⟨nofun, nofun⟩
  | ok a => exact ⟨fun same => ⟨a, rfl, same⟩, fun ⟨_, rfl, same⟩ => same⟩

namespace Condition

mutual

theorem isFinite_of_checkNodes : {condition : Condition} → condition.checkNodes = .ok () →
    ∀ x ∈ condition.bounds, x.isFinite = true
  | .threshold metric comparison bound, accepted => by
      intro x found
      cases List.mem_singleton.1 found
      rw [checkNodes] at accepted
      split at accepted
      · cases accepted
      · split at accepted
        · cases accepted
        · next isFinite => simpa using isFinite
  | .composite _ [], accepted => by
      rw [checkNodes] at accepted
      cases accepted
  | .composite _ (child :: rest), accepted => by
      rw [checkNodes, ← checkNodesOf] at accepted
      exact isFinite_of_checkNodesOf accepted

theorem isFinite_of_checkNodesOf : {children : List Condition} →
    checkNodesOf children = .ok () → ∀ x ∈ boundsOf children, x.isFinite = true
  | [], _ => fun _ found => nomatch found
  | child :: rest, accepted => by
      rw [checkNodesOf] at accepted
      obtain ⟨_, first, others⟩ := bind_eq_ok.1 accepted
      intro x found
      rcases List.mem_append.1 found with found | found
      · exact isFinite_of_checkNodes first x found
      · exact isFinite_of_checkNodesOf others x found

end

end Condition

namespace BudgetPlan

theorem isFinite_of_check {plan : BudgetPlan} (accepted : plan.check = .ok ()) :
    ∀ x ∈ plan.numbers, x.isFinite = true := by
  rw [check] at accepted
  split at accepted
  · cases accepted
  · next percent =>
    obtain ⟨_, bounds, _⟩ := bind_eq_ok.1 accepted
    intro x found
    rcases List.mem_cons.1 found with rfl | found
    · simp only [Bool.not_eq_true', Bool.not_eq_false, Bool.and_eq_true] at percent
      exact percent.1.1
    · rw [checkBounds] at bounds
      split at bounds
      · cases bounds
      · next allBounds =>
        have isBound := List.find?_eq_none.1 allBounds x found
        simp only [BudgetPlan.isBound, Bool.not_eq_true', Bool.not_eq_false,
          Bool.and_eq_true] at isBound
        exact isBound.1

end BudgetPlan

namespace Action

theorem isFinite_of_check [UrlParser] {action : Action} (accepted : action.check = .ok ()) :
    ∀ x ∈ action.numbers, x.isFinite = true := by
  cases action with
  | email | pauseCampaign | webhook => exact fun _ found => nomatch found
  | scaleBudget plan => exact BudgetPlan.isFinite_of_check accepted

end Action

namespace Agent

/-- Every number of an accepted agent is finite. -/
theorem isFinite_of_validate [UrlParser] {limit : Nat} {agent : Agent}
    (accepted : agent.validate limit = .ok ()) : ∀ x ∈ agent.numbers, x.isFinite = true := by
  have checked : agent.condition.check limit = .ok () := (validate_eq_ok_iff.1 accepted).2
  intro x found
  rcases List.mem_append.1 found with found | found
  · rw [Condition.check] at checked
    split at checked
    · cases checked
    · exact Condition.isFinite_of_checkNodes checked x found
  · obtain ⟨action, isOwn, found⟩ := List.mem_flatMap.1 found
    have sound := check_of_validate accepted isOwn
    exact Action.isFinite_of_check sound x found

end Agent

/-! ## What is written is read back -/

/--
Agents, states and records with finite numbers are equal to what is read from
their trees, also when the reader would supply other times for missing ones.
Counts have to fit into 64 bits.  The numbers of an accepted agent are finite.
-/
theorem written_is_readBack [UrlParser] :
    (∀ (now : Instant) (agent : Agent), (∀ x ∈ agent.numbers, x.isFinite = true) →
      (∀ t ∈ agent.times, t.IsReadBack) → Agent.ofJson? now agent.toJson = some agent) ∧
    (∀ (limit : Nat) (agent : Agent), agent.validate limit = .ok () →
      ∀ x ∈ agent.numbers, x.isFinite = true) ∧
    (∀ state : TargetState, (∀ n ∈ state.lastTick, n < 2 ^ 64) →
      (∀ t ∈ state.times, t.IsReadBack) → TargetState.ofJson? state.toJson = some state) ∧
    (∀ record : ActionRecord, (∀ x ∈ record.numbers, x.isFinite = true) →
      record.index < 2 ^ 64 → record.executedAt.IsReadBack →
        ActionRecord.ofJson? record.toJson = some record) ∧
    ∀ t : Instant, t.IsRegular → t.IsReadBack :=
  ⟨fun _ _ => Agent.ofJson?_toJson, fun _ _ => Agent.isFinite_of_validate,
    fun _ => TargetState.ofJson?_toJson, fun _ => ActionRecord.ofJson?_toJson,
    fun _ => Instant.IsRegular.isReadBack⟩

def Agent.nested : Agent where
  id := "a"
  workspace := "w"
  name := ""
  status := .paused
  scope := ⟨⟨none, .ad⟩, .listed ["x", "y"]⟩
  condition := .composite .all
    [.threshold "spend" .above 100.5, .composite .any [.threshold "roas" .below (-0.0)]]
  accumulation := ⟨3, .days, .withinWindow, some 7⟩
  trigger := ⟨.cooldown, 30⟩
  actions := [.email, .scaleBudget ⟨.down, 12.5, none, some 900⟩]
  createdAt := ⟨1700000000, 0⟩
  updatedAt := ⟨1483228799, 1500000000⟩
  lastEvaluatedAt := none

def ActionRecord.rejected : ActionRecord where
  index := 1
  kind := "scale_budget"
  result := .failed "1 of 1 updates"
  detail := some (.budget [⟨"x", 100, 87.5, 87.5, false, some "closed"⟩] none)
  executedAt := ⟨1700000000, 0⟩

/-- A state after a firing in the last tick that can be counted. -/
def TargetState.latest : TargetState where
  progress := .window [true, false]
  firings := ⟨true, some ⟨1483228799, 1500000000⟩, 1⟩
  lastTick := some (2 ^ 64 - 1)
  updatedAt := ⟨1700000000, 0⟩

attribute [local instance] UrlParser.refusing

/-- The agent is accepted, and all three are read back; two of the times are in a leap second. -/
theorem written_is_readBack_nested :
    Agent.nested.validate 16 = .ok () ∧
      Agent.ofJson? default Agent.nested.toJson = some Agent.nested ∧
      TargetState.ofJson? TargetState.latest.toJson = some .latest ∧
      ActionRecord.ofJson? ActionRecord.rejected.toJson = some .rejected := by
  obtain ⟨agents, accepted, states, records, times⟩ := written_is_readBack
  have isAccepted : Agent.nested.validate 16 = .ok () := by decide +kernel
  have usual : Instant.IsReadBack ⟨1700000000, 0⟩ := times _ ⟨by decide, .inl (by decide)⟩
  have leap : Instant.IsReadBack ⟨1483228799, 1500000000⟩ := times _ ⟨by decide, .inr (by decide)⟩
  refine ⟨isAccepted, agents _ _ (accepted 16 _ isAccepted) ?_, states _ ?_ ?_,
    records _ (by decide) (by decide) usual⟩
  · simpa [Agent.times, Agent.nested] using ⟨usual, leap⟩
  · simp [TargetState.latest]
  · simpa [TargetState.times, TargetState.latest] using ⟨usual, leap⟩

end AdMonitor
