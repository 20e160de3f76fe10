import AdMonitor.Proofs.Budget.Stage
import Mathlib.Data.List.Induction

/-!
# Concurrent budget changes compound

Any number of firings run their actions at the same time and share the locks of
campaigns.  A budget is read and written under one hold of its lock, so the
changes that the platform takes build on each other in the order in which it
takes them, and none is lost.
-/

namespace AdMonitor

variable {outside : Outside}

structure Executor (outside : Outside) where
  jobs : List (Program (List ActionRecord))
  shared : Shared outside
  /-- Every exchange there was, the newest first. -/
  log : List Exchange

namespace Executor

def start (shared : Shared outside) : Executor outside := ⟨[], shared, []⟩

inductive Turn (outside : Outside) where
  | launch (firing : Firing)
  | proceed (index : Nat) (reaction : Reaction outside)

/-- Take a turn; one that is not possible changes nothing. -/
def take (rule : ExecutionRule) (executor : Executor outside) : Turn outside → Executor outside
  | .launch firing => { executor with jobs := executor.jobs ++ [firing.run rule] }
  | .proceed index reaction =>
      match executor.jobs[index]?.bind fun job => executor.shared.proceed reaction job with
      | none => executor
      | some (exchange, job, shared) =>
          ⟨executor.jobs.set index job, shared, exchange :: executor.log⟩

def run (rule : ExecutionRule) (executor : Executor outside) (turns : List (Turn outside)) :
    Executor outside :=
  turns.foldl (take rule) executor

end Executor

def Exchange.newBudget? (campaign : CampaignId) : Exchange → Option Float
  | ⟨.platform _ (.updateBudget own budget), .answered (.ok _)⟩ =>
      if own = campaign then some budget else none
  | _ => none

/--
Whether the platform reports the live budget of a campaign, and changes it by
nothing but updates that succeed.
-/
structure Outside.KeepsBudget (outside : Outside) (campaign : CampaignId)
    (live : outside.World → Float) : Prop where
  reports : ∀ mood world limit found,
    (outside.answer mood world (.platform limit (.currentBudget campaign))).1 =
      .answered (.ok found) → found = some (live world)
  changes : ∀ mood world call,
    live (outside.answer mood world call).2 =
      (Exchange.newBudget? campaign ⟨call, (outside.answer mood world call).1⟩).getD (live world)

def AreFinite (campaign : CampaignId) (log : List Exchange) : Prop :=
  ∀ exchange ∈ log, ∀ budget, exchange.newBudget? campaign = some budget → budget.isFinite = true

/-- Whether changes, each of which starts from what the last one left, lead to a budget. -/
def Compounds (initial : Float) : List BudgetChange → Float → Prop
  | [], final => final = initial
  | change :: later, final => change.previous = initial ∧ Compounds change.new later final

theorem Compounds.concat {initial : Float} {order : List BudgetChange} {change : BudgetChange}
    (compounds : Compounds initial order change.previous) :
    Compounds initial (order ++ [change]) change.new := by
  induction order generalizing initial with
  | nil => exact ⟨compounds, rfl⟩
  | cons first later ih => exact ⟨compounds.1, ih compounds.2⟩

def BudgetStage.madeFor (campaign : CampaignId) (stage : BudgetStage) : List BudgetChange :=
  stage.made.filter fun change => change.campaign == campaign

namespace BudgetStep

variable {before after : BudgetStage} {exchange : Exchange}

/-- A step takes a change of a campaign, or leaves its changes and its budget alone. -/
theorem newBudget_cases (step : BudgetStep before exchange after) (campaign : CampaignId) :
    (exchange.newBudget? campaign = none ∧ after.madeFor campaign = before.madeFor campaign) ∨
      ∃ lock change, before.use = .told campaign lock change.previous ∧
        after.use = .held campaign lock ∧ exchange.newBudget? campaign = some change.new ∧
        after.madeFor campaign = before.madeFor campaign ++ [change] := by
  cases step with
  | write made own lock limit change isOwn =>
      by_cases same : own = campaign
      · refine Or.inr ⟨lock, change, by rw [same], by rw [same], ?_, ?_⟩
        · simp [Exchange.newBudget?, same]
        · simp [BudgetStage.madeFor, isOwn, same]
      · refine Or.inl ⟨?_, ?_⟩
        · simp [Exchange.newBudget?, same]
        · simp [BudgetStage.madeFor, isOwn, same]
  | errand made exchange isErrand =>
      refine Or.inl ⟨?_, rfl⟩
      obtain ⟨call, answer⟩ := exchange
      cases call with
      | platform => cases isErrand
      | _ => rfl
  | consult made own lock limit query reply writesNothing =>
      refine Or.inl ⟨?_, rfl⟩
      cases query with
      | updateBudget own budget => exact absurd rfl (writesNothing own budget)
      | _ => rfl
  | refuse made own lock limit previous budget reply isRefused =>
      refine Or.inl ⟨?_, rfl⟩
      rcases reply with (_ | _) | _
      · rfl
      · exact absurd rfl isRefused
      · rfl
  | _ => exact Or.inl ⟨rfl, rfl⟩

/-- A budget that was just found is the one reported, if that one is finite. -/
theorem told_cases (step : BudgetStep before exchange after) {campaign : CampaignId}
    {lock : LockId} {previous : Float} (isTold : after.use = .told campaign lock previous) :
    ∃ limit found, exchange = ⟨.platform limit (.currentBudget campaign), .answered (.ok found)⟩ ∧
      ∀ budget, found = some budget → budget.isFinite = true → previous = budget := by
  cases step with
  | read made own lock limit found fallback previous isFound =>
      cases isTold
      refine ⟨limit, found, rfl, ?_⟩
      rintro budget rfl isFinite
      simpa [Option.filter, isFinite, eq_comm] using isFound
  | _ => cases isTold

end BudgetStep

namespace Executor

def locksOf (kind : BudgetUse → List NamedLock) (stages : List BudgetStage) (index : Nat) :
    List NamedLock :=
  (stages[index]?.map fun stage => kind stage.use).getD []

/-- What holds of a campaign when actions have come to some stages. -/
structure Sound (campaign : CampaignId) (live : outside.World → Float) (initial : Float)
    (executor : Executor outside) (stages : List BudgetStage) : Prop where
  lengths : stages.length = executor.jobs.length
  follow : ∀ (index : Nat) job stage, executor.jobs[index]? = some job →
    stages[index]? = some stage → job.Follows BudgetStep
      (fun stage records => stage = ⟨.none, ActionRecord.confirmed records⟩) stage
  discipline : LockDiscipline executor.shared.locks (locksOf BudgetUse.knownLocks stages)
    (locksOf BudgetUse.heldLocks stages)
  settled : executor.shared.locks.Settles (locksOf BudgetUse.knownLocks stages) (.campaign campaign)
  finite : (live executor.shared.world).isFinite = true
  told : ∀ stage ∈ stages, ∀ lock previous, stage.use = .told campaign lock previous →
    previous = live executor.shared.world
  compounds : ∃ order : List BudgetChange,
    order.Perm (stages.flatMap (BudgetStage.madeFor campaign)) ∧
      Compounds initial order (live executor.shared.world)


section Stages

variable {stages : List BudgetStage} {index : Nat} {before after : BudgetStage}
  {kind : BudgetUse → List NamedLock}

theorem locksOf_of_getElem? (kind : BudgetUse → List NamedLock)
    (isBefore : stages[index]? = some before) :
    locksOf kind stages index = kind before.use := by
  simp [locksOf, isBefore]

theorem locksOf_set (kind : BudgetUse → List NamedLock)
    (isBefore : stages[index]? = some before) :
    locksOf kind (stages.set index after) index = kind after.use := by
  have isInside := (List.getElem?_eq_some_iff.1 isBefore).1
  simp [locksOf, isInside]

theorem locksOf_set_of_ne {other : Nat} (isOther : other ≠ index) :
    locksOf kind (stages.set index after) other = locksOf kind stages other := by
  simp [locksOf, List.getElem?_set_ne isOther.symm]

/-- Whoever begins has no locks. -/
theorem locksOf_concat (isEmpty : kind after.use = []) :
    locksOf kind (stages ++ [after]) = locksOf kind stages := by
  funext index
  unfold locksOf
  rcases Nat.lt_trichotomy index stages.length with inside | rfl | outside
  · rw [List.getElem?_append_left inside]
  · simp [isEmpty]
  · rw [List.getElem?_eq_none (by simp; omega), List.getElem?_eq_none (by omega)]

theorem flatMap_set_perm {β : Type} {f : BudgetStage → List β} {extra : List β}
    (isBefore : stages[index]? = some before) (grows : f after = f before ++ extra) :
    ((stages.set index after).flatMap f).Perm (stages.flatMap f ++ extra) := by
  induction stages generalizing index with
  | nil => cases isBefore
  | cons stage rest ih =>
      cases index with
      | zero =>
          cases isBefore
          rw [List.set_cons_zero, List.flatMap_cons, List.flatMap_cons, grows, List.append_assoc,
            List.append_assoc]
          exact (List.perm_append_comm).append_left _
      | succ index =>
          rw [List.set_cons_succ, List.flatMap_cons, List.flatMap_cons, List.append_assoc]
          exact (ih isBefore).append_left _

end Stages

/-- The live budget after a call. -/
theorem live_of_answer {campaign : CampaignId} {live : outside.World → Float}
    (keeps : outside.KeepsBudget campaign live) {shared after : Shared outside}
    {reaction : Reaction outside} {call : Call} {answer : call.Answer}
    (answered : shared.answer reaction call = some (answer, after)) :
    live after.world = (Exchange.newBudget? campaign ⟨call, answer⟩).getD (live shared.world) := by
  cases call with
  | agents query => rcases Shared.answer_agents answered with ⟨-, rfl⟩ | ⟨_, -, rfl⟩ <;> rfl
  | states query => rcases Shared.answer_states answered with ⟨-, rfl⟩ | ⟨-, rfl⟩ <;> rfl
  | lock query =>
      obtain ⟨locks, -, rfl⟩ := Shared.answer_lock answered
      rfl
  | _ =>
      cases answered
      exact keeps.changes ..

/-- A budget that is reported and finite is the live one. -/
theorem reported_of_answer {campaign : CampaignId} {live : outside.World → Float}
    (keeps : outside.KeepsBudget campaign live) {shared after : Shared outside}
    {reaction : Reaction outside} {limit : Span} {found : Option Float}
    (answered : shared.answer reaction (.platform limit (.currentBudget campaign)) =
      some (.answered (.ok found), after)) : found = some (live shared.world) := by
  obtain ⟨answer, -⟩ := Prod.mk.inj (Option.some.inj answered)
  exact keeps.reports reaction.mood shared.world limit found answer

/-- A budget that actions have just been told is the live one. -/
theorem told_of_answer {campaign : CampaignId} {live : outside.World → Float}
    (keeps : outside.KeepsBudget campaign live) {shared next : Shared outside}
    (isFinite : (live shared.world).isFinite = true) {reaction : Reaction outside}
    {before after : BudgetStage} {exchange : Exchange}
    (step : BudgetStep before exchange after)
    (answered : shared.answer reaction exchange.call = some (exchange.answer, next))
    {lock : LockId} {previous : Float} (isTold : after.use = .told campaign lock previous) :
    previous = live next.world := by
  obtain ⟨limit, found, rfl, isFound⟩ := step.told_cases isTold
  have same : live next.world = live shared.world := live_of_answer keeps answered
  rw [same]
  exact isFound _ (reported_of_answer keeps answered) isFinite

namespace Sound

variable {campaign : CampaignId} {live : outside.World → Float} {initial : Float}
  {executor : Executor outside} {stages : List BudgetStage}

theorem launch {rule : ExecutionRule} (sound : executor.Sound campaign live initial stages)
    (firing : Firing) :
    (executor.take rule (.launch firing)).Sound campaign live initial
      (stages ++ [⟨.none, []⟩]) := by
  obtain ⟨lengths, follow, discipline, settled, finite, told, compounds⟩ := sound
  refine ⟨by simp [take, lengths], fun index job stage isJob isStage => ?_, ?_, ?_, finite,
    ?_, ?_⟩
  · rcases Nat.lt_trichotomy index executor.jobs.length with inside | isLast | outside
    · rw [take, List.getElem?_append_left inside] at isJob
      rw [List.getElem?_append_left (lengths ▸ inside)] at isStage
      exact follow index job stage isJob isStage
    · rw [take, isLast, List.getElem?_concat_length] at isJob
      rw [isLast, ← lengths, List.getElem?_concat_length] at isStage
      cases isJob
      cases isStage
      exact (firing.run_rescales rule).follows []
    · have isInside := (List.getElem?_eq_some_iff.1 isStage).1
      rw [List.length_append, lengths] at isInside
      exact absurd outside (Nat.not_lt.2 (Nat.le_of_lt_succ isInside))
  · rwa [locksOf_concat rfl, locksOf_concat rfl]
  · rwa [locksOf_concat rfl]
  · intro stage found lock previous isTold
    rcases List.mem_append.1 found with old | new
    · exact told stage old lock previous isTold
    · cases List.mem_singleton.1 new
      cases isTold
  · simpa [BudgetStage.madeFor, take] using compounds

/-- One step of the actions at a position. -/
theorem proceed (sound : executor.Sound campaign live initial stages)
    (keeps : outside.KeepsBudget campaign live) {index : Nat} {reaction : Reaction outside}
    {job next : Program (List ActionRecord)} {exchange : Exchange} {shared : Shared outside}
    (isJob : executor.jobs[index]? = some job)
    (found : executor.shared.proceed reaction job = some (exchange, next, shared))
    (areFinite : AreFinite campaign (exchange :: executor.log)) :
    ∃ stages, Executor.Sound campaign live initial
      ⟨executor.jobs.set index next, shared, exchange :: executor.log⟩ stages := by
  obtain ⟨lengths, follow, discipline, settled, finite, told, order, isOrder, compounds⟩ := sound
  have isInside := (List.getElem?_eq_some_iff.1 isJob).1
  obtain ⟨before, isBefore⟩ : ∃ before, stages[index]? = some before :=
    ⟨_, List.getElem?_eq_getElem (lengths ▸ isInside)⟩
  obtain ⟨after, step, follows⟩ := (follow index job before isJob isBefore).proceed found
  obtain ⟨answered, -⟩ := Shared.proceed_eq_some found
  have moves := step.lockMove
  rw [← locksOf_of_getElem? BudgetUse.knownLocks isBefore,
    ← locksOf_of_getElem? BudgetUse.heldLocks isBefore,
    ← locksOf_set BudgetUse.knownLocks isBefore,
    ← locksOf_set BudgetUse.heldLocks isBefore] at moves
  have others : ∀ kind other, other ≠ index →
      locksOf kind (stages.set index after) other = locksOf kind stages other :=
    fun _ _ => locksOf_set_of_ne
  have lives := live_of_answer keeps answered
  refine ⟨stages.set index after, by simp [lengths], fun position own stage isOwn isStage => ?_,
    discipline.move (fun q isOther => ⟨others _ q isOther, others _ q isOther⟩) rfl moves answered,
    settled.move (fun q isOther => others _ q isOther) moves answered, ?_, ?_, ?_⟩
  · by_cases isIndex : index = position
    · subst isIndex
      rw [List.getElem?_set_self isInside] at isOwn
      rw [List.getElem?_set_self (lengths ▸ isInside)] at isStage
      cases isOwn
      cases isStage
      exact follows
    · rw [List.getElem?_set_ne isIndex] at isOwn isStage
      exact follow position own stage isOwn isStage
  · rw [lives]
    cases isNew : exchange.newBudget? campaign with
    | none => exact finite
    | some budget => exact areFinite exchange (List.mem_cons_self ..) budget isNew
  · intro stage isStage lock previous isTold
    obtain ⟨position, atPosition⟩ := List.mem_iff_getElem?.1 isStage
    by_cases isIndex : index = position
    · subst isIndex
      rw [List.getElem?_set_self (lengths ▸ isInside)] at atPosition
      cases atPosition
      exact told_of_answer keeps finite step answered isTold
    · rw [List.getElem?_set_ne isIndex] at atPosition
      have stillTold := told stage (List.mem_of_getElem? atPosition) lock previous isTold
      rcases step.newBudget_cases campaign with ⟨isNone, -⟩ | ⟨own, change, isTold', -⟩
      · rwa [lives, isNone]
      · -- A campaign has one lock, so nobody else has been told its budget.
        have isHeld : (.campaign campaign, own) ∈ locksOf BudgetUse.heldLocks stages index := by
          rw [locksOf_of_getElem? _ isBefore, isTold']
          exact List.mem_singleton_self _
        have isHeld' : (.campaign campaign, lock) ∈
            locksOf BudgetUse.heldLocks stages position := by
          rw [locksOf_of_getElem? _ atPosition, isTold]
          exact List.mem_singleton_self _
        exact absurd (discipline.eq_of_held settled isHeld isHeld') isIndex
  · rcases step.newBudget_cases campaign with
      ⟨isNone, same⟩ | ⟨lock, change, isTold, -, isNew, grows⟩
    · refine ⟨order, isOrder.trans ?_, ?_⟩
      · rw [← List.append_nil (before.madeFor campaign)] at same
        have grown := flatMap_set_perm isBefore same
        rw [List.append_nil] at grown
        exact grown.symm
      · rw [lives, isNone]
        exact compounds
    · refine ⟨order ++ [change], ?_, ?_⟩
      · exact (isOrder.append_right _).trans (flatMap_set_perm isBefore grows).symm
      · rw [lives, isNew]
        refine Compounds.concat ?_
        rw [told before (List.mem_of_getElem? isBefore) lock _ isTold]
        exact compounds

end Sound

/-- What holds when nothing has begun. -/
theorem start_sound {campaign : CampaignId} {live : outside.World → Float}
    {shared : Shared outside} (unlocked : shared.locks = .empty)
    (finite : (live shared.world).isFinite = true) :
    (start shared).Sound campaign live (live shared.world) [] where
  lengths := rfl
  follow := by simp [start]
  discipline := unlocked ▸ .empty
  settled := nofun
  finite := finite
  told := by simp
  compounds := ⟨[], .refl _, rfl⟩

theorem log_subset_take {rule : ExecutionRule} (executor : Executor outside)
    (turn : Turn outside) : executor.log ⊆ (executor.take rule turn).log := by
  cases turn with
  | launch firing => exact List.Subset.refl _
  | proceed index reaction =>
      simp only [take]
      split
      · exact List.Subset.refl _
      · exact List.subset_cons_self ..

theorem exists_sound {campaign : CampaignId} {live : outside.World → Float}
    (keeps : outside.KeepsBudget campaign live) {rule : ExecutionRule} {shared : Shared outside}
    (unlocked : shared.locks = .empty) (finite : (live shared.world).isFinite = true)
    (turns : List (Turn outside))
    (areFinite : AreFinite campaign ((start shared).run rule turns).log) :
    ∃ stages, ((start shared).run rule turns).Sound campaign live (live shared.world) stages := by
  induction turns using List.reverseRecOn with
  | nil => exact ⟨[], start_sound unlocked finite⟩
  | append_singleton turns turn ih =>
      rw [run, List.foldl_append, List.foldl_cons, List.foldl_nil, ← run] at areFinite ⊢
      generalize (start shared).run rule turns = executor at ih areFinite
      obtain ⟨stages, sound⟩ := ih fun exchange found =>
        areFinite exchange (executor.log_subset_take turn found)
      cases turn with
      | launch firing => exact ⟨_, sound.launch firing⟩
      | proceed index reaction =>
          simp only [take] at areFinite ⊢
          split at areFinite
          · exact ⟨stages, sound⟩
          · rename_i exchange next after found
            obtain ⟨job, isJob, proceeds⟩ := Option.bind_eq_some_iff.1 found
            exact sound.proceed keeps isJob proceeds areFinite

/-- When all actions have ended, what they have taken is what their records confirm. -/
theorem Sound.made_of_ended {campaign : CampaignId} {live : outside.World → Float}
    {initial : Float} {executor : Executor outside} {stages : List BudgetStage}
    (sound : executor.Sound campaign live initial stages) {records : List (List ActionRecord)}
    (ended : executor.jobs = records.map .done) :
    stages = records.map fun own => ⟨.none, ActionRecord.confirmed own⟩ := by
  refine List.ext_getElem? fun index => ?_
  cases isStage : stages[index]? with
  | none =>
      have outside := List.getElem?_eq_none_iff.1 isStage
      rw [sound.lengths, ended, List.length_map] at outside
      exact (List.getElem?_eq_none (by simpa using outside)).symm
  | some stage =>
      have inside := (List.getElem?_eq_some_iff.1 isStage).1
      rw [sound.lengths, ended, List.length_map] at inside
      have isJob : executor.jobs[index]? = some (.done records[index]) := by
        rw [ended, List.getElem?_map, List.getElem?_eq_getElem inside]
        rfl
      rw [List.getElem?_map, List.getElem?_eq_getElem inside]
      exact congrArg some (sound.follow index _ stage isJob isStage)

/--
The changes of a campaign that are recorded without an error build on each
other, from the budget at the beginning to the one at the end, whatever the
order of the calls and whichever of them fail.
-/
theorem run_compounds {campaign : CampaignId} {live : outside.World → Float}
    (keeps : outside.KeepsBudget campaign live) (rule : ExecutionRule) (shared : Shared outside)
    (unlocked : shared.locks = .empty) (finite : (live shared.world).isFinite = true)
    (turns : List (Turn outside))
    (areFinite : AreFinite campaign ((start shared).run rule turns).log)
    (records : List (List ActionRecord))
    (ended : ((start shared).run rule turns).jobs = records.map .done) :
    ∃ order : List BudgetChange,
      order.Perm ((records.flatMap ActionRecord.confirmed).filter (·.campaign == campaign)) ∧
      Compounds (live shared.world) order (live ((start shared).run rule turns).shared.world) := by
  obtain ⟨stages, sound⟩ := exists_sound keeps unlocked finite turns areFinite
  obtain ⟨order, isOrder, compounds⟩ := sound.compounds
  refine ⟨order, ?_, compounds⟩
  rw [sound.made_of_ended ended, List.flatMap_map] at isOrder
  rwa [List.filter_flatMap]

end Executor

/-! ## A platform that keeps every budget -/

namespace BudgetPlan

/-- A number between two finite ones is finite. -/
theorem isFinite_of_between {low x high : Float} (isLow : low.isFinite = true)
    (isHigh : high.isFinite = true) (isNumber : x.isNaN = false) (above : ¬ x < low)
    (below : ¬ high < x) : x.isFinite = true := by
  have notBelow : x.toModel.unpack.lt low.toModel.unpack ≠ true :=
    fun isLess => above (decide_eq_true isLess)
  have notAbove : high.toModel.unpack.lt x.toModel.unpack ≠ true :=
    fun isLess => below (decide_eq_true isLess)
  change low.toModel.unpack.isFinite = true at isLow
  change high.toModel.unpack.isFinite = true at isHigh
  change x.toModel.unpack.isNaN = false at isNumber
  change x.toModel.unpack.isFinite = true
  generalize low.toModel.unpack = low at *
  generalize x.toModel.unpack = x at *
  generalize high.toModel.unpack = high at *
  cases x with
  | notANumber => cases isNumber
  | zero | finite => rfl
  | infinity sign =>
      cases sign with
      | positive =>
          refine absurd ?_ notAbove
          cases high with
          | notANumber | infinity => cases isHigh
          | zero | finite => rfl
      | negative =>
          refine absurd ?_ notBelow
          cases low with
          | notANumber | infinity => cases isLow
          | zero | finite => rfl

/-- Between finite bounds every budget is finite. -/
theorem clamp_isFinite {plan : BudgetPlan} {low high : Float} (hasMin : plan.min = some low)
    (hasMax : plan.max = some high) (isLow : low.isFinite = true) (isHigh : high.isFinite = true)
    (x : Float) : (plan.clamp x).isFinite = true := by
  unfold clamp
  rw [hasMin, hasMax]
  change (atLeast low (atMost high x)).isFinite = true
  rw [atLeast]
  split
  · exact isLow
  · rename_i isNumber
    split
    · exact isLow
    · rename_i above
      revert isNumber above
      rw [atMost]
      split
      · intros
        exact isHigh
      · split
        · intros
          exact isHigh
        · intro isNumber above
          exact isFinite_of_between isLow isHigh (Bool.eq_false_iff.2 isNumber) above ‹_›

end BudgetPlan

/-- A platform that keeps a budget for every campaign, as long as it hears what it is asked. -/
def Outside.ledger : Outside where
  World := CampaignId → Float
  Mood := Bool
  answer hears budgets
    | .platform _ query =>
        if hears then
          match query with
          | .currentBudget campaign => (.answered (.ok (some (budgets campaign))), budgets)
          | .updateBudget campaign budget =>
              (.answered (.ok ()), fun own => if own = campaign then budget else budgets own)
          | .setPaused .. => (.answered (.ok ()), budgets)
        else (.timedOut, budgets)
    | call => (call.unheard, budgets)

theorem Outside.ledger_keepsBudget (campaign : CampaignId) :
    Outside.ledger.KeepsBudget campaign (fun budgets => budgets campaign) where
  reports := by
    intro hears budgets limit found answered
    cases hears with
    | false => cases answered
    | true =>
        cases answered
        rfl
  changes := by
    intro hears budgets call
    cases call with
    | platform limit query =>
        cases hears with
        | false => cases query <;> rfl
        | true =>
            cases query with
            | updateBudget own budget =>
                by_cases same : own = campaign
                · simp [ledger, Exchange.newBudget?, same]
                · simp [ledger, Exchange.newBudget?, same, Ne.symm same]
            | _ => rfl
    | _ => rfl

namespace Executor

def exampleRule : ExecutionRule := ⟨RetryPolicy.never, ⟨1000⟩, ⟨1000⟩⟩

def examplePlan : BudgetPlan := ⟨.up, 10, some 50, some 500⟩

/-- A firing that scales the budget of the campaign `c`. -/
def exampleFiring : Firing where
  agent :=
    { id := "a", workspace := "w", name := "scaler", status := .active
      scope := ⟨⟨none, .campaign⟩, .listed ["c"]⟩
      condition := .composite .all []
      accumulation := ⟨1, .evaluations, .consecutive, none⟩
      trigger := ⟨.continuous, 0⟩
      actions := [.scaleBudget examplePlan]
      createdAt := default, updatedAt := default, lastEvaluatedAt := none }
  target := .entity "c"
  snapshot := Table.empty
  members := [⟨⟨"c", "", .google, .campaign, none⟩, Table.empty⟩]
  reason := ""
  firedAt := default
  count := 1

/--
Three firings at once: the second waits for the first, and the third takes the
lock before it, but its update is not heard.
-/
def exampleTurns : List (Turn Outside.ledger) :=
  let next (index : Nat) (hears : Bool) : Turn Outside.ledger :=
    .proceed index ⟨hears, none, fun _ => false⟩
  [.launch exampleFiring, .launch exampleFiring, .launch exampleFiring,
    next 0 true, next 1 true, next 0 true, next 1 true, next 0 true, next 2 true, next 0 true,
    next 1 true, next 0 true, next 2 true, next 2 true, next 2 false, next 2 true, next 1 true,
    next 1 true, next 1 true, next 1 true, next 0 true, next 1 true, next 2 true]

def exampleRecord (change : BudgetChange) : List ActionRecord :=
  [⟨0, "scale_budget", Rescale.result [("c", .changed change)],
    some (Rescale.detail examplePlan [("c", .changed change)]), default⟩]

def firstChange : BudgetChange := examplePlan.apply "c" 100

def secondChange : BudgetChange := examplePlan.apply "c" firstChange.new

def lostChange : BudgetChange :=
  { secondChange with error := some "Collaborator error: call timed out after 1s" }

theorem examplePlan_isFinite (budget : Float) :
    (examplePlan.apply "c" budget).new.isFinite = true :=
  BudgetPlan.clamp_isFinite rfl rfl (by decide +kernel) (by decide +kernel) _

def exampleShared : Shared Outside.ledger := ⟨Table.empty, Table.empty, .empty, fun _ => 100⟩

theorem run_exampleTurns :
    ((start exampleShared).run exampleRule exampleTurns).jobs =
        [exampleRecord firstChange, exampleRecord secondChange, exampleRecord lostChange].map
          .done ∧
      ((start exampleShared).run exampleRule exampleTurns).shared.world "c" = secondChange.new ∧
      AreFinite "c" ((start exampleShared).run exampleRule exampleTurns).log := by
  have reported : ∀ {budget : Float}, budget.isFinite = true →
      (some budget).filter Float.isFinite = some budget := by
    intro budget isFinite
    simp [Option.filter, isFinite]
  have hundred : Float.isFinite 100 = true := by decide +kernel
  have timedOut : "Collaborator error: call timed out after 1s" =
      (Failure.collaborator ("call timed out after " ++ exampleRule.callLimit.write)).message := by
    decide +kernel
  simp [exampleShared, start, exampleTurns, run, take, Shared.proceed, Shared.answer,
    LockTable.answer, LockTable.find, LockTable.empty, LockTable.isFree, LockTable.enter,
    LockTable.release, LockTable.modify, Outside.ledger, exampleFiring, Firing.run,
    Firing.runActions, Firing.act, ActionRecord.now, Rescale.runAll, Rescale.run, Reply.result,
    Program.withLock, Program.ask, Program.clock, Entity.campaign, reported, hundred,
    examplePlan_isFinite, AreFinite, Exchange.newBudget?, lostChange, timedOut]
  exact ⟨⟨rfl, rfl, rfl⟩, rfl⟩

/-- Two changes were taken and one was lost: the second builds on the first. -/
theorem run_compounds_exampleTurns :
    ∃ order : List BudgetChange,
      order.Perm [firstChange, secondChange] ∧ Compounds 100 order secondChange.new := by
  obtain ⟨ended, final, areFinite⟩ := run_exampleTurns
  obtain ⟨order, isOrder, compounds⟩ := run_compounds (Outside.ledger_keepsBudget "c") exampleRule
    exampleShared rfl (by decide +kernel) exampleTurns areFinite _ ended
  rw [final] at compounds
  exact ⟨order, isOrder, compounds⟩

end Executor

end AdMonitor
