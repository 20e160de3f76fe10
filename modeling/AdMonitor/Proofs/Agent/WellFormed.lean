import AdMonitor.Proofs.Agent.Acceptance
import AdMonitor.Proofs.Budget.Bounds
import AdMonitor.Proofs.Condition.Acceptance
import AdMonitor.Proofs.Condition.Explanation

/-!
# Well-formed agents

What an agent has to be is said here without the order in which it is checked:
of a condition, how long its branches are and what holds of each of its nodes;
of an agent, what it selects, requires and does.  The checks accept an agent
just when all of this holds, and else say that the agent is invalid
(`Agent.validate_decides`).
-/

namespace AdMonitor

/-! ## Conditions -/

def Metric.catalogue : List String := additive ++ ratios.map Ratio.name

theorem Metric.isKnown_iff {name : String} : isKnown name = true ↔ name ∈ catalogue := by
  by_cases isAdditive : name ∈ additive <;> simp [isKnown, kind?, catalogue, isAdditive]

namespace Condition

variable {condition node : Condition} {path : List Nat} {limit : Nat}

/-- Whether a path leads from the root to a node without children. -/
def IsBranch (condition : Condition) (path : List Nat) : Prop :=
  ∃ leaf, condition.node? path = some leaf ∧ leaf.children = []

def IsSoundNode : Condition → Prop
  | .threshold metric _ bound => metric ∈ Metric.catalogue ∧ bound.isFinite = true
  | .composite _ children => children ≠ []

/-- What a condition of at most so many levels has to be. -/
structure IsWellFormed (limit : Nat) (condition : Condition) : Prop where
  /-- No branch has more nodes than there may be levels; its path leaves out the root. -/
  short : ∀ path, condition.IsBranch path → path.length + 1 ≤ limit
  sound : ∀ path node, condition.node? path = some node → node.IsSoundNode

theorem depth_le_deepest {child : Condition} {children : List Condition}
    (isChild : child ∈ children) : child.depth ≤ deepest children := by
  induction children with
  | nil => cases isChild
  | cons first rest ih =>
      rw [deepest]
      rcases List.mem_cons.1 isChild with rfl | isLater
      · exact Nat.le_max_left ..
      · exact Nat.le_trans (ih isLater) (Nat.le_max_right ..)

/-- Some child is as deep as all of them together. -/
theorem exists_depth_eq_deepest {children : List Condition} (areSome : children ≠ []) :
    ∃ child ∈ children, child.depth = deepest children := by
  induction children with
  | nil => exact absurd rfl areSome
  | cons first rest ih =>
      rw [deepest]
      by_cases isDeeper : deepest rest ≤ first.depth
      · exact ⟨first, List.mem_cons_self, (Nat.max_eq_left isDeeper).symm⟩
      · have areMore : rest ≠ [] := by
          rintro rfl
          exact isDeeper (Nat.zero_le _)
        obtain ⟨child, isChild, isDeepest⟩ := ih areMore
        refine ⟨child, List.mem_cons_of_mem _ isChild, ?_⟩
        rw [isDeepest, Nat.max_eq_right (Nat.le_of_not_le isDeeper)]

theorem depth_pos (condition : Condition) : 0 < condition.depth := by
  cases condition with
  | threshold => exact Nat.one_pos
  | composite => exact Nat.add_pos_left Nat.one_pos _

/-- No path to a node is as long as the condition is deep. -/
theorem length_lt_depth (found : condition.node? path = some node) :
    path.length < condition.depth := by
  induction path generalizing condition with
  | nil => exact condition.depth_pos
  | cons position path ih =>
      obtain ⟨child, isChild, found⟩ := Option.bind_eq_some_iff.1 found
      have isShorter := ih found
      cases condition with
      | threshold => cases isChild
      | composite connective children =>
          have isBelow : child.depth ≤ deepest children :=
            depth_le_deepest (List.mem_of_getElem? isChild)
          rw [depth, List.length_cons]
          omega

/-- Some branch has as many nodes as the condition is deep. -/
theorem exists_isBranch (condition : Condition) :
    ∃ path, condition.IsBranch path ∧ path.length + 1 = condition.depth := by
  induction condition using inductionOn with
  | threshold metric comparison bound => exact ⟨[], ⟨_, rfl, rfl⟩, rfl⟩
  | composite connective children ih =>
      by_cases areNone : children = []
      · subst areNone
        exact ⟨[], ⟨_, rfl, rfl⟩, rfl⟩
      · obtain ⟨child, isChild, isDeepest⟩ := exists_depth_eq_deepest areNone
        obtain ⟨path, ⟨leaf, found, isLeaf⟩, isLongest⟩ := ih child isChild
        obtain ⟨position, isAt⟩ := List.mem_iff_getElem?.1 isChild
        refine ⟨position :: path, ⟨leaf, ?_, isLeaf⟩, ?_⟩
        · exact Option.bind_eq_some_iff.2 ⟨child, isAt, found⟩
        · rw [depth, ← isDeepest, ← isLongest, List.length_cons, Nat.add_comm]

theorem depth_le_iff :
    condition.depth ≤ limit ↔ ∀ path, condition.IsBranch path → path.length + 1 ≤ limit := by
  constructor
  · rintro fits path ⟨leaf, found, -⟩
    exact Nat.le_trans (length_lt_depth found) fits
  · intro areShort
    obtain ⟨path, isBranch, isLongest⟩ := condition.exists_isBranch
    exact isLongest ▸ areShort path isBranch

/-- Something holds of every node just when it holds of the root, and of every node below each of
its children. -/
theorem forall_node?_iff {holds : Condition → Prop} :
    (∀ path node, condition.node? path = some node → holds node) ↔
      holds condition ∧ ∀ child ∈ condition.children, ∀ path node,
        child.node? path = some node → holds node := by
  constructor
  · intro all
    refine ⟨all [] condition rfl, fun child isChild path node found => ?_⟩
    obtain ⟨position, isAt⟩ := List.mem_iff_getElem?.1 isChild
    exact all (position :: path) node (Option.bind_eq_some_iff.2 ⟨child, isAt, found⟩)
  · rintro ⟨root, below⟩ path node found
    cases path with
    | nil =>
        cases found
        exact root
    | cons position path =>
        obtain ⟨child, isAt, found⟩ := Option.bind_eq_some_iff.1 found
        exact below child (List.mem_of_getElem? isAt) path node found

/-- The search for a fault skips no node. -/
theorem checkNodes_eq_ok_iff : condition.checkNodes = .ok () ↔
    ∀ path node, condition.node? path = some node → node.IsSoundNode := by
  induction condition using inductionOn with
  | threshold metric comparison bound =>
      rw [forall_node?_iff, checkNodes_threshold_iff, Metric.isKnown_iff]
      exact (and_iff_left fun _ isChild => absurd isChild List.not_mem_nil).symm
  | composite connective children ih =>
      rw [forall_node?_iff, checkNodes_composite_iff]
      exact and_congr_right fun _ => forall₂_congr ih

theorem check_eq_ok_iff : condition.check limit = .ok () ↔ condition.IsWellFormed limit := by
  have accepts : condition.check limit = .ok () ↔
      condition.depth ≤ limit ∧ condition.checkNodes = .ok () := by
    rw [check]
    split
    · refine iff_of_false (fun accepted => ?_) fun accepted => by omega
      cases accepted
    · exact (and_iff_right (by omega)).symm
  rw [accepts, depth_le_iff, checkNodes_eq_ok_iff]
  constructor
  · rintro ⟨short, sound⟩
    exact ⟨short, sound⟩
  · rintro ⟨short, sound⟩
    exact ⟨short, sound⟩

end Condition

/-! ## Actions -/

structure BudgetPlan.IsWellFormed (plan : BudgetPlan) : Prop where
  percent : plan.percent.isFinite = true ∧ 0.0 < plan.percent ∧ plan.percent ≤ 100.0
  min : ∀ low, plan.min = some low → low.isFinite = true ∧ 0.0 ≤ low
  max : ∀ high, plan.max = some high → high.isFinite = true ∧ 0.0 ≤ high
  order : ∀ low high, plan.min = some low → plan.max = some high → low ≤ high

namespace BudgetPlan

open Decimal

variable {plan : BudgetPlan}

theorem isBound_iff {bound : Float} :
    isBound bound = true ↔ bound.isFinite = true ∧ 0.0 ≤ bound := by
  rw [isBound, Bool.and_eq_true, Bool.not_eq_true', decide_eq_false_iff_not]
  refine and_congr_right fun isFinite => ⟨fun notBelow => ?_, not_lt_of_le⟩
  exact le_of_not_lt (isNaN_of_isFinite isFinite) (by decide) notBelow

theorem check_iff_isWellFormed : plan.check = .ok () ↔ plan.IsWellFormed := by
  rw [check_eq_ok_iff]
  constructor
  · rintro ⟨percent, areBounds, uncrossed⟩
    have min : ∀ low, plan.min = some low → low.isFinite = true ∧ 0.0 ≤ low := fun low isMin =>
      isBound_iff.1 (areBounds low (List.mem_append_left _ (Option.mem_toList.2 isMin)))
    have max : ∀ high, plan.max = some high → high.isFinite = true ∧ 0.0 ≤ high :=
      fun high isMax =>
        isBound_iff.1 (areBounds high (List.mem_append_right _ (Option.mem_toList.2 isMax)))
    refine ⟨percent, min, max, fun low high isMin isMax => ?_⟩
    exact le_of_not_lt (isNaN_of_isFinite (max high isMax).1) (isNaN_of_isFinite (min low isMin).1)
      (uncrossed low high isMin isMax)
  · rintro ⟨percent, min, max, order⟩
    refine ⟨percent, fun bound isOne => ?_, fun low high isMin isMax => ?_⟩
    · rcases List.mem_append.1 isOne with isMin | isMax
      · exact isBound_iff.2 (min bound (Option.mem_toList.1 isMin))
      · exact isBound_iff.2 (max bound (Option.mem_toList.1 isMax))
    · exact not_lt_of_le (order low high isMin isMax)

end BudgetPlan

theorem UrlParser.isPostable_iff {scheme : String} :
    isPostable scheme = true ↔ scheme = "http" ∨ scheme = "https" := by
  rw [isPostable, Bool.or_eq_true, beq_iff_eq, beq_iff_eq]

namespace Action

def IsWellFormed [UrlParser] : Action → Prop
  | .email | .pauseCampaign => True
  | .scaleBudget plan => plan.IsWellFormed
  | .webhook url => UrlParser.scheme url = .ok "http" ∨ UrlParser.scheme url = .ok "https"

theorem check_iff_isWellFormed [UrlParser] {action : Action} :
    action.check = .ok () ↔ action.IsWellFormed := by
  cases action with
  | email | pauseCampaign => exact iff_of_true rfl trivial
  | scaleBudget plan => exact BudgetPlan.check_iff_isWellFormed
  | webhook url =>
      rw [check, IsWellFormed]
      cases UrlParser.scheme url with
      | error fault =>
          refine iff_of_false (fun accepted => ?_) fun isWeb => ?_
          · cases accepted
          · rcases isWeb with isWeb | isWeb <;> cases isWeb
      | ok scheme =>
          rw [Except.ok.injEq, Except.ok.injEq, ← UrlParser.isPostable_iff]
          dsimp only
          split
          next isPostable => exact iff_of_true rfl isPostable
          next isOther =>
            refine iff_of_false (fun accepted => ?_) isOther
            cases accepted

end Action

/-! ## Agents -/

/-- What a selection has to be: all entities together, or some by id. -/
def Selection.IsWellFormed (selection : Selection) : Prop :=
  selection = .all true ∨ ∃ ids, selection = .listed ids ∧ ids ≠ []

theorem Selection.check_iff_isWellFormed {selection : Selection} :
    selection.check = .ok () ↔ selection.IsWellFormed := by
  cases selection with
  | all aggregate => cases aggregate <;> simp [check, IsWellFormed]
  | listed ids => cases ids <;> simp [check, IsWellFormed]

namespace Agent

/-- What an agent has to be whose condition may have at most so many levels. -/
structure IsWellFormed [UrlParser] (limit : Nat) (agent : Agent) : Prop where
  acts : agent.actions ≠ []
  requires : 1 ≤ agent.accumulation.required
  window : ∀ window, agent.accumulation.window = some window → 1 ≤ window
  selection : agent.scope.selection.IsWellFormed
  actions : ∀ action ∈ agent.actions, action.IsWellFormed
  condition : agent.condition.IsWellFormed limit

theorem one_le_iff {word : UInt32} : 1 ≤ word ↔ word ≠ 0 := by
  rw [UInt32.le_iff_toNat_le, Ne, ← UInt32.toNat_inj]
  exact Nat.one_le_iff_ne_zero

theorem validate_iff_isWellFormed [UrlParser] {agent : Agent} {limit : Nat} :
    agent.validate limit = .ok () ↔ agent.IsWellFormed limit := by
  have window : agent.accumulation.window ≠ some 0 ↔
      ∀ window, agent.accumulation.window = some window → 1 ≤ window := by
    refine ⟨fun isOpen window isWindow => one_le_iff.2 ?_, fun areOpen isShut => ?_⟩
    · rintro rfl
      exact isOpen isWindow
    · exact one_le_iff.1 (areOpen 0 isShut) rfl
  have actions : (∀ action ∈ agent.actions, action.check = .ok ()) ↔
      ∀ action ∈ agent.actions, action.IsWellFormed :=
    forall₂_congr fun _ _ => Action.check_iff_isWellFormed
  rw [validate_eq_ok_iff, checkFrame_eq_ok_iff, ← one_le_iff, window,
    Selection.check_iff_isWellFormed, actions, Condition.check_eq_ok_iff]
  constructor
  · rintro ⟨⟨acts, requires, window, selection, actions⟩, condition⟩
    exact ⟨acts, requires, window, selection, actions, condition⟩
  · rintro ⟨acts, requires, window, selection, actions, condition⟩
    exact ⟨⟨acts, requires, window, selection, actions⟩, condition⟩

/-- An agent is accepted just when it is well formed; else it is said to be invalid. -/
theorem validate_decides [UrlParser] (agent : Agent) (limit : Nat) :
    (agent.validate limit = .ok () ↔ agent.IsWellFormed limit) ∧
      (agent.validate limit = .ok () ∨
        ∃ detail, agent.validate limit = .error (.invalidAgent detail)) := by
  refine ⟨validate_iff_isWellFormed, ?_⟩
  rw [validate]
  cases agent.check limit with
  | ok _ => exact Or.inl rfl
  | error fault => exact Or.inr ⟨fault.message agent.id, rfl⟩

end Agent

end AdMonitor
