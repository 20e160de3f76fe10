import AdMonitor.Agent.Check

/-!
# Accepted agents

An agent is accepted when its frame and its condition are sound, and its frame
is sound only if each of its actions is.
-/

namespace AdMonitor.Agent

variable {agent : Agent} {limit : Nat}

theorem validate_eq_ok_iff [UrlParser] : agent.validate limit = .ok () ↔
    agent.checkFrame = .ok () ∧ agent.condition.check limit = .ok () := by
  rw [validate, check]
  cases agent.checkFrame with
  | error fault => exact iff_of_false nofun nofun
  | ok _ =>
      cases agent.condition.check limit with
      | error fault => exact iff_of_false nofun nofun
      | ok _ => exact iff_of_true rfl ⟨rfl, rfl⟩

theorem checkActions_eq_ok_iff [UrlParser] {actions : List Action} {index : Nat} :
    checkActions index actions = .ok () ↔ ∀ action ∈ actions, action.check = .ok () := by
  induction actions generalizing index with
  | nil => exact iff_of_true rfl (List.forall_mem_nil _)
  | cons action rest ih =>
      rw [List.forall_mem_cons, checkActions]
      cases action.check with
      | error fault => exact iff_of_false nofun nofun
      | ok _ => exact ih.trans (and_iff_right rfl).symm

/-- What an agent needs besides a condition. -/
theorem checkFrame_eq_ok_iff [UrlParser] : agent.checkFrame = .ok () ↔
    agent.actions ≠ [] ∧ agent.accumulation.required ≠ 0 ∧ agent.accumulation.window ≠ some 0 ∧
      agent.scope.selection.check = .ok () ∧ ∀ action ∈ agent.actions, action.check = .ok () := by
  rw [← @checkActions_eq_ok_iff _ agent.actions 0, checkFrame]
  cases agent.actions with
  | nil => exact iff_of_false nofun fun sound => sound.1 rfl
  | cons first rest =>
      rw [and_iff_right (List.cons_ne_nil first rest)]
      by_cases isFree : agent.accumulation.required = 0
      · rw [isFree]
        exact iff_of_false nofun fun sound => sound.1 rfl
      by_cases isShut : agent.accumulation.window = some 0
      · refine iff_of_false ?_ fun sound => sound.2.1 isShut
        simp only [List.isEmpty_cons, beq_iff_eq, isFree, isShut, if_true, if_false]
        nofun
      rw [and_iff_right isFree, and_iff_right isShut]
      simp only [List.isEmpty_cons, beq_iff_eq, isFree, isShut, Bool.false_eq_true, if_false]
      cases agent.scope.selection.check with
      | error fault => exact iff_of_false nofun nofun
      | ok _ => exact (and_iff_right rfl).symm

/-- Every action of an accepted agent is sound. -/
theorem check_of_validate [UrlParser] (accepted : agent.validate limit = .ok ()) {action : Action}
    (isOwn : action ∈ agent.actions) : action.check = .ok () :=
  (checkFrame_eq_ok_iff.1 (validate_eq_ok_iff.1 accepted).1).2.2.2.2 action isOwn

end AdMonitor.Agent
