import AdMonitor.Proofs.Program.Play
import AdMonitor.Proofs.Stepwise
import AdMonitor.Proofs.Visit.Outcome

/-!
# Actions one after the other

Some actions and then others come to the same as all of them, except that the
others are counted from the number of those before them (`Firing.run_append`).
So a list of actions is run as each of them would be alone, from where those
before it have left the collaborators, whatever became of them.
-/

namespace AdMonitor

/-- The record of an action that stands some places further on. -/
def ActionRecord.moved (places : Nat) (record : ActionRecord) : ActionRecord :=
  { record with index := record.index + places }

theorem ActionRecord.moved_zero (record : ActionRecord) : record.moved 0 = record := rfl

theorem ActionRecord.moved_moved (places more : Nat) (record : ActionRecord) :
    (record.moved places).moved more = record.moved (places + more) := by
  simp [moved, Nat.add_assoc]

namespace Firing

variable {rule : ExecutionRule} {firing : Firing}

def withActions (firing : Firing) (actions : List Action) : Firing :=
  { firing with agent := { firing.agent with actions } }

def record (rule : ExecutionRule) (firing : Firing) (index : Nat) (action : Action) :
    Program ActionRecord := do
  let (result, detail) ← firing.act rule action
  ActionRecord.now index action result detail

theorem runActions_cons (index : Nat) (action : Action) (rest : List Action) :
    firing.runActions rule index (action :: rest) = do
      let record ← firing.record rule index action
      let others ← firing.runActions rule (index + 1) rest
      return record :: others := by
  simp only [runActions, record, bind_assoc]

theorem runActions_append (index : Nat) (first second : List Action) :
    firing.runActions rule index (first ++ second) = do
      let records ← firing.runActions rule index first
      let others ← firing.runActions rule (index + first.length) second
      return records ++ others := by
  induction first generalizing index with
  | nil => exact (Program.bind_done _).symm
  | cons action rest ih =>
      have count : index + 1 + rest.length = index + (action :: rest).length := by
        rw [List.length_cons, Nat.add_assoc, Nat.add_comm 1]
      simp only [List.cons_append, runActions_cons, ih, count, bind_assoc, pure_bind]

/-! ## An action does not depend on where it stands -/

/-- No action looks at the others. -/
theorem act_withActions (actions : List Action) (action : Action) :
    (firing.withActions actions).act rule action = firing.act rule action := by
  cases action with
  | email => rfl
  | scaleBudget plan => rfl
  | pauseCampaign => rfl
  | webhook url => rfl

theorem runActions_withActions (actions : List Action) (index : Nat) (own : List Action) :
    (firing.withActions actions).runActions rule index own = firing.runActions rule index own := by
  induction own generalizing index with
  | nil => rfl
  | cons action rest ih => simp only [runActions_cons, record, act_withActions, ih]

theorem record_moved (index places : Nat) (action : Action) :
    firing.record rule (index + places) action = do
      let record ← firing.record rule index action
      return record.moved places := by
  simp only [record, bind_assoc]
  rfl

theorem runActions_moved (index places : Nat) (actions : List Action) :
    firing.runActions rule (index + places) actions = do
      let records ← firing.runActions rule index actions
      return records.map (ActionRecord.moved places) := by
  induction actions generalizing index with
  | nil => rfl
  | cons action rest ih =>
      have count : index + places + 1 = index + 1 + places := Nat.add_right_comm ..
      simp only [runActions_cons, record_moved, count, ih, bind_assoc, pure_bind, List.map_cons]

/-- Some actions and then others are run one list after the other. -/
theorem run_append (first second : List Action) :
    (firing.withActions (first ++ second)).run rule = do
      let records ← (firing.withActions first).run rule
      let others ← (firing.withActions second).run rule
      return records ++ others.map (ActionRecord.moved first.length) := by
  have counted := @runActions_moved rule firing 0 first.length second
  simp only [run, runActions_withActions]
  simp only [withActions, runActions_append, counted, bind_assoc, pure_bind]

/-! ## Turns -/

/-- What an action does when it is run alone, and what it leaves there. -/
def alone (rule : ExecutionRule) (firing : Firing) (respondents : Respondents)
    (state : respondents.State) (action : Action) :
    respondents.State × Played respondents.State (List ActionRecord) :=
  let played := Program.play respondents state ((firing.withActions [action]).run rule)
  (played.state, played)

/-- What each of some actions does alone, from where those before it have left the respondents. -/
def turns (rule : ExecutionRule) (firing : Firing) (respondents : Respondents)
    (state : respondents.State) (actions : List Action) :
    List (Played respondents.State (List ActionRecord)) :=
  Stepwise.outputs (firing.alone rule respondents) state actions

def placed {σ : Type} (turns : List (Played σ (List ActionRecord))) : List ActionRecord :=
  turns.zipIdx.flatMap fun turn => turn.1.value.map (ActionRecord.moved turn.2)

theorem placed_cons {σ : Type} (turn : Played σ (List ActionRecord))
    (rest : List (Played σ (List ActionRecord))) :
    placed (turn :: rest) = turn.value ++ (placed rest).map (ActionRecord.moved 1) := by
  have unmoved : turn.value.map (ActionRecord.moved 0) = turn.value :=
    (List.map_congr_left fun record _ => record.moved_zero).trans turn.value.map_id
  unfold placed
  rw [List.zipIdx_cons, List.flatMap_cons, unmoved, List.zipIdx_succ, List.flatMap_map,
    List.map_flatMap]
  simp only [List.map_map, Function.comp_def, ActionRecord.moved_moved]

section Turns

variable {respondents : Respondents} {state : respondents.State}

/-- The second of two lists of actions is run from where the first has left the respondents. -/
theorem play_append (first second : List Action) :
    let early := Program.play respondents state ((firing.withActions first).run rule)
    let later := Program.play respondents early.state ((firing.withActions second).run rule)
    Program.play respondents state ((firing.withActions (first ++ second)).run rule) =
      ⟨early.exchanges ++ later.exchanges,
        early.value ++ later.value.map (ActionRecord.moved first.length), later.state⟩ := by
  intro early later
  rw [run_append, Program.play_bind, Program.play_bind]
  exact congrArg (Played.mk · _ _) (congrArg (_ ++ ·) (List.append_nil _))

theorem play_turns (actions : List Action) :
    Program.play respondents state ((firing.withActions actions).run rule) =
      ⟨(firing.turns rule respondents state actions).flatMap Played.exchanges,
        placed (firing.turns rule respondents state actions),
        Stepwise.after (firing.alone rule respondents) state actions⟩ := by
  induction actions generalizing state with
  | nil => rfl
  | cons action rest ih =>
      have first : firing.turns rule respondents state (action :: rest) =
          Program.play respondents state ((firing.withActions [action]).run rule) ::
            firing.turns rule respondents
              (Program.play respondents state ((firing.withActions [action]).run rule)).state
              rest := rfl
      rw [first, List.flatMap_cons, placed_cons, ← List.singleton_append, play_append, ih]
      rfl

end Turns

/--
The actions of a firing leave one record each, in their order.  What they do and
record is what each of them does and records alone, from where those before it
have left the collaborators, whatever has become of those; and running some
actions and then others is running them all.
-/
theorem run_inTurn (rule : ExecutionRule) (firing : Firing) (respondents : Respondents)
    (state : respondents.State) :
    let played := Program.play respondents state (firing.run rule)
    let turns := firing.turns rule respondents state firing.agent.actions
    Records 0 firing.agent.actions played.value ∧
      played.exchanges = turns.flatMap Played.exchanges ∧ played.value = placed turns ∧
      ∀ first second : List Action,
        let early := Program.play respondents state ((firing.withActions first).run rule)
        let later := Program.play respondents early.state ((firing.withActions second).run rule)
        Program.play respondents state ((firing.withActions (first ++ second)).run rule) =
          ⟨early.exchanges ++ later.exchanges,
            early.value ++ later.value.map (ActionRecord.moved first.length), later.state⟩ := by
  have ends := Program.ends_play respondents state (firing.run rule)
  have recorded := ((firing.run_uses rule).leads ends).2
  have whole := @play_turns rule firing respondents state firing.agent.actions
  exact ⟨recorded, congrArg Played.exchanges whole, congrArg Played.value whole, play_append⟩

end Firing

end AdMonitor
