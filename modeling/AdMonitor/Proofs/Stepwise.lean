/-!
# Steps that follow each other

A step takes a state and an input to the next state and an output.  Over a list
of inputs each step goes on from the state that the one before it has left.
Where a step may have no result, a run has none from there on.
-/

namespace AdMonitor.Stepwise

variable {σ ι ο : Type} {step : σ → ι → σ × ο} {state : σ}

/-- The state after some inputs, the earliest first. -/
def after (step : σ → ι → σ × ο) (state : σ) (inputs : List ι) : σ :=
  inputs.foldl (fun state input => (step state input).1) state

def outputs (step : σ → ι → σ × ο) : σ → List ι → List ο
  | _, [] => []
  | state, input :: rest => (step state input).2 :: outputs step (step state input).1 rest

theorem after_concat (inputs : List ι) (input : ι) :
    after step state (inputs ++ [input]) = (step (after step state inputs) input).1 := by
  rw [after, List.foldl_append]
  rfl

theorem outputs_concat (inputs : List ι) (input : ι) :
    outputs step state (inputs ++ [input]) =
      outputs step state inputs ++ [(step (after step state inputs) input).2] := by
  induction inputs generalizing state with
  | nil => rfl
  | cons first rest ih => exact congrArg (List.cons _) ih

theorem length_outputs (inputs : List ι) :
    (outputs step state inputs).length = inputs.length := by
  induction inputs generalizing state with
  | nil => rfl
  | cons first rest ih => exact congrArg Nat.succ ih

/-- An output depends on its own input and on those before it. -/
theorem getElem?_outputs (inputs : List ι) (i : Nat) :
    (outputs step state inputs)[i]? =
      inputs[i]?.map fun input => (step (after step state (inputs.take i)) input).2 := by
  induction inputs generalizing state i with
  | nil => rfl
  | cons first rest ih =>
      cases i with
      | zero => rfl
      | succ i => exact ih i

/-! ## Steps that may have no result -/

section Partial

variable {step? : σ → ι → Option (σ × ο)}

/-- The state after some inputs, the earliest first, and an output for each of them. -/
def run? (step? : σ → ι → Option (σ × ο)) : σ → List ι → Option (σ × List ο)
  | state, [] => some (state, [])
  | state, input :: rest => do
      let (next, output) ← step? state input
      let (last, outputs) ← run? step? next rest
      return (last, output :: outputs)

theorem run?_concat (inputs : List ι) (input : ι) :
    run? step? state (inputs ++ [input]) = (run? step? state inputs).bind fun ran =>
      (step? ran.1 input).map fun reached => (reached.1, ran.2 ++ [reached.2]) := by
  induction inputs generalizing state with
  | nil => cases ran : step? state input <;> simp [run?, ran]
  | cons first rest ih =>
      simp only [List.cons_append, run?, ih]
      cases step? state first with
      | none => rfl
      | some taken =>
          simp only [Option.bind_eq_bind, Option.bind_some]
          cases ran : run? step? taken.1 rest with
          | none => rfl
          | some reached => cases stepped : step? reached.1 input <;> simp [stepped]

end Partial

end AdMonitor.Stepwise
