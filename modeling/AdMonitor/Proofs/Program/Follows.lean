import AdMonitor.Program

/-!
# Programs that follow a transition system

An exchange is a call with its answer.  A program follows a transition system
when every exchange that it can make, whatever the answer, is a step of the
system, so that facts about runs of programs are facts about steps.
-/

namespace AdMonitor

structure Exchange where
  call : Call
  answer : call.Answer

namespace Program

variable {α β σ : Type}

/-- Every exchange is a step, and the program ends at a stage with a value that `post` admits. -/
def Follows (step : σ → Exchange → σ → Prop) (post : σ → α → Prop) :
    Program α → σ → Prop
  | .done value, stage => post stage value
  | .call request next, stage =>
      ∀ answer, ∃ after,
        step stage ⟨request, answer⟩ after ∧ (next answer).Follows step post after

/-- Every call is allowed, and the program ends with a value that `post` admits. -/
def Uses (allowed : Call → Prop) (post : α → Prop) : Program α → Prop
  | .done value => post value
  | .call request next => allowed request ∧ ∀ answer, (next answer).Uses allowed post

variable {step : σ → Exchange → σ → Prop} {allowed : Call → Prop}

namespace Follows

theorem weaken {post weaker : σ → α → Prop} {program : Program α} {stage : σ}
    (follows : program.Follows step post stage)
    (implies : ∀ after value, post after value → weaker after value) :
    program.Follows step weaker stage := by
  induction program generalizing stage with
  | done value => exact implies stage value follows
  | call request next ih =>
      intro answer
      obtain ⟨after, taken, rest⟩ := follows answer
      exact ⟨after, taken, ih answer rest⟩

theorem bind {middle : σ → α → Prop} {post : σ → β → Prop} {program : Program α}
    {rest : α → Program β} {stage : σ} (first : program.Follows step middle stage)
    (second : ∀ after value, middle after value → (rest value).Follows step post after) :
    (program >>= rest).Follows step post stage := by
  induction program generalizing stage with
  | done value => exact second stage value first
  | call request next ih =>
      intro answer
      obtain ⟨after, taken, remaining⟩ := first answer
      exact ⟨after, taken, ih answer remaining⟩

theorem ask {post : σ → α → Prop} {request : Call} {rest : request.Answer → Program α}
    {stage : σ} (taken : ∀ answer, ∃ after,
      step stage ⟨request, answer⟩ after ∧ (rest answer).Follows step post after) :
    (Program.ask request >>= rest).Follows step post stage := taken

/-- A program that only ever makes calls which leave a stage follows the system at that stage. -/
theorem of_uses {post : α → Prop} {program : Program α} {stage : σ}
    (uses : program.Uses allowed post)
    (stays : ∀ exchange : Exchange, allowed exchange.call → step stage exchange stage) :
    program.Follows step (fun after value => after = stage ∧ post value) stage := by
  induction program with
  | done value => exact ⟨rfl, uses⟩
  | call request next ih =>
      intro answer
      exact ⟨stage, stays ⟨request, answer⟩ uses.1, ih answer (uses.2 answer)⟩

end Follows

namespace Uses

theorem weaken {wider : Call → Prop} {post weaker : α → Prop} {program : Program α}
    (uses : program.Uses allowed post) (widens : ∀ call, allowed call → wider call)
    (implies : ∀ value, post value → weaker value) : program.Uses wider weaker := by
  induction program with
  | done value => exact implies value uses
  | call request next ih =>
      exact ⟨widens request uses.1, fun answer => ih answer (uses.2 answer)⟩

theorem bind {middle : α → Prop} {post : β → Prop} {program : Program α}
    {rest : α → Program β} (first : program.Uses allowed middle)
    (second : ∀ value, middle value → (rest value).Uses allowed post) :
    (program >>= rest).Uses allowed post := by
  induction program with
  | done value => exact second value first
  | call request next ih =>
      exact ⟨first.1, fun answer => ih answer (first.2 answer)⟩

theorem ask {post : α → Prop} {request : Call} {rest : request.Answer → Program α}
    (isAllowed : allowed request) (remaining : ∀ answer, (rest answer).Uses allowed post) :
    (Program.ask request >>= rest).Uses allowed post := ⟨isAllowed, remaining⟩

end Uses

end Program

end AdMonitor
