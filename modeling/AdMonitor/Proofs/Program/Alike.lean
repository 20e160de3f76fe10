import AdMonitor.Proofs.Program.Trace

/-!
# Programs that do alike

Locks, notes to observers and whatever has to do with time are incidental: no
decision depends on how these calls are answered.  Two programs do alike when
they make the same other calls for as long as these are answered alike.
-/

namespace AdMonitor

def Call.isIncidental : Call → Bool
  | .lock _ | .publish _ | .sleep _ | .jitter _ | .clock => true
  | _ => false

def Exchange.matters (exchange : Exchange) : Bool := !exchange.call.isIncidental

def Exchange.Agree (left right : List Exchange) : Prop :=
  ∀ call (answer other : call.Answer), call.isIncidental = false →
    ⟨call, answer⟩ ∈ left → ⟨call, other⟩ ∈ right → answer = other

theorem Exchange.Agree.of_answers {left right : List Exchange}
    {expected : (call : Call) → call.Answer}
    (isLeft : ∀ exchange ∈ left, exchange.call.isIncidental = false →
      exchange.answer = expected exchange.call)
    (isRight : ∀ exchange ∈ right, exchange.call.isIncidental = false →
      exchange.answer = expected exchange.call) : Agree left right :=
  fun _ _ _ matters first second =>
    (isLeft _ first matters).trans (isRight _ second matters).symm

theorem Exchange.Agree.of_append {left right early past : List Exchange}
    (agree : Agree (left ++ early) (right ++ past)) : Agree left right :=
  fun call answer other matters isLeft isRight => agree call answer other matters
    (List.mem_append_left early isLeft) (List.mem_append_left past isRight)

namespace Program

variable {α β : Type}

/-- Whether two programs make the same calls that matter, and come to values that are related. -/
inductive Alike (same : α → α → Prop) : Program α → Program α → Prop where
  | done {value other : α} (isSame : same value other) : Alike same (.done value) (.done other)
  | call {request : Call} (matters : request.isIncidental = false)
      {next other : request.Answer → Program α}
      (rest : ∀ answer, Alike same (next answer) (other answer)) :
      Alike same (.call request next) (.call request other)
  | incidental {request counterpart : Call} (isIncidental : request.isIncidental = true)
      (areBoth : counterpart.isIncidental = true) {next : request.Answer → Program α}
      {other : counterpart.Answer → Program α}
      (rest : ∀ answer reply, Alike same (next answer) (other reply)) :
      Alike same (.call request next) (.call counterpart other)

namespace Alike

variable {same : α → α → Prop} {program other : Program α}

theorem bind {related : β → β → Prop} (alike : program.Alike same other)
    {rest final : α → Program β}
    (goesOn : ∀ value counterpart, same value counterpart →
      (rest value).Alike related (final counterpart)) :
    (program >>= rest).Alike related (other >>= final) := by
  induction alike with
  | done isSame => exact goesOn _ _ isSame
  | call matters next ih => exact .call matters ih
  | incidental isIncidental areBoth next ih => exact .incidental isIncidental areBoth ih

theorem ask {request : Call} (matters : request.isIncidental = false)
    {next other : request.Answer → Program α}
    (rest : ∀ answer, (next answer).Alike same (other answer)) :
    (Program.ask request >>= next).Alike same (Program.ask request >>= other) :=
  .call matters rest

theorem askIncidental {request counterpart : Call} (isIncidental : request.isIncidental = true)
    (areBoth : counterpart.isIncidental = true) {next : request.Answer → Program α}
    {other : counterpart.Answer → Program α}
    (rest : ∀ answer reply, (next answer).Alike same (other reply)) :
    (Program.ask request >>= next).Alike same (Program.ask counterpart >>= other) :=
  .incidental isIncidental areBoth rest

/-- A program does like itself when its calls matter or can be answered in one way only. -/
theorem of_uses {allowed : Call → Prop} {post : α → Prop} (uses : program.Uses allowed post)
    (settled : ∀ call, allowed call → call.isIncidental = true → Subsingleton call.Answer) :
    program.Alike Eq program := by
  induction program with
  | done value => exact .done rfl
  | call request next ih =>
      cases isIncidental : request.isIncidental with
      | false => exact .call isIncidental fun answer => ih answer (uses.2 answer)
      | true =>
          refine .incidental isIncidental isIncidental fun answer reply => ?_
          cases (settled request uses.1 isIncidental).elim answer reply
          exact ih answer (uses.2 answer)

/-- A lock does not change what a program does. -/
theorem withLock (name : LockName) (alike : program.Alike same other) :
    (Program.withLock name program).Alike same (Program.withLock name other) := by
  refine .askIncidental rfl rfl fun lock own => ?_
  refine .askIncidental rfl rfl fun _ _ => ?_
  refine alike.bind fun value counterpart isSame => ?_
  exact .askIncidental rfl rfl fun _ _ => .done isSame

/-- Programs that do alike and are answered alike come to related values by the same exchanges
that matter. -/
theorem ends (alike : program.Alike same other) {left right : List Exchange} {value final : α}
    (isLeft : program.Ends left value) (isRight : other.Ends right final)
    (agree : Exchange.Agree left right) :
    same value final ∧ left.filter Exchange.matters = right.filter Exchange.matters := by
  induction alike generalizing left right with
  | done isSame =>
      obtain ⟨rfl, rfl⟩ := ends_done_iff.1 isLeft
      obtain ⟨rfl, rfl⟩ := ends_done_iff.1 isRight
      exact ⟨isSame, rfl⟩
  | @call request matters next counterpart rest ih =>
      obtain ⟨answer, later, rfl, goesOn⟩ := ends_call_iff.1 isLeft
      obtain ⟨reply, last, rfl, continues⟩ := ends_call_iff.1 isRight
      obtain rfl : answer = reply := agree request answer reply matters (by simp) (by simp)
      obtain ⟨isSame, sameRest⟩ := ih answer goesOn continues agree.of_append
      refine ⟨isSame, ?_⟩
      rw [List.filter_append, List.filter_append, sameRest]
  | @incidental request own isIncidental areBoth next counterpart rest ih =>
      obtain ⟨answer, later, rfl, goesOn⟩ := ends_call_iff.1 isLeft
      obtain ⟨reply, last, rfl, continues⟩ := ends_call_iff.1 isRight
      obtain ⟨isSame, sameRest⟩ := ih answer reply goesOn continues agree.of_append
      refine ⟨isSame, ?_⟩
      rw [List.filter_append, List.filter_append, sameRest]
      simp [Exchange.matters, isIncidental, areBoth]

end Alike

end Program

end AdMonitor
