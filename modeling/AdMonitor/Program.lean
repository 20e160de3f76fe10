import AdMonitor.Call

/-!
# Programs

A program is a value or a call together with the program that follows each of
its answers.  Every program ends after finitely many calls, whatever the
answers are.
-/

namespace AdMonitor

inductive Program (α : Type) where
  | done (value : α)
  | call (call : Call) (next : call.Answer → Program α)

namespace Program

variable {α β γ : Type}

def ask (request : Call) : Program request.Answer :=
  .call request .done

def andThen : Program α → (α → Program β) → Program β
  | .done value, rest => rest value
  | .call request next, rest => .call request fun answer => (next answer).andThen rest

instance : Monad Program where
  pure := .done
  bind := andThen

@[simp] theorem pure_eq (value : α) : (pure value : Program α) = .done value := rfl

@[simp] theorem done_bind (value : α) (rest : α → Program β) :
    (Program.done value >>= rest) = rest value := rfl

@[simp] theorem call_bind (request : Call) (next : request.Answer → Program α)
    (rest : α → Program β) :
    (Program.call request next >>= rest) =
      .call request fun answer => next answer >>= rest := rfl

theorem bind_done (program : Program α) : (program >>= Program.done) = program := by
  induction program with
  | done value => rfl
  | call request next ih => exact congrArg (Program.call request) (funext ih)

theorem bind_bind (program : Program α) (first : α → Program β) (second : β → Program γ) :
    ((program >>= first) >>= second) = program >>= fun value => first value >>= second := by
  induction program with
  | done value => rfl
  | call request next ih => exact congrArg (Program.call request) (funext ih)

instance : LawfulMonad Program :=
  LawfulMonad.mk' Program bind_done (fun _ _ => rfl) bind_bind

def value? : Program α → Option α
  | .done value => some value
  | .call .. => none

def withLock (name : LockName) (body : Program α) : Program α := do
  let lock ← ask (.lock (.find name))
  ask (.lock (.acquire lock))
  let value ← body
  ask (.lock (.release lock))
  return value

def publish (event : Event) : Program Unit := ask (.publish event)

def clock : Program Instant := ask .clock

end Program

end AdMonitor
