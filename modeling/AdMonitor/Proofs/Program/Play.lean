import AdMonitor.Proofs.Program.Trace

/-!
# Programs against respondents

Respondents answer every call of a program and may change with each of them.
Collaborators that succeed, fail, time out or change their minds are
respondents, so what a program does against all respondents is what it does
whatever its collaborators do.  Every program comes to a value against them.
-/

namespace AdMonitor

/-- What answers the calls of a program, each answer together with what is there after it. -/
structure Respondents where
  State : Type
  answer : State → (call : Call) → call.Answer × State

abbrev Outside.respondents (outside : Outside) (mood : outside.Mood) : Respondents where
  State := outside.World
  answer := outside.answer mood

structure Played (σ α : Type) where
  /-- The exchanges, the oldest first. -/
  exchanges : List Exchange
  value : α
  /-- What the respondents have come to. -/
  state : σ

namespace Played

variable {σ α : Type}

def after (early : List Exchange) (played : Played σ α) : Played σ α :=
  { played with exchanges := early ++ played.exchanges }

theorem after_after (early later : List Exchange) (played : Played σ α) :
    (played.after later).after early = played.after (early ++ later) := by
  simp [after]

end Played

namespace Program

variable {α β : Type} {respondents : Respondents} {state : respondents.State}

def play (respondents : Respondents) :
    respondents.State → Program α → Played respondents.State α
  | state, .done value => ⟨[], value, state⟩
  | state, .call request next =>
      let answered := respondents.answer state request
      (play respondents answered.2 (next answered.1)).after [⟨request, answered.1⟩]

section Calls

variable {request : Call} {next : request.Answer → Program α}

theorem play_call :
    play respondents state (.call request next) =
      (play respondents (respondents.answer state request).2
        (next (respondents.answer state request).1)).after
          [⟨request, (respondents.answer state request).1⟩] := rfl

theorem play_ask :
    play respondents state (Program.ask request >>= next) =
      (play respondents (respondents.answer state request).2
        (next (respondents.answer state request).1)).after
          [⟨request, (respondents.answer state request).1⟩] := rfl

end Calls

/-- What follows a program is played from where the program has left its respondents. -/
theorem play_bind (program : Program α) (rest : α → Program β) :
    play respondents state (program >>= rest) =
      (play respondents (play respondents state program).state
        (rest (play respondents state program).value)).after
          (play respondents state program).exchanges := by
  induction program generalizing state with
  | done value => rfl
  | call request next ih =>
      rw [call_bind, play_call, play_call, ih, Played.after_after]
      rfl

theorem ends_play (respondents : Respondents) (state : respondents.State)
    (program : Program α) :
    program.Ends (play respondents state program).exchanges.reverse
      (play respondents state program).value := by
  induction program generalizing state with
  | done value => exact .start
  | call request next ih =>
      rw [play_call, Played.after, List.singleton_append, List.reverse_cons]
      exact ends_call_iff.2 ⟨_, _, rfl, ih _ _⟩

/-- What no call of a program changes is afterwards as it was. -/
theorem Uses.play_keeps {allowed : Call → Prop} {post : α → Prop} {program : Program α}
    (uses : program.Uses allowed post) (view : respondents.State → β)
    (keeps : ∀ state call, allowed call → view (respondents.answer state call).2 = view state)
    (state : respondents.State) : view (play respondents state program).state = view state := by
  induction program generalizing state with
  | done value => rfl
  | call request next ih =>
      rw [play_call]
      exact (ih _ (uses.2 _) _).trans (keeps state request uses.1)

/--
Whether the exchanges of a kind and the value of a program are as a relation
says, whatever it is answered.
-/
def Leaves (kept : Exchange → Bool) (relation : List Exchange → α → Prop)
    (program : Program α) : Prop :=
  ∀ (respondents : Respondents) (state : respondents.State),
    relation ((play respondents state program).exchanges.filter kept)
      (play respondents state program).value

namespace Leaves

variable {kept : Exchange → Bool} {relation : List Exchange → α → Prop}
  {whole : List Exchange → β → Prop} {request : Call} {rest : request.Answer → Program β}

theorem done {value : α} (holds : relation [] value) :
    (Program.done value).Leaves kept relation :=
  fun _ _ => holds

theorem bind {program : Program α} {rest : α → Program β}
    (first : program.Leaves kept relation)
    (second : ∀ early value, relation early value →
      (rest value).Leaves kept fun later => whole (early ++ later)) :
    (program >>= rest).Leaves kept whole := by
  intro respondents state
  rw [play_bind, Played.after, List.filter_append]
  exact second _ _ (first respondents state) respondents _

/-- A call of the kind is part of what is left. -/
theorem ask (isKept : ∀ answer, kept ⟨request, answer⟩ = true)
    (remaining : ∀ answer,
      (rest answer).Leaves kept fun later => whole (⟨request, answer⟩ :: later)) :
    (Program.ask request >>= rest).Leaves kept whole := by
  intro respondents state
  rw [play_ask, Played.after, List.singleton_append, List.filter_cons_of_pos (isKept _)]
  exact remaining _ respondents _

theorem alone (isKept : ∀ answer, kept ⟨request, answer⟩ = true) :
    (Program.ask request).Leaves kept fun exchanges answer => exchanges = [⟨request, answer⟩] :=
  ask isKept fun _ => done rfl

/-- A call of another kind is passed over. -/
theorem pass (isOther : ∀ answer, kept ⟨request, answer⟩ = false)
    (remaining : ∀ answer, (rest answer).Leaves kept whole) :
    (Program.ask request >>= rest).Leaves kept whole := by
  intro respondents state
  have dropped := Bool.eq_false_iff.1 (isOther (respondents.answer state request).1)
  rw [play_ask, Played.after, List.singleton_append, List.filter_cons_of_neg dropped]
  exact remaining _ respondents _

/-- Locks are passed over, unless the kind has to do with them. -/
theorem withLock (name : LockName) {program : Program α}
    (isOther : ∀ query answer, kept ⟨.lock query, answer⟩ = false)
    (leaves : program.Leaves kept relation) :
    (Program.withLock name program).Leaves kept relation := by
  refine pass (isOther _) fun lock => pass (isOther _) fun _ => ?_
  refine leaves.bind fun early value holds => pass (isOther _) fun _ => done ?_
  rwa [List.append_nil]

end Leaves

end Program

end AdMonitor
