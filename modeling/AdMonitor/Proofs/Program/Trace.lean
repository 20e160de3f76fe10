import AdMonitor.Proofs.Interleaving.Shared

/-!
# Traces of programs

What a program has done so far, as the list of its exchanges with the newest
first, and what it has still to do.  Between two exchanges of a program others
may run, so a trace says which answers a program was given and nothing about
where they came from.
-/

namespace AdMonitor

namespace Program

variable {α β σ : Type}

/-- What a program comes to by some exchanges, of which the last is the first of the list. -/
inductive Leads (program : Program α) : List Exchange → Program α → Prop where
  | start : Leads program [] program
  | step {history : List Exchange} {request : Call} {next : request.Answer → Program α}
      (leads : Leads program history (.call request next)) (answer : request.Answer) :
      Leads program (⟨request, answer⟩ :: history) (next answer)

/-- Whether a program ends with a value by some exchanges. -/
def Ends (program : Program α) (history : List Exchange) (value : α) : Prop :=
  program.Leads history (.done value)

section Oldest

variable {request : Call} {next : request.Answer → Program α} {program rest : Program α}
  {history later early : List Exchange} {value : α}

theorem eq_done (found : program.value? = some value) : program = .done value := by
  cases program with
  | done own =>
      cases found
      rfl
  | call request next => cases found

theorem leads_done_iff :
    (Program.done value).Leads history rest ↔ history = [] ∧ rest = .done value := by
  constructor
  · intro leads
    induction leads with
    | start => exact ⟨rfl, rfl⟩
    | step leads answer ih => cases ih.2
  · rintro ⟨rfl, rfl⟩
    exact .start

theorem ends_done_iff {other : α} :
    (Program.done value).Ends history other ↔ history = [] ∧ value = other := by
  rw [Ends, leads_done_iff, Program.done.injEq]
  exact and_congr_right fun _ => eq_comm

theorem Leads.trans (first : program.Leads early rest) {final : Program α}
    (second : rest.Leads later final) : program.Leads (later ++ early) final := by
  induction second with
  | start => exact first
  | step leads answer ih => exact .step ih answer

/-- A program that makes a call has not been asked yet, or goes on with the first answer. -/
theorem leads_call (leads : (Program.call request next).Leads history rest) :
    history = [] ∧ rest = .call request next ∨
      ∃ answer later, history = later ++ [⟨request, answer⟩] ∧
        (next answer).Leads later rest := by
  induction leads with
  | start => exact Or.inl ⟨rfl, rfl⟩
  | step leads answer ih =>
      rcases ih with ⟨rfl, same⟩ | ⟨first, later, rfl, remaining⟩
      · cases same
        exact Or.inr ⟨answer, [], rfl, .start⟩
      · exact Or.inr ⟨first, _ :: later, rfl, .step remaining answer⟩

theorem ends_call_iff : (Program.call request next).Ends history value ↔
    ∃ answer later, history = later ++ [⟨request, answer⟩] ∧ (next answer).Ends later value := by
  constructor
  · intro ends
    rcases leads_call ends with ⟨-, same⟩ | found
    · cases same
    · exact found
  · rintro ⟨answer, later, rfl, ends⟩
    exact (Leads.step .start answer).trans ends

/-- What two programs have done one after the other is what each of them has done. -/
theorem ends_bind_iff {program : Program β} {rest : β → Program α} :
    (program >>= rest).Ends history value ↔
      ∃ middle later early, history = later ++ early ∧ program.Ends early middle ∧
        (rest middle).Ends later value := by
  induction program generalizing history with
  | done middle =>
      constructor
      · intro ends
        exact ⟨middle, history, [], (List.append_nil _).symm, .start, ends⟩
      · rintro ⟨other, later, early, rfl, first, second⟩
        obtain ⟨rfl, rfl⟩ := ends_done_iff.1 first
        rwa [List.append_nil]
  | call request next ih =>
      rw [call_bind, ends_call_iff]
      constructor
      · rintro ⟨answer, after, rfl, ends⟩
        obtain ⟨middle, later, early, rfl, first, second⟩ := (ih answer).1 ends
        exact ⟨middle, later, early ++ [⟨request, answer⟩], List.append_assoc ..,
          ends_call_iff.2 ⟨answer, early, rfl, first⟩, second⟩
      · rintro ⟨middle, later, early, rfl, first, second⟩
        obtain ⟨answer, after, rfl, remaining⟩ := ends_call_iff.1 first
        exact ⟨answer, later ++ after, (List.append_assoc ..).symm,
          (ih answer).2 ⟨middle, later, after, rfl, remaining, second⟩⟩

theorem ends_ask_iff {rest : request.Answer → Program α} :
    (Program.ask request >>= rest).Ends history value ↔
      ∃ answer later, history = later ++ [⟨request, answer⟩] ∧ (rest answer).Ends later value :=
  ends_call_iff

end Oldest

section Parts

variable {program rest other : Program α} {later early past : List Exchange} {value final : α}

/-- On its way a program has come to what its early exchanges lead to. -/
theorem Leads.split (leads : program.Leads (later ++ early) rest) :
    ∃ middle, program.Leads early middle ∧ middle.Leads later rest := by
  induction later generalizing rest with
  | nil => exact ⟨rest, leads, .start⟩
  | cons exchange later ih =>
      cases leads with
      | step leads answer =>
          obtain ⟨middle, first, second⟩ := ih leads
          exact ⟨middle, first, .step second answer⟩

/-- Exchanges lead to one program only. -/
theorem Leads.unique (first : program.Leads early rest) (second : program.Leads early other) :
    rest = other := by
  induction first generalizing other with
  | start =>
      cases second
      rfl
  | step first answer ih =>
      cases second with
      | step second answer =>
          cases ih second
          rfl

/-- What a program has still to do after its early exchanges is done by the later ones. -/
theorem Leads.after (leads : program.Leads (later ++ early) rest)
    (first : program.Leads early other) : other.Leads later rest := by
  obtain ⟨middle, comesTo, goesOn⟩ := leads.split
  cases Leads.unique first comesTo
  exact goesOn

/-- What follows a program does not matter as long as the program is at work. -/
theorem Leads.bind (leads : program.Leads early other) (next : α → Program β) :
    (program >>= next).Leads early (other >>= next) := by
  induction leads with
  | start => exact .start
  | step leads answer ih => exact .step ih answer

/-- A program that has ended does nothing more. -/
theorem Ends.eq_of_append (first : program.Ends early value)
    (second : program.Ends (later ++ early) final) : later = [] ∧ value = final := by
  exact ends_done_iff.1 (Leads.after second first)

/-- Of one list of exchanges there is at most one early part by which a program ends. -/
theorem Ends.eq_of_suffix (first : program.Ends early value) (second : program.Ends past final)
    {history : List Exchange} (isEarly : early <:+ history) (isPast : past <:+ history) :
    early = past := by
  rcases List.suffix_or_suffix_of_suffix isEarly isPast with ⟨more, rfl⟩ | ⟨more, rfl⟩
  · rw [(first.eq_of_append second).1, List.nil_append]
  · rw [(second.eq_of_append first).1, List.nil_append]

end Parts

/-- What a transition system comes to by some exchanges, of which the last is the first. -/
inductive Path (step : σ → Exchange → σ → Prop) (first : σ) : List Exchange → σ → Prop where
  | start : Path step first [] first
  | step {history : List Exchange} {before after : σ} {exchange : Exchange}
      (path : Path step first history before) (taken : step before exchange after) :
      Path step first (exchange :: history) after

/-- Every exchange of a path is a step from where the ones before it have led. -/
theorem Path.of_suffix {step : σ → Exchange → σ → Prop} {first final : σ}
    {history past : List Exchange} (path : Path step first history final) {exchange : Exchange}
    (isPart : exchange :: past <:+ history) :
    ∃ before after, Path step first past before ∧ step before exchange after := by
  induction path with
  | start => exact absurd (List.suffix_nil.1 isPart) (List.cons_ne_nil _ _)
  | step path taken ih =>
      rcases List.suffix_cons_iff.1 isPart with same | older
      · cases same
        exact ⟨_, _, path, taken⟩
      · exact ih older

theorem Path.mem {step : σ → Exchange → σ → Prop} {first final : σ} {history : List Exchange}
    (path : Path step first history final) {exchange : Exchange} (found : exchange ∈ history) :
    ∃ past before after, exchange :: past <:+ history ∧ Path step first past before ∧
      step before exchange after := by
  obtain ⟨later, past, rfl⟩ := List.append_of_mem found
  obtain ⟨before, after, earlier, taken⟩ := path.of_suffix (List.suffix_append later _)
  exact ⟨past, before, after, List.suffix_append .., earlier, taken⟩

section Traces

variable {program rest : Program α} {history : List Exchange}

/-- A program that follows a transition system makes one of its paths. -/
theorem Follows.path {step : σ → Exchange → σ → Prop} {post : σ → α → Prop} {stage : σ}
    (follows : program.Follows step post stage) (leads : program.Leads history rest) :
    ∃ after, Path step stage history after ∧ rest.Follows step post after := by
  induction leads with
  | start => exact ⟨stage, .start, follows⟩
  | step leads answer ih =>
      obtain ⟨before, path, remaining⟩ := ih
      obtain ⟨after, taken, remaining⟩ := remaining answer
      exact ⟨after, .step path taken, remaining⟩

theorem Uses.leads {allowed : Call → Prop} {post : α → Prop} (uses : program.Uses allowed post)
    (leads : program.Leads history rest) :
    (∀ exchange ∈ history, allowed exchange.call) ∧ rest.Uses allowed post := by
  induction leads with
  | start => exact ⟨List.forall_mem_nil _, uses⟩
  | step leads answer ih =>
      obtain ⟨areAllowed, isAllowed, remaining⟩ := ih
      exact ⟨List.forall_mem_cons.2 ⟨isAllowed, areAllowed⟩, remaining answer⟩

theorem Leads.proceed {outside : Outside} {shared after : Shared outside}
    {reaction : Reaction outside} {next : Program α} {exchange : Exchange}
    (leads : program.Leads history rest)
    (found : shared.proceed reaction rest = some (exchange, next, after)) :
    program.Leads (exchange :: history) next := by
  obtain ⟨-, follow, rfl, rfl⟩ := Shared.proceed_eq_some found
  exact .step leads exchange.answer

end Traces

section Newest

variable {request : Call} {next : request.Answer → Program α} {program : Program β}
  {rest : β → Program α} {final : Program α} {history : List Exchange} {newest : Exchange}

/-- A program that has done something other than its first call has got past that call. -/
theorem leads_call_of_ne (leads : (Program.call request next).Leads (newest :: history) final)
    (differs : newest.call ≠ request) :
    ∃ answer later, history = later ++ [⟨request, answer⟩] ∧
      (next answer).Leads (newest :: later) final := by
  rcases leads_call leads with ⟨wrong, -⟩ | ⟨answer, later, parts, remaining⟩
  · cases wrong
  · rcases List.cons_eq_append_iff.1 parts with ⟨rfl, same⟩ | ⟨later, rfl, rfl⟩
    · cases same
      exact absurd rfl differs
    · exact ⟨answer, later, rfl, remaining⟩

theorem leads_ask_of_ne {rest : request.Answer → Program α}
    (leads : (Program.ask request >>= rest).Leads (newest :: history) final)
    (differs : newest.call ≠ request) :
    ∃ answer later, history = later ++ [⟨request, answer⟩] ∧
      (rest answer).Leads (newest :: later) final :=
  leads_call_of_ne leads differs

/-- Two programs one after the other are at work on the first of them or on the second. -/
theorem leads_bind (leads : (program >>= rest).Leads history final) :
    (∃ middle, program.Leads history middle ∧ final = middle >>= rest) ∨
      ∃ value later early, history = later ++ early ∧ program.Ends early value ∧
        (rest value).Leads later final := by
  generalize isBound : program >>= rest = bound at leads
  induction leads with
  | start => exact Or.inl ⟨program, .start, isBound.symm⟩
  | step leads answer ih =>
      rcases ih with ⟨middle, comesTo, same⟩ | ⟨value, later, early, rfl, ends, goesOn⟩
      · cases middle with
        | done value =>
            refine Or.inr ⟨value, [_], _, rfl, comesTo, ?_⟩
            rw [done_bind] at same
            rw [← same]
            exact .step .start answer
        | call own next =>
            cases same
            exact Or.inl ⟨next answer, .step comesTo answer, rfl⟩
      · exact Or.inr ⟨value, _ :: later, early, rfl, ends, .step goesOn answer⟩

/-- Of two programs one after the other, the second is at work when the first could not have made
the newest call. -/
theorem leads_bind_of_uses {allowed : Call → Prop} {post : β → Prop}
    (uses : program.Uses allowed post) (forbidden : ¬ allowed newest.call)
    (leads : (program >>= rest).Leads (newest :: history) final) :
    ∃ value later early, history = later ++ early ∧ program.Ends early value ∧
      (rest value).Leads (newest :: later) final := by
  rcases leads_bind leads with ⟨middle, comesTo, -⟩ | ⟨value, later, early, parts, ends, goesOn⟩
  · exact absurd ((uses.leads comesTo).1 newest List.mem_cons_self) forbidden
  · rcases List.cons_eq_append_iff.1 parts with ⟨rfl, rfl⟩ | ⟨later, rfl, rfl⟩
    · exact absurd ((uses.leads ends).1 newest List.mem_cons_self) forbidden
    · exact ⟨value, later, early, rfl, ends, goesOn⟩

end Newest

end Program

end AdMonitor
