import AdMonitor.Proofs.Interleaving.Traces
import AdMonitor.Proofs.Store.States

/-!
# What a log does to the stores

Programs touch what they share only by the calls that the log tells of, so the
log alone says what has become of the stores: a state is the one last saved,
unless a removal has dropped it, and the agents are those from the start,
whenever these were last evaluated.
-/

namespace AdMonitor

variable {outside : Outside}

def StateQuery.drops (key : StateKey) : StateQuery → Bool
  | .retain agent keep => key.agent == agent && !keep.contains key.target
  | .remove agent => key.agent == agent
  | _ => false

theorem StateQuery.drops_retain {agent : AgentId} {keep : List TargetKey} {key : StateKey} :
    (retain agent keep).drops key = true ↔ key.agent = agent ∧ key.target ∉ keep := by
  simp [drops]

namespace StateStore

variable {store : StateStore} {key : StateKey}

theorem get?_afterFailure {query : StateQuery} {lost : StateKey → Bool} :
    Table.get? (query.afterFailure store lost) key =
      if lost key && query.drops key then none else Table.get? store key := by
  cases query with
  | retain | remove =>
      refine get?_keepOnly_eq.trans ?_
      cases lost key <;> simp [StateQuery.drops] <;> grind
  | get | put | owners => simp [StateQuery.drops, StateQuery.afterFailure]

end StateStore

namespace Exchange

/-- Whether an exchange is a request to remove the state of a key, however it came out. -/
def Drops (key : StateKey) (exchange : Exchange) : Prop :=
  ∃ query, exchange.call = .states query ∧ query.drops key = true

def IsLoss : Exchange → Prop
  | ⟨.states (.retain ..), .error _⟩ | ⟨.states (.remove _), .error _⟩ => True
  | _ => False

theorem IsLoss.unsaved {exchange : Exchange} (isLoss : exchange.IsLoss) (key : StateKey) :
    exchange.saved? key = none := by
  unfold IsLoss at isLoss
  split at isLoss <;> first | rfl | cases isLoss

def removed : Exchange → Nat
  | ⟨.states (.retain ..), .ok count⟩ | ⟨.states (.remove _), .ok count⟩ => count
  | _ => 0

/-- Whether an exchange says that there is no longer a state under a key. -/
def Clears (key : StateKey) : Exchange → Prop
  | ⟨.states .owners, .ok owners⟩ => key.agent ∉ owners
  | ⟨.states query, .ok _⟩ => query.drops key = true
  | _ => False

/-- Whether an exchange has put a new agent under an id, or removed the one there. -/
def Replaces (id : AgentId) : Exchange → Prop
  | ⟨.agents (.create agent), .ok _⟩ => agent.id = id
  | ⟨.agents (.delete own), .ok _⟩ => own = id
  | _ => False

theorem Replaces.call_cases {id : AgentId} {exchange : Exchange} (replaces : exchange.Replaces id) :
    (∃ agent, exchange.call = .agents (.create agent)) ∨ exchange.call = .agents (.delete id) := by
  unfold Replaces at replaces
  split at replaces
  · exact Or.inl ⟨_, rfl⟩
  · subst replaces
    exact Or.inr rfl
  · cases replaces

end Exchange

section Answers

variable {shared after : Shared outside} {reaction : Reaction outside} {exchange : Exchange}
  {key : StateKey}

/-- A state that an exchange does not drop is the one it saved, or the one from before. -/
theorem Shared.get?_of_not_drops
    (answered : shared.answer reaction exchange.call = some (exchange.answer, after))
    (keeps : ¬ exchange.Drops key) :
    Table.get? after.states key = (exchange.saved? key).or (Table.get? shared.states key) := by
  obtain ⟨call, answer⟩ := exchange
  cases call with
  | states query =>
      have isKept : query.drops key = false := by simpa [Exchange.Drops] using keeps
      rcases Shared.answer_states answered with ⟨⟨failure, rfl⟩, rfl⟩ | ⟨rfl, rfl⟩
      · rw [StateStore.get?_afterFailure, isKept, Bool.and_false, if_neg Bool.false_ne_true]
        cases query <;> rfl
      · cases query with
        | put own state =>
            refine Table.get?_insert.trans ?_
            by_cases isOwn : key = own
            · simp [Exchange.saved?, isOwn]
            · simp [Exchange.saved?, isOwn, Ne.symm isOwn]
        | get | owners => rfl
        | retain | remove =>
            refine StateStore.get?_keepOnly_eq.trans (if_pos ?_)
            simp only [StateQuery.drops] at isKept
            grind
  | _ =>
      rw [Shared.states_of_answer (fun _ => by simp) answered]
      rfl

/-- A state that is to be removed is gone, unless the removal failed and left it. -/
theorem Shared.get?_of_drops
    (answered : shared.answer reaction exchange.call = some (exchange.answer, after))
    (drops : exchange.Drops key) :
    Table.get? after.states key = none ∨ exchange.IsLoss ∧ reaction.lost key = false ∧
      Table.get? after.states key = Table.get? shared.states key := by
  obtain ⟨call, answer⟩ := exchange
  obtain ⟨query, rfl, drops⟩ := drops
  rcases Shared.answer_states answered with ⟨⟨failure, rfl⟩, rfl⟩ | ⟨rfl, rfl⟩
  · rw [StateStore.get?_afterFailure, drops, Bool.and_true]
    cases isLost : reaction.lost key with
    | true => exact Or.inl (if_pos rfl)
    | false =>
        refine Or.inr ⟨?_, rfl, if_neg Bool.false_ne_true⟩
        cases query <;> trivial
  · refine Or.inl ?_
    cases query with
    | get | put | owners => cases drops
    | retain | remove =>
        refine StateStore.get?_keepOnly_eq.trans (if_neg ?_)
        simp only [StateQuery.drops] at drops
        grind

/-- A removal that fails leaves what it does not lose. -/
theorem Shared.get?_of_loss
    (answered : shared.answer reaction exchange.call = some (exchange.answer, after))
    (isLoss : exchange.IsLoss) (isKept : reaction.lost key = false) :
    Table.get? after.states key = Table.get? shared.states key := by
  obtain ⟨call, answer⟩ := exchange
  unfold Exchange.IsLoss at isLoss
  split at isLoss
  · rename_i same
    cases same
    rcases Shared.answer_states answered with ⟨-, rfl⟩ | ⟨wrong, -⟩
    · rw [StateStore.get?_afterFailure, isKept, Bool.false_and, if_neg Bool.false_ne_true]
    · cases wrong
  · rename_i same
    cases same
    rcases Shared.answer_states answered with ⟨-, rfl⟩ | ⟨wrong, -⟩
    · rw [StateStore.get?_afterFailure, isKept, Bool.false_and, if_neg Bool.false_ne_true]
    · cases wrong
  · cases isLoss

/-- Where there is said to be no state, there is none. -/
theorem Shared.get?_of_clears
    (answered : shared.answer reaction exchange.call = some (exchange.answer, after))
    (clears : exchange.Clears key) : Table.get? after.states key = none := by
  obtain ⟨call, answer⟩ := exchange
  unfold Exchange.Clears at clears
  split at clears
  · rename_i owners same
    cases same
    rcases Shared.answer_states answered with ⟨⟨failure, wrong⟩, -⟩ | ⟨same, rfl⟩
    · cases wrong
    · cases same
      by_contra isSome
      obtain ⟨state, isSome⟩ := Option.ne_none_iff_exists'.1 isSome
      exact clears (StateStore.mem_owners.2 ⟨key, StateStore.mem_support.2 ⟨state, isSome⟩, rfl⟩)
  · rename_i query count _ same
    cases same
    rcases Shared.get?_of_drops answered ⟨query, rfl, clears⟩ with isNone | ⟨isLoss, -⟩
    · exact isNone
    · cases query <;> cases isLoss
  · cases clears

/-- Where there was no state there is none, unless one has been saved. -/
theorem Shared.get?_of_none
    (answered : shared.answer reaction exchange.call = some (exchange.answer, after))
    (unsaved : exchange.saved? key = none) (wasNone : Table.get? shared.states key = none) :
    Table.get? after.states key = none := by
  by_cases drops : exchange.Drops key
  · rcases Shared.get?_of_drops answered drops with isNone | ⟨-, -, same⟩
    · exact isNone
    · rw [same, wasNone]
  · rw [Shared.get?_of_not_drops answered drops, unsaved, wasNone]
    rfl

/-- A key that has lost its state was one to be removed. -/
theorem Shared.drops_of_gone
    (answered : shared.answer reaction exchange.call = some (exchange.answer, after))
    (was : key ∈ shared.states.support) (isGone : key ∉ after.states.support) :
    exchange.Drops key := by
  by_contra keeps
  obtain ⟨state, was⟩ := StateStore.mem_support.1 was
  refine isGone (StateStore.mem_support.2 ?_)
  rw [Shared.get?_of_not_drops answered keeps, was]
  cases exchange.saved? key <;> exact ⟨_, rfl⟩

/-- A key that has got a state is one for which it was saved. -/
theorem Shared.saved_of_new
    (answered : shared.answer reaction exchange.call = some (exchange.answer, after))
    (wasNot : key ∉ shared.states.support) (isNow : key ∈ after.states.support) :
    ∃ state, exchange.saved? key = some state := by
  have wasNone : Table.get? shared.states key = none := by
    by_contra isSome
    exact wasNot (StateStore.mem_support.2 (Option.ne_none_iff_exists'.1 isSome))
  obtain ⟨state, isNow⟩ := StateStore.mem_support.1 isNow
  by_cases drops : exchange.Drops key
  · rcases Shared.get?_of_drops answered drops with isNone | ⟨-, -, same⟩
    · rw [isNone] at isNow
      cases isNow
    · rw [same, wasNone] at isNow
      cases isNow
  · rw [Shared.get?_of_not_drops answered drops, wasNone, Option.or_none] at isNow
    exact ⟨state, isNow⟩

/-- A removal that does not fail says how many keys have lost their states. -/
theorem Shared.removed_eq_card
    (answered : shared.answer reaction exchange.call = some (exchange.answer, after))
    (succeeds : ¬ exchange.IsLoss) :
    exchange.removed = (shared.states.support \ after.states.support).card := by
  have stays : (∀ key, ¬ exchange.Drops key) →
      (shared.states.support \ after.states.support).card = 0 := by
    intro keeps
    rw [Finset.card_eq_zero, Finset.sdiff_eq_empty_iff_subset]
    intro key was
    by_contra isGone
    exact keeps key (Shared.drops_of_gone answered was isGone)
  obtain ⟨call, answer⟩ := exchange
  cases call with
  | states query =>
      cases query with
      | get | put | owners => exact (stays (by simp [Exchange.Drops, StateQuery.drops])).symm
      | retain | remove =>
          rcases Shared.answer_states answered with ⟨⟨failure, rfl⟩, -⟩ | ⟨rfl, rfl⟩
          · exact absurd trivial succeeds
          · exact StateStore.card_keepOnly
  | _ => exact (stays (by simp [Exchange.Drops])).symm

/-- An agent that is not replaced is as before, but for when it was last evaluated. -/
theorem Shared.unmarked_of_answer {id : AgentId}
    (answered : shared.answer reaction exchange.call = some (exchange.answer, after))
    (keeps : ¬ exchange.Replaces id) :
    (Table.get? after.agents id).map Agent.unmarked =
      (Table.get? shared.agents id).map Agent.unmarked := by
  obtain ⟨call, answer⟩ := exchange
  cases call with
  | agents query =>
      rcases Shared.answer_agents answered with ⟨-, rfl⟩ | ⟨agents, isAnswer, rfl⟩
      · rfl
      · cases query with
        | get | list | listActive =>
            cases isAnswer
            rfl
        | mark own time =>
            obtain rfl : agents = _ := (congrArg Prod.snd isAnswer).symm
            rcases AgentQuery.commit_cases shared.agents (shared.agents.mark own time) with
              same | marked
            · exact congrArg (fun store => (Table.get? store id).map Agent.unmarked) same
            · exact AgentStore.Resembles.mark (fun _ => rfl) marked id
        | create agent =>
            simp only [AgentQuery.answer] at isAnswer
            cases created : shared.agents.create agent with
            | error failure =>
                rw [created] at isAnswer
                cases isAnswer
                rfl
            | ok store =>
                rw [created] at isAnswer
                cases isAnswer
                obtain ⟨-, rfl⟩ := AgentStore.create_cases created
                exact congrArg _ (Table.get?_insert.trans (if_neg (Ne.symm keeps)))
        | delete own =>
            cases isAnswer
            exact congrArg _ (Table.get?_erase.trans (if_neg (Ne.symm keeps)))
  | _ => rw [Shared.agents_of_answer (fun _ => by simp) answered]

end Answers

/-- What the calls of a log make of what is shared, when all reactions are admitted. -/
inductive Shared.Evolves (admits : Reaction outside → Prop) (first : Shared outside) :
    History → Shared outside → Prop where
  | start : Evolves admits first [] first
  | step {log : History} {before after : Shared outside} {entry : Entry}
      {reaction : Reaction outside} (evolves : Evolves admits first log before)
      (isAdmitted : admits reaction)
      (answered : before.answer reaction entry.exchange.call =
        some (entry.exchange.answer, after)) : Evolves admits first (entry :: log) after

/-- Whether a deed is no edit of a stored agent, and only admitted reactions happen by it. -/
def Deed.IsCalm (admits : Reaction outside → Prop) : Deed outside → Prop
  | .turn (.proceed _ _ reaction) | .serve _ reaction => admits reaction
  | .update .. => False
  | _ => True

section Runs

variable {settings : Settings} {admits : Reaction outside → Prop} {first : Shared outside}

theorem System.perform_evolves [UrlParser] {system : System outside}
    (evolves : Shared.Evolves admits first system.log system.shared) {deed : Deed outside}
    (isCalm : deed.IsCalm admits) :
    Shared.Evolves admits first (system.perform settings deed).log
      (system.perform settings deed).shared := by
  cases deed with
  | turn turn =>
      cases turn with
      | begin now => exact evolves
      | settle index position => cases position <;> exact evolves
      | proceed index spot reaction =>
          simp only [System.perform, System.take]
          split
          · exact evolves
          · rename_i entry next shared found
            obtain ⟨run, -, proceeds⟩ := Option.bind_eq_some_iff.1 found
            exact .step evolves isCalm (run.answered_of_proceed proceeds)
  | submit request => exact evolves
  | serve index reaction =>
      simp only [System.perform]
      split
      · exact evolves
      · rename_i exchange next shared found
        obtain ⟨job, -, proceeds⟩ := Option.bind_eq_some_iff.1 found
        exact .step evolves isCalm (Shared.proceed_eq_some proceeds).1
  | update agent now => cases isCalm

/-- The log says what has become of the stores. -/
theorem System.run_evolves [UrlParser] {system : System outside}
    (evolves : Shared.Evolves admits first system.log system.shared) {turns : List (Turn outside)}
    (areCalm : ∀ turn ∈ turns, (Deed.turn turn).IsCalm admits) :
    Shared.Evolves admits first (system.run settings turns).log
      (system.run settings turns).shared := by
  induction turns generalizing system with
  | nil => exact evolves
  | cons turn rest ih =>
      obtain ⟨isCalm, areCalm⟩ := List.forall_mem_cons.1 areCalm
      exact ih (System.perform_evolves evolves isCalm) areCalm

end Runs

namespace Shared.Evolves

variable {admits : Reaction outside → Prop} {first after : Shared outside} {log : History}
  {key : StateKey}

theorem mono {wider : Reaction outside → Prop} (evolves : Evolves admits first log after)
    (widens : ∀ reaction, admits reaction → wider reaction) : Evolves wider first log after := by
  induction evolves with
  | start => exact .start
  | step evolves isAdmitted answered ih => exact .step ih (widens _ isAdmitted) answered

/-- A state that nobody removes is the one last saved. -/
theorem get?_eq_lastSaved (evolves : Evolves admits first log after)
    (keeps : ∀ entry ∈ log, ¬ entry.exchange.Drops key) :
    Table.get? after.states key = log.lastSaved first.states key := by
  induction evolves with
  | start => rfl
  | step evolves isAdmitted answered ih =>
      obtain ⟨isKept, keeps⟩ := List.forall_mem_cons.1 keeps
      rw [History.lastSaved_cons, Shared.get?_of_not_drops answered isKept, ih keeps]

/-- Where there was said to be no state, or whatever is to be removed is, there is none unless one
has been saved. -/
theorem get?_eq_none (evolves : Evolves admits first log after) (unsaved : log.saves key = [])
    (cleared : ∃ entry ∈ log, entry.exchange.Clears key ∨
      entry.exchange.Drops key ∧ ∀ reaction, admits reaction → reaction.lost key = true) :
    Table.get? after.states key = none := by
  induction evolves with
  | start => simp at cleared
  | @step log before after entry reaction evolves isAdmitted answered ih =>
      have isUnsaved : entry.exchange.saved? key = none :=
        List.filterMap_eq_nil_iff.1 unsaved entry List.mem_cons_self
      rw [History.saves_cons_none isUnsaved] at unsaved
      obtain ⟨cleared, logged, clears⟩ := cleared
      rcases List.mem_cons.1 logged with rfl | older
      · rcases clears with clears | ⟨drops, areLost⟩
        · exact Shared.get?_of_clears answered clears
        · rcases Shared.get?_of_drops answered drops with isNone | ⟨-, isKept, -⟩
          · exact isNone
          · rw [areLost reaction isAdmitted] at isKept
            cases isKept
      · exact Shared.get?_of_none answered isUnsaved (ih unsaved ⟨cleared, older, clears⟩)

/-- Where every request to remove a state has failed and has left it, it is the one last saved. -/
theorem get?_of_losses
    (evolves : Evolves (fun reaction => reaction.lost key = false) first log after)
    (fails : ∀ entry ∈ log, entry.exchange.Drops key → entry.exchange.IsLoss) :
    Table.get? after.states key = log.lastSaved first.states key := by
  induction evolves with
  | start => rfl
  | @step log before after entry reaction evolves isKept answered ih =>
      obtain ⟨failed, fails⟩ := List.forall_mem_cons.1 fails
      by_cases drops : entry.exchange.Drops key
      · rw [Shared.get?_of_loss answered (failed drops) isKept, ih fails,
          History.lastSaved_cons_none ((failed drops).unsaved key)]
      · rw [History.lastSaved_cons, Shared.get?_of_not_drops answered drops, ih fails]

/-- Every entry is the answer of what its past has made of what is shared. -/
theorem answered (evolves : Evolves admits first log after) {entry : Entry} {past : History}
    (isPast : entry :: past <:+ log) : ∃ before reaction later,
      Evolves admits first past before ∧ admits reaction ∧
        before.answer reaction entry.exchange.call = some (entry.exchange.answer, later) := by
  induction evolves with
  | start => exact absurd (List.suffix_nil.1 isPast) (List.cons_ne_nil _ _)
  | step evolves isAdmitted answered ih =>
      rcases List.suffix_cons_iff.1 isPast with same | older
      · cases same
        exact ⟨_, _, _, evolves, isAdmitted, answered⟩
      · exact ih older

theorem unmarked_eq (evolves : Evolves admits first log after) {id : AgentId}
    (keeps : ∀ entry ∈ log, ¬ entry.exchange.Replaces id) :
    (Table.get? after.agents id).map Agent.unmarked =
      (Table.get? first.agents id).map Agent.unmarked := by
  induction evolves with
  | start => rfl
  | step evolves isAdmitted answered ih =>
      obtain ⟨isKept, keeps⟩ := List.forall_mem_cons.1 keeps
      rw [Shared.unmarked_of_answer answered isKept, ih keeps]

/-- What a log tells of the agents is true of those from the start, whenever these were last
evaluated. -/
theorem told (evolves : Evolves admits first log after)
    (keeps : ∀ entry ∈ log, ∀ id, ¬ entry.exchange.Replaces id) {actor : Actor}
    {query : AgentQuery} {answer : query.Answer}
    (told : ⟨actor, ⟨.agents query, .ok answer⟩⟩ ∈ log) :
    ∃ store, store.Resembles first.agents ∧ (query.answer store).1 = .ok answer := by
  obtain ⟨past, isPast⟩ := History.exists_past told
  obtain ⟨before, reaction, later, evolved, -, answered⟩ := evolves.answered isPast
  refine ⟨before.agents, fun id => evolved.unmarked_eq fun entry logged => ?_, ?_⟩
  · exact keeps entry (isPast.subset (List.mem_cons_of_mem _ logged)) id
  · rcases Shared.answer_agents answered with ⟨⟨failure, wrong⟩, -⟩ | ⟨agents, isAnswer, -⟩
    · cases wrong
    · exact congrArg Prod.fst isAnswer

section Collection

variable {spared : StateKey → Prop}

/-- Keys that are spared keep their states, and no other keys get any. -/
theorem support_cases (key : StateKey) (evolves : Evolves admits first log after)
    (saves : ∀ entry ∈ log, ∀ key state, entry.exchange.saved? key = some state → spared key)
    (drops : ∀ entry ∈ log, ∀ key, entry.exchange.Drops key → ¬ spared key) :
    (spared key → key ∈ first.states.support → key ∈ after.states.support) ∧
      (¬ spared key → key ∈ after.states.support → key ∈ first.states.support) := by
  induction evolves with
  | start => exact ⟨fun _ found => found, fun _ found => found⟩
  | step evolves isAdmitted answered ih =>
      obtain ⟨saves, older⟩ := List.forall_mem_cons.1 saves
      obtain ⟨drops, others⟩ := List.forall_mem_cons.1 drops
      obtain ⟨kept, known⟩ := ih older others
      refine ⟨fun isSpared found => ?_, fun notSpared found => ?_⟩
      · by_contra isGone
        exact drops key (Shared.drops_of_gone answered (kept isSpared found) isGone) isSpared
      · refine known notSpared ?_
        by_contra wasNot
        obtain ⟨state, saved⟩ := Shared.saved_of_new answered wasNot found
        exact notSpared (saves key state saved)

/-- As long as no removal fails, the numbers that removals return add up to the number of keys that
have lost their states. -/
theorem sum_removed (evolves : Evolves admits first log after)
    (saves : ∀ entry ∈ log, ∀ key state, entry.exchange.saved? key = some state → spared key)
    (drops : ∀ entry ∈ log, ∀ key, entry.exchange.Drops key → ¬ spared key)
    (succeeds : ∀ entry ∈ log, ¬ entry.exchange.IsLoss) :
    (log.map fun entry => entry.exchange.removed).sum =
      (first.states.support \ after.states.support).card := by
  induction evolves with
  | start => simp
  | @step log before after entry reaction evolves isAdmitted answered ih =>
      obtain ⟨isSave, saves⟩ := List.forall_mem_cons.1 saves
      obtain ⟨isDrop, drops⟩ := List.forall_mem_cons.1 drops
      obtain ⟨isFine, succeeds⟩ := List.forall_mem_cons.1 succeeds
      have parts : first.states.support \ after.states.support =
          (first.states.support \ before.states.support) ∪
            (before.states.support \ after.states.support) := by
        ext key
        obtain ⟨kept, known⟩ := evolves.support_cases key saves drops
        have gone : key ∈ before.states.support → key ∉ after.states.support → ¬ spared key :=
          fun was isGone => isDrop key (Shared.drops_of_gone answered was isGone)
        have new : key ∉ before.states.support → key ∈ after.states.support → spared key :=
          fun wasNot isNow => (Shared.saved_of_new answered wasNot isNow).elim (isSave key)
        simp only [Finset.mem_union, Finset.mem_sdiff]
        grind
      have apart : Disjoint (first.states.support \ before.states.support)
          (before.states.support \ after.states.support) :=
        Finset.disjoint_left.2 fun key left right =>
          (Finset.mem_sdiff.1 left).2 (Finset.mem_sdiff.1 right).1
      rw [List.map_cons, List.sum_cons, ih saves drops succeeds, parts,
        Finset.card_union_of_disjoint apart, Shared.removed_eq_card answered isFine, Nat.add_comm]

end Collection

end Shared.Evolves

end AdMonitor
