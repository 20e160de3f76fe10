import AdMonitor.Proofs.Interleaving.Scope
import AdMonitor.Proofs.Visit.Announcement

/-!
# Actions are counted

Every firing is counted in the stored state before it is announced, and what is
announced is done: whoever announces a firing runs its actions next, and nobody
acts otherwise (`System.run_counts_actions`).
-/

namespace AdMonitor

/-- A call to the store that fails leaves the states as they were, but for a removal. -/
theorem Shared.states_of_fails {outside : Outside} {shared after : Shared outside}
    {reaction : Reaction outside} {key : StateKey} {exchange : Exchange}
    (fails : exchange.Fails key)
    (answered : shared.answer reaction exchange.call = some (exchange.answer, after)) :
    after.states = shared.states := by
  obtain ⟨call, answer⟩ := exchange
  cases call with
  | states query =>
      cases query with
      | get | put =>
          rcases Shared.answer_states answered with ⟨-, rfl⟩ | ⟨isOk, -⟩
          · rfl
          · cases isOk
            cases fails
      | _ => cases fails
  | _ => cases fails

theorem Scene.Step.states_of_fails {outside : Outside} {settings : Settings} {regime : Regime}
    {before after : Scene outside} (step : Scene.Step settings regime before after)
    {actor : Actor} {exchange : Exchange}
    (log : after.log = ⟨actor, exchange⟩ :: before.log) {key : StateKey}
    (fails : exchange.Fails key) : after.shared.states = before.shared.states := by
  cases step with
  | visit index visit reaction exchange' stage shared isSet isServed isTarget sameSlot step
      answered =>
      cases log
      exact Shared.states_of_fails fails answered
  | upkeep actor' reaction exchange' shared isOther spares answered =>
      cases log
      exact Shared.states_of_fails fails answered
  | edit agents => rfl

/-- Whoever visits does so for an agent that the regime serves. -/
theorem Scene.Reachable.serves {outside : Outside} {settings : Settings} {regime : Regime}
    {first scene : Scene outside} (reached : Reachable settings regime first scene)
    (isFirst : first.log = []) {index : Nat} {visit : Visit} {exchange : Exchange}
    (logged : ⟨.visit index visit, exchange⟩ ∈ scene.log) : regime.serves visit.agent := by
  induction reached with
  | start =>
      rw [isFirst] at logged
      cases logged
  | step reached step ih =>
      cases step with
      | visit own other reaction exchange' stage shared isSet isServed isTarget sameSlot step
          answered =>
          rcases List.mem_cons.1 logged with isNew | older
          · cases isNew
            exact isServed
          · exact ih older
      | upkeep actor reaction exchange' shared isOther spares answered =>
          rcases List.mem_cons.1 logged with isNew | older
          · cases isNew
            exact absurd rfl (isOther index visit)
          · exact ih older
      | edit agents => exact ih logged

/-- In a tick the firings for a key are announced by its visits. -/
theorem Entry.Belongs.visit_of_start {settings : Settings} {slot : Slot} {index : Nat}
    {history : History} {entry : Entry} (belongs : entry.Belongs settings slot index history)
    {key : StateKey} (isStart : entry.exchange.starts key = true) :
    ∃ visit, entry.actor = .visit index visit ∧ visit.key = key := by
  cases belongs with
  | tick exchange before after step isTold =>
      obtain ⟨tick, count, rfl⟩ := Exchange.starts_iff.1 isStart
      cases step with
      | note view exchange isNote => cases isNote
  | opening agent isTold exchange isOpening =>
      obtain ⟨tick, count, rfl⟩ := Exchange.starts_iff.1 isStart
      cases isOpening
  | closing agent isTold exchange isClosing =>
      obtain ⟨tick, count, rfl⟩ := Exchange.starts_iff.1 isStart
      cases isClosing
  | visit agent isTold target isTarget exchange before after step =>
      refine ⟨_, rfl, ?_⟩
      by_contra differs
      have unstarted := (step.elsewhere (Ne.symm differs)).2
      rw [isStart] at unstarted
      cases unstarted

namespace System

variable {outside : Outside} {settings : Settings} {system : System outside}

/-- What a visit has done that has acted is to announce one firing and to run its actions. -/
theorem Traced.acts [UrlParser] (traced : system.Traced settings) {index : Nat} {visit : Visit}
    {exchange : Exchange} (logged : ⟨.visit index visit, exchange⟩ ∈ system.log)
    (isAction : exchange.call.IsAction) :
    visit.settings = settings ∧ visit.Acts (History.ofVisit ⟨index, visit.key⟩ system.log) := by
  obtain ⟨run, -, -, serves⟩ := traced.serves logged
  obtain ⟨job, isTraced⟩ := serves.traced
  have leads := isTraced.leads
  rw [History.ofJob_visit] at leads
  exact ⟨serves.settings,
    Visit.acts_of_action leads (History.mem_ofVisit.2 ⟨visit, logged, rfl⟩) isAction⟩

theorem Traced.announces_once [UrlParser] (traced : system.Traced settings) (index : Nat)
    (key : StateKey) :
    (History.ofVisit ⟨index, key⟩ system.log).countP (Exchange.starts key) ≤ 1 := by
  by_cases acted : HasActed (History.ofVisit ⟨index, key⟩ system.log)
  · obtain ⟨exchange, found, isAction⟩ := acted
    obtain ⟨visit, logged, rfl⟩ := History.mem_ofVisit.1 found
    exact Nat.le_of_eq (traced.acts logged isAction).2.announces_once
  · have unstarted :
        (History.ofVisit ⟨index, key⟩ system.log).countP (Exchange.starts key) = 0 := by
      refine List.countP_eq_zero.2 fun exchange found isStart => acted ⟨exchange, found, ?_⟩
      obtain ⟨tick, count, rfl⟩ := Exchange.starts_iff.1 isStart
      trivial
    rw [unstarted]
    exact Nat.zero_le 1

end System

/-- Whether the firings for a key are announced by visits each of which runs the actions of one
firing from then on, and nobody acts otherwise. -/
structure History.Executes (settings : Settings) (serves : Agent → Prop) (key : StateKey)
    (history : History) : Prop where
  announced : ∀ entry ∈ history, entry.exchange.starts key = true →
    ∃ index visit, entry.actor = .visit index visit ∧ visit.key = key
  effected : ∀ entry ∈ history, entry.exchange.call.IsEffect →
    ∃ index visit, entry.actor = .visit index visit
  acts : ∀ index visit exchange, ⟨.visit index visit, exchange⟩ ∈ history → visit.key = key →
    exchange.call.IsAction → visit.settings = settings ∧ serves visit.agent ∧
      visit.Acts (ofVisit ⟨index, key⟩ history)
  once : ∀ index, (ofVisit ⟨index, key⟩ history).countP (Exchange.starts key) ≤ 1
  follows : ∀ index exchange past, exchange :: past <:+ ofVisit ⟨index, key⟩ history →
    exchange.call.IsAction →
    HasSaved key past ∧ ∃ start ∈ exchange :: past, start.starts key = true

/-- While only ticks are under way, what they announce is executed. -/
theorem System.run_executes [UrlParser] {outside : Outside} (settings : Settings)
    (agents : List Agent) (states : StateStore) (world : outside.World)
    (turns : List (Turn outside)) (key : StateKey) :
    let stored := AgentStore.ofAgents agents
    let system := (System.start stored states world).run settings turns
    History.Executes settings stored.Knows key system.log := by
  intro stored system
  have keyed := AgentStore.ofAgents_keyed agents
  have lawful : (Regime.fixed stored keyed).lawful stored := fun _ => rfl
  obtain ⟨stages, -, reached⟩ := System.run_reachable settings lawful states world turns
  have first : (start stored states world).Traced settings := start_traced keyed
  have traced : system.Traced settings := first.run turns
  have handles : system.Handles settings [] := start_handles.run first turns
  have belongs : ∀ entry ∈ system.log,
      ∃ slot index, entry.Belongs settings slot index system.log := by
    intro entry logged
    rcases origin traced handles logged with ⟨index, run, -, belongs⟩ | ⟨index, request, -, none, -⟩
    · exact ⟨run.slot, index, belongs⟩
    · cases none
  refine ⟨fun entry logged isStart => ?_, fun entry logged isEffect => ?_, ?_,
    fun index => traced.announces_once index key, fun index exchange past isPast isAction => ?_⟩
  · obtain ⟨slot, index, belongs⟩ := belongs entry logged
    exact ⟨index, belongs.visit_of_start isStart⟩
  · obtain ⟨slot, index, belongs⟩ := belongs entry logged
    exact ⟨index, belongs.visit_of_effect isEffect⟩
  · rintro index visit exchange logged rfl isAction
    obtain ⟨isSet, acts⟩ := traced.acts logged isAction
    exact ⟨isSet, reached.serves rfl logged, acts⟩
  · have run := reached.runs ⟨index, key⟩
    exact ⟨run.saved_of_action isPast isAction, run.starts_of_action isPast isAction⟩

/--
While only ticks are under way, and until a target has fired as often as can be
counted, its actions were started as often as is stored, or once less while a
visit that has the lock of the target has saved the firing and not acted yet.
To start the actions is to announce the firing: each visit that has announced
one runs its actions from then on, and nobody acts otherwise.  A visit for which
the store failed neither saves nor acts, and the states stay as they were.
-/
theorem System.run_counts_actions [UrlParser] {outside : Outside} (settings : Settings)
    (agents : List Agent) (world : outside.World) (turns : List (Turn outside)) (key : StateKey) :
    let stored := AgentStore.ofAgents agents
    let system := (System.start stored .empty world).run settings turns
    let counted := firingCount (Table.get? system.shared.states key)
    let started := History.starts key system.log
    let done := fun index => History.ofVisit ⟨index, key⟩ system.log
    (counted < maxFiringCount →
        started ≤ counted ∧ counted ≤ started + 1 ∧
          (started < counted → ∃ index lock,
            system.shared.locks.lookup (.target key) = some lock ∧
              HasTaken (done index) lock ∧ ¬ HasReleased (done index) ∧
              HasSaved key (done index) ∧ ¬ HasActed (done index))) ∧
      History.Executes settings stored.Knows key system.log ∧
      (∀ index, HasFailed key (done index) →
        ¬ HasSaved key (done index) ∧ ¬ HasActed (done index)) ∧
      ∀ turn actor exchange,
        (system.take settings turn).log = ⟨actor, exchange⟩ :: system.log →
        exchange.Fails key → (system.take settings turn).shared.states = system.shared.states := by
  intro stored system counted started done
  let regime := Regime.fixed stored (AgentStore.ofAgents_keyed agents)
  have lawful : regime.lawful stored := fun _ => rfl
  obtain ⟨stages, sound, reached⟩ := System.run_reachable settings lawful .empty world turns
  have runs := reached.runs
  refine ⟨fun below => ?_, System.run_executes settings agents .empty world turns key,
    fun index failed => ?_, fun turn actor exchange log fails => ?_⟩
  · by_cases isSpared : regime.spared key
    · have isStored := reached.recorded.stored key isSpared
      have nothing : firingCount (Table.get? (Table.empty : StateStore) key) = 0 := rfl
      have cases := (reached.balanced isSpared).counted_cases isStored below
      rw [nothing, Nat.zero_add] at cases
      rcases cases with same | ⟨owing, same⟩
      · change counted = started at same
        refine ⟨Nat.le_of_eq same.symm, Nat.le_succ_of_le (Nat.le_of_eq same), fun less => ?_⟩
        exact absurd same (Nat.ne_of_gt less)
      · change counted = started + 1 at same
        refine ⟨Nat.le_of_lt (Nat.lt_of_succ_le (Nat.le_of_eq same.symm)), Nat.le_of_eq same, ?_⟩
        exact fun _ => reached.recorded.orderly.owing_holds isSpared runs owing
    · obtain ⟨omits, absent⟩ := reached.unseen Regime.fixed_covers isSpared
      have noneStarted : started = 0 := omits.starts_eq_zero
      have noneCounted : counted = 0 := congrArg firingCount (absent rfl)
      rw [noneStarted, noneCounted]
      exact ⟨Nat.zero_le _, Nat.zero_le _, fun less => absurd less (Nat.lt_irrefl 0)⟩
  · exact (runs ⟨index, key⟩).recalls.quiet_of_failed failed
  · obtain ⟨next, -, moves⟩ := sound.take turn
    rcases moves with same | step
    · have sameLog : (system.take settings turn).log = system.log := congrArg Scene.log same
      rw [sameLog] at log
      exact absurd log (List.cons_ne_self _ _).symm
    · exact step.states_of_fails log fails

end AdMonitor
