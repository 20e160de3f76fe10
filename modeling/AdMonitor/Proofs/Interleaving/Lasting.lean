import AdMonitor.Proofs.Interleaving.Exclusion
import AdMonitor.Proofs.Interleaving.Persistence
import AdMonitor.Proofs.Interleaving.Serial

/-!
# Targets that stay

Ticks collect by what they were told of the agents when they began, so an agent
that gains a target may lose the state of it to a tick that is still under way.
A target that an agent has had all the time is safe, whatever is registered,
edited or deleted besides.
-/

namespace AdMonitor

def Regime.lasting (key : StateKey) : Regime where
  lawful store := store.IsKeyed ∧ store.HasTarget key
  serves agent := agent.id = key.agent → key.target ∈ agent.scope.targetKeys
  spared own := own = key
  serves_of_stored := by
    rintro store id agent ⟨keyed, owner, isOwner, isTarget⟩ found
    refine ⟨keyed id agent found, fun isOwn => ?_⟩
    rw [← isOwn, keyed id agent found, found] at isOwner
    cases isOwner
    exact isTarget
  keeps_spared := by
    rintro agent _ serves rfl isOwn
    exact serves isOwn.symm
  stored_of_spared := by
    rintro store _ ⟨-, owner, isOwner, -⟩ rfl
    exact ⟨owner, isOwner⟩
  lawful_mark lawful marked := ⟨lawful.1.mark marked, lawful.2.mark marked⟩

variable {outside : Outside} {key : StateKey}

def Deed.Leaves (key : StateKey) : Deed outside → Prop
  | .submit (.delete id) => id ≠ key.agent
  | .update agent _ => agent.id = key.agent → key.target ∈ agent.scope.targetKeys
  | _ => True

theorem Regime.lasting_admits {deed : Deed outside} (leaves : deed.Leaves key) :
    (Regime.lasting key).Admits deed := by
  cases deed with
  | turn turn | serve index reaction => trivial
  | update agent now =>
      exact fun store after lawful updated =>
        ⟨lawful.1.update updated, lawful.2.update updated leaves⟩
  | submit request =>
      intro call makes
      cases request with
      | register agent =>
          refine Request.register_allowed (fun store after lawful created => ?_) makes
          exact ⟨lawful.1.create created, lawful.2.create created⟩
      | delete id =>
          refine Request.delete_allowed (fun store lawful => ?_) ?_ makes
          · exact ⟨lawful.1.erase id, lawful.2.erase leaves⟩
          · rintro _ rfl
            exact leaves.symm
      | explain id => exact Request.explain_allowed makes

/--
As long as an agent has a target, whatever is done besides and also while ticks
are under way: the state of the target is not collected, for the store holds
the last one that was saved; the saved states are for later and later ticks,
each one step from the one before; no two visits are inside at a time; and
every firing is counted before its actions are started.
-/
theorem System.performAll_lasting [UrlParser] (settings : Settings) {agents : List Agent}
    (hasTarget : (AgentStore.ofAgents agents).HasTarget key) (states : StateStore)
    (world : outside.World) {deeds : List (Deed outside)}
    (leaves : ∀ deed ∈ deeds, deed.Leaves key) :
    let system := (System.start (.ofAgents agents) states world).performAll settings deeds
    let counted := firingCount (Table.get? system.shared.states key)
    let started := firingCount (Table.get? states key) + History.starts key system.log
    Table.get? system.shared.states key = History.lastSaved states key system.log ∧
      (History.saves key system.log ++ (Table.get? states key).toList).Pairwise
        TargetState.IsAfter ∧
      (∀ entry past state, entry :: past <:+ system.log →
        entry.exchange = ⟨.states (.put key state), .ok ()⟩ →
        entry.Advances settings (Regime.lasting key).serves
          (History.lastSaved states key past) key state) ∧
      (∀ first second lock lock',
        IsInside key (History.ofVisit ⟨first, key⟩ system.log) lock →
        IsInside key (History.ofVisit ⟨second, key⟩ system.log) lock' → first = second) ∧
      (counted < maxFiringCount → started ≤ counted ∧ counted ≤ started + 1) := by
  intro system counted started
  have lawful : (Regime.lasting key).lawful (.ofAgents agents) :=
    ⟨AgentStore.ofAgents_keyed agents, hasTarget⟩
  obtain ⟨stages, -, reached⟩ := System.performAll_reachable settings lawful states world deeds
    fun deed found => Regime.lasting_admits (leaves deed found)
  have isSpared : (Regime.lasting key).spared key := rfl
  have isStored := reached.recorded.stored key isSpared
  have serial := reached.serial isSpared
  refine ⟨isStored, serial.pairwise_isAfter, ?_, ?_, fun below => ?_⟩
  · intro entry past state isSuffix saves
    exact serial.advances entry past state isSuffix (congrArg Exchange.call saves)
  · intro first second lock lock' isInside isInside'
    have isHeld := (reached.runs ⟨first, key⟩).held_of_isInside isInside
    have isHeld' := (reached.runs ⟨second, key⟩).held_of_isInside isInside'
    exact congrArg VisitId.index (reached.recorded.orderly.eq_of_held isSpared isHeld isHeld')
  · rcases (reached.balanced isSpared).counted_cases isStored below with same | ⟨-, same⟩
    · change counted = started at same
      omega
    · change counted = started + 1 at same
      omega

end AdMonitor
