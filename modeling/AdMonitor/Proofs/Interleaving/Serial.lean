import AdMonitor.Proofs.Interleaving.Bookkeeping
import AdMonitor.Proofs.Interleaving.Soundness

/-!
# One save after the other

Whatever the order of the calls, the states that are saved for a key form one
chain: each is one step of a visit from the one before it, and for a later tick.
-/

namespace AdMonitor

namespace TargetState

theorem isStale_iff {state : TargetState} {tick : TickNumber} :
    state.isStale tick = true ↔ ∃ last, state.lastTick = some last ∧ tick ≤ last := by
  unfold isStale
  cases state.lastTick <;> simp

def IsAfter (later earlier : TargetState) : Prop :=
  ∃ tick, later.lastTick = some tick ∧ ∀ last, earlier.lastTick = some last → last < tick

theorem isAfter_of_not_stale {later earlier : TargetState} {tick : TickNumber}
    (isLast : later.lastTick = some tick) (isNew : earlier.isStale tick = false) :
    later.IsAfter earlier := by
  refine ⟨tick, isLast, fun last found => Nat.lt_of_not_le fun stale => ?_⟩
  rw [isStale_iff.2 ⟨last, found, stale⟩] at isNew
  cases isNew

theorem IsAfter.trans {later middle earlier : TargetState} (first : later.IsAfter middle)
    (second : middle.IsAfter earlier) : later.IsAfter earlier := by
  obtain ⟨tick, isLast, above⟩ := first
  obtain ⟨between, isBetween, above'⟩ := second
  refine ⟨tick, isLast, fun last found => ?_⟩
  exact Nat.lt_trans (above' last found) (above between isBetween)

/-- A tick that is stale stays so. -/
theorem IsAfter.isStale {later earlier : TargetState} (isAfter : later.IsAfter earlier)
    {tick : TickNumber} (stale : earlier.isStale tick = true) : later.isStale tick = true := by
  obtain ⟨last, isLast, above⟩ := isAfter
  obtain ⟨previous, isPrevious, below⟩ := isStale_iff.1 stale
  exact isStale_iff.2 ⟨last, isLast, Nat.le_of_lt (Nat.lt_of_le_of_lt below (above _ isPrevious))⟩

end TargetState

namespace Visit

/-- Whether one verdict counted and one decision of the trigger lead a visit from a state to
another. -/
def Advances (visit : Visit) (before after : TargetState) : Prop :=
  ∃ snapshot progress satisfied,
    visit.tracker.step before.progress (visit.agent.condition.evaluate snapshot) =
        some (progress, satisfied) ∧
      after.progress = progress ∧
      after.firings = (visit.agent.trigger.step before.firings satisfied visit.slot.now).1 ∧
      after.lastTick = some visit.slot.tick ∧ after.updatedAt = visit.slot.now

theorem advances_of_step {visit : Visit} {state : TargetState} {snapshot : Snapshot}
    {taken : Step} (isStep : visit.step state snapshot = some taken) :
    visit.Advances state taken.state := by
  obtain ⟨progress, satisfied, counted, rfl⟩ := step_eq_some.1 isStep
  exact ⟨snapshot, progress, satisfied, counted, rfl, rfl, rfl, rfl⟩

theorem Advances.lastTick_eq {visit : Visit} {before after : TargetState}
    (advances : visit.Advances before after) : after.lastTick = some visit.slot.tick := by
  obtain ⟨snapshot, progress, satisfied, -, -, -, isLast, -⟩ := advances
  exact isLast

end Visit

/-- Whether an entry is of a visit that goes one step from a state to another, for a new tick. -/
def Entry.Advances (settings : Settings) (serves : Agent → Prop) (stored : Option TargetState)
    (key : StateKey) (entry : Entry) (state : TargetState) : Prop :=
  ∃ index visit, entry.actor = .visit index visit ∧ visit.key = key ∧
    visit.settings = settings ∧ serves visit.agent ∧
    (stored.getD visit.freshState).isStale visit.slot.tick = false ∧
    visit.Advances (stored.getD visit.freshState) state

/-- What histories have in common in which visits take turns under a key. -/
structure History.IsSerial (settings : Settings) (serves : Agent → Prop) (start : StateStore)
    (key : StateKey) (history : History) : Prop where
  /-- Whoever tries to save a state has made it from the one that was last saved. -/
  advances : ∀ entry past state, entry :: past <:+ history →
    entry.exchange.call = .states (.put key state) →
    entry.Advances settings serves (History.lastSaved start key past) key state
  /-- Whoever acts has saved a state before. -/
  saves_first : ∀ index visit exchange past, ⟨.visit index visit, exchange⟩ :: past <:+ history →
    exchange.call.IsAction → HasSaved visit.key (History.ofVisit ⟨index, visit.key⟩ past)
  /-- The visits of a tick are for one slot. -/
  same_slot : ∀ index visit exchange other exchange', ⟨.visit index visit, exchange⟩ ∈ history →
    ⟨.visit index other, exchange'⟩ ∈ history → other.slot = visit.slot

namespace History

variable {settings : Settings} {serves : Agent → Prop} {start : StateStore} {key : StateKey}
  {history past : History}

theorem isSerial_nil : IsSerial settings serves start key [] where
  advances _ _ _ isSuffix := by cases List.suffix_nil.1 isSuffix
  saves_first _ _ _ _ isSuffix := by cases List.suffix_nil.1 isSuffix
  same_slot _ _ _ _ _ := nofun

theorem IsSerial.of_suffix (serial : IsSerial settings serves start key history)
    (isSuffix : past <:+ history) : IsSerial settings serves start key past where
  advances entry before state found :=
    serial.advances entry before state (found.trans isSuffix)
  saves_first index visit exchange before found :=
    serial.saves_first index visit exchange before (found.trans isSuffix)
  same_slot index visit exchange other exchange' found found' :=
    serial.same_slot index visit exchange other exchange' (isSuffix.subset found)
      (isSuffix.subset found')

/-- A history stays serial by an entry that keeps to its rules. -/
theorem IsSerial.cons (serial : IsSerial settings serves start key history) {entry : Entry}
    (advances : ∀ state, entry.exchange.call = .states (.put key state) →
      entry.Advances settings serves (lastSaved start key history) key state)
    (saves_first : ∀ index visit, entry.actor = .visit index visit →
      entry.exchange.call.IsAction → HasSaved visit.key (ofVisit ⟨index, visit.key⟩ history))
    (same_slot : ∀ index visit, entry.actor = .visit index visit → ∀ other exchange,
      ⟨.visit index other, exchange⟩ ∈ history → other.slot = visit.slot) :
    IsSerial settings serves start key (entry :: history) := by
  refine ⟨?_, ?_, ?_⟩
  · intro saving past state isSuffix isPut
    rcases List.suffix_cons_iff.1 isSuffix with same | older
    · cases same
      exact advances state isPut
    · exact serial.advances saving past state older isPut
  · intro index visit exchange past isSuffix isAction
    rcases List.suffix_cons_iff.1 isSuffix with same | older
    · cases same
      exact saves_first index visit rfl isAction
    · exact serial.saves_first index visit exchange past older isAction
  · intro index visit exchange other exchange' found found'
    rcases List.mem_cons.1 found with same | older <;>
      rcases List.mem_cons.1 found' with same' | older'
    · rw [← same] at same'
      cases same'
      rfl
    · subst same
      exact same_slot index visit rfl other exchange' older'
    · subst same'
      exact (same_slot index other rfl visit exchange older).symm
    · exact serial.same_slot index visit exchange other exchange' older older'

theorem lastSaved_eq_head? : lastSaved start key history =
    (saves key history ++ (Table.get? start key).toList).head? := by
  rw [lastSaved, List.head?_append]
  cases Table.get? start key <;> rfl

/-- The states saved for a key are for later and later ticks. -/
theorem IsSerial.pairwise_isAfter (serial : IsSerial settings serves start key history) :
    (saves key history ++ (Table.get? start key).toList).Pairwise TargetState.IsAfter := by
  induction history with
  | nil => cases Table.get? start key <;> simp [saves]
  | cons entry past ih =>
      have earlier := ih (serial.of_suffix (List.suffix_cons entry past))
      cases saved : entry.exchange.saved? key with
      | none =>
          rw [saves_cons_none saved]
          exact earlier
      | some state =>
          rw [saves_cons_some saved, List.cons_append, List.pairwise_cons]
          refine ⟨fun other found => ?_, earlier⟩
          rw [Exchange.saved?_eq_some] at saved
          obtain ⟨index, visit, -, -, -, -, isNew, advances⟩ :=
            serial.advances entry past state (List.suffix_refl _) (congrArg Exchange.call saved)
          rw [lastSaved_eq_head?] at isNew
          cases chain : saves key past ++ (Table.get? start key).toList with
          | nil =>
              rw [chain] at found
              cases found
          | cons head rest =>
              rw [chain] at earlier found isNew
              have isAfter := TargetState.isAfter_of_not_stale advances.lastTick_eq isNew
              rcases List.mem_cons.1 found with rfl | older
              · exact isAfter
              · exact isAfter.trans (List.rel_of_pairwise_cons earlier older)

/-- A state that makes a tick stale is followed only by states that do. -/
theorem IsSerial.stale_lastSaved {middle : History}
    (serial : IsSerial settings serves start key (middle ++ past)) {state : TargetState}
    (found : lastSaved start key past = some state) {tick : TickNumber}
    (stale : state.isStale tick = true) :
    ∃ later, lastSaved start key (middle ++ past) = some later ∧ later.isStale tick = true := by
  have chain := serial.pairwise_isAfter
  rw [lastSaved_eq_head?] at found ⊢
  rw [saves, List.filterMap_append, ← saves, ← saves, List.append_assoc] at chain ⊢
  cases between : saves key middle with
  | nil => exact ⟨state, found, stale⟩
  | cons later rest =>
      rw [between] at chain
      have isAfter := (List.pairwise_append.1 chain).2.2 later List.mem_cons_self state
        (List.mem_of_head? found)
      exact ⟨later, rfl, isAfter.isStale stale⟩

theorem IsSerial.not_put_of_stale {middle : History} {index : Nat} {visit : Visit}
    {exchange : Exchange} (serial : IsSerial settings serves start visit.key history)
    (isSuffix : ⟨.visit index visit, exchange⟩ :: (middle ++ past) <:+ history)
    {state : TargetState} (found : lastSaved start visit.key past = some state)
    (stale : state.isStale visit.slot.tick = true) (next : TargetState) :
    exchange.call ≠ .states (.put visit.key next) := by
  intro isPut
  obtain ⟨_, _, ⟨⟩, -, -, -, isNew, -⟩ := serial.advances _ _ next isSuffix isPut
  have before := serial.of_suffix ((List.suffix_cons _ _).trans isSuffix)
  obtain ⟨later, isLater, isStale⟩ := before.stale_lastSaved found stale
  rw [isLater, Option.getD_some, isStale] at isNew
  cases isNew

/-- A tick that is not newer than a stored state neither saves one nor acts from then on. -/
theorem IsSerial.idle_of_stale {later : History} {index : Nat} {visit : Visit}
    {exchange : Exchange} (serial : IsSerial settings serves start visit.key history)
    (split : later ++ past = history) (member : ⟨.visit index visit, exchange⟩ ∈ later)
    {state : TargetState} (found : lastSaved start visit.key past = some state)
    (unsaved : ¬ HasSaved visit.key (ofVisit ⟨index, visit.key⟩ past))
    (stale : state.isStale visit.slot.tick = true) :
    (∀ next, exchange.call ≠ .states (.put visit.key next)) ∧ ¬ exchange.call.IsAction := by
  subst split
  obtain ⟨newer, middle, rfl⟩ := List.append_of_mem member
  have isSuffix : ⟨.visit index visit, exchange⟩ :: (middle ++ past) <:+
      newer ++ ⟨.visit index visit, exchange⟩ :: middle ++ past := by
    rw [List.append_assoc]
    exact List.suffix_append ..
  refine ⟨serial.not_put_of_stale isSuffix found stale, fun isAction => ?_⟩
  obtain ⟨saving, done, saves⟩ := serial.saves_first index visit exchange _ isSuffix isAction
  rw [ofVisit_append, List.mem_append] at done
  rcases done with between | before
  · obtain ⟨own, isOwn, sameKey⟩ := mem_ofVisit.1 between
    obtain ⟨newer', middle', rfl⟩ := List.append_of_mem isOwn
    have isSuffix' : ⟨.visit index own, saving⟩ :: (middle' ++ past) <:+
        newer ++ ⟨.visit index visit, exchange⟩ ::
          (newer' ++ ⟨.visit index own, saving⟩ :: middle') ++ past := by
      refine ⟨newer ++ ⟨.visit index visit, exchange⟩ :: newer', ?_⟩
      simp only [List.append_assoc, List.cons_append]
    have sameSlot : own.slot = visit.slot :=
      serial.same_slot index visit exchange own saving (isSuffix.subset List.mem_cons_self)
        (isSuffix'.subset List.mem_cons_self)
    rw [← sameSlot] at stale
    replace sameKey : own.key = visit.key := sameKey
    rw [← sameKey] at found saves serial
    obtain ⟨next, rfl⟩ := Exchange.saves_iff.1 saves
    exact serial.not_put_of_stale isSuffix' found stale next rfl
  · exact unsaved ⟨saving, before, saves⟩

end History

namespace Scene

variable {outside : Outside} {settings : Settings} {regime : Regime} {start : StateStore}
  {before after : Scene outside}

theorem Step.serial {key : StateKey} (isSpared : regime.spared key)
    (step : Step settings regime before after) (recorded : before.Recorded regime start)
    (runs : ∀ id, VisitRun id.key (History.ofVisit id before.log) (before.stages id))
    (serial : before.log.IsSerial settings regime.serves start key) :
    after.log.IsSerial settings regime.serves start key := by
  cases step with
  | visit index visit reaction exchange stage shared isSet isServed isTarget sameSlot step
      answered =>
      refine serial.cons (fun state isPut => ?_) ?_ ?_
      · obtain ⟨rfl, lock, stored, snapshot, found, isNew, taken, isStep, rfl⟩ :=
          step.put_cases isPut
        rw [recorded.loaded ⟨index, visit.key⟩ lock stored isSpared found]
        exact ⟨index, visit, rfl, rfl, isSet, isServed, isNew, Visit.advances_of_step isStep⟩
      · rintro _ _ ⟨⟩ isAction
        have recalls := (runs ⟨index, visit.key⟩).recalls
        rcases step.action_cases isAction with ⟨lock, found⟩ | ⟨lock, use, found⟩
        · rw [found] at recalls
          exact recalls.1
        · rw [found] at recalls
          exact recalls.1
      · rintro _ _ ⟨⟩
        exact sameSlot
  | upkeep actor reaction exchange shared isOther spares answered =>
      refine serial.cons (fun state isPut => ?_) ?_ ?_
      · rw [show exchange.call = _ from isPut] at spares
        cases spares
      · exact fun index visit same => absurd same (isOther index visit)
      · exact fun index visit same => absurd same (isOther index visit)
  | edit agents => exact serial

theorem Reachable.serial {scene : Scene outside} {agents : AgentStore} {world : outside.World}
    (reached : Reachable settings regime (Scene.start agents start world) scene) {key : StateKey}
    (isSpared : regime.spared key) :
    scene.log.IsSerial settings regime.serves start key := by
  induction reached with
  | start => exact History.isSerial_nil
  | step reached step ih => exact step.serial isSpared reached.recorded reached.runs ih

end Scene

/--
While only ticks are under way, the states saved for a key are for later and
later ticks; each is one step of a visit from the state that was saved before
it; the store holds the last of them; and a tick that is not newer than a saved
state neither saves one nor acts, unless it had saved one before.
-/
theorem System.run_saves_serially [UrlParser] (settings : Settings) (agents : List Agent)
    (states : StateStore) (world : outside.World) (turns : List (Turn outside))
    (key : StateKey) :
    let stored := AgentStore.ofAgents agents
    let system := (System.start stored states world).run settings turns
    (History.saves key system.log ++ (Table.get? states key).toList).Pairwise
        TargetState.IsAfter ∧
      (∀ entry past state, entry :: past <:+ system.log →
        entry.exchange = ⟨.states (.put key state), .ok ()⟩ →
        entry.Advances settings stored.Knows (History.lastSaved states key past) key state) ∧
      (stored.HasTarget key ∨ Table.get? states key = none →
        Table.get? system.shared.states key = History.lastSaved states key system.log) ∧
      ∀ later past index visit exchange state, later ++ past = system.log →
        History.lastSaved states key past = some state →
        ¬ HasSaved key (History.ofVisit ⟨index, key⟩ past) →
        ⟨.visit index visit, exchange⟩ ∈ later → visit.key = key →
        state.isStale visit.slot.tick = true →
        (∀ next, exchange.call ≠ .states (.put key next)) ∧ ¬ exchange.call.IsAction := by
  intro stored system
  let regime := Regime.fixed stored (AgentStore.ofAgents_keyed agents)
  have lawful : regime.lawful stored := fun _ => rfl
  obtain ⟨stages, -, reached⟩ := System.run_reachable settings lawful states world turns
  by_cases isSpared : regime.spared key
  · have serial := reached.serial isSpared
    refine ⟨serial.pairwise_isAfter, ?_, fun _ => reached.recorded.stored key isSpared, ?_⟩
    · intro entry past state isSuffix saves
      exact serial.advances entry past state isSuffix (congrArg Exchange.call saves)
    · rintro later past index visit exchange state split found unsaved member rfl stale
      exact serial.idle_of_stale split member found unsaved stale
  · obtain ⟨omits, absent⟩ := reached.unseen Regime.fixed_covers isSpared
    have unsaved : History.saves key system.log = [] := omits.saves_eq_nil
    refine ⟨?_, ?_, fun fresh => ?_, ?_⟩
    · rw [unsaved]
      cases Table.get? states key <;> simp
    · intro entry past state isSuffix saves
      have unsaved := (omits entry (isSuffix.subset List.mem_cons_self)).1
      rw [Exchange.saved?_eq_some.2 saves] at unsaved
      cases unsaved
    · have isNew := fresh.resolve_left isSpared
      refine (absent isNew).trans ?_
      rw [History.lastSaved, unsaved, isNew]
      rfl
    · intro later past index visit exchange state split found unsaved member isOwn stale
      have logged := split ▸ List.mem_append_left past member
      exact absurd isOwn ((omits _ logged).2.2 index visit rfl)

end AdMonitor
