import AdMonitor.Proofs.Interleaving.Accounting
import AdMonitor.Proofs.Interleaving.Serial
import AdMonitor.Proofs.Tick.Slots
import AdMonitor.Proofs.Visit.Staleness

/-!
# Replays

The ticks of a replay run one after the other, each to its end.  A tick leaves
no state that is newer than itself, and a replay goes through increasing slots,
so when it begins without any states no target is reported as one that was
evaluated already (`System.replay_isConsecutive`).
-/

namespace AdMonitor

variable {outside : Outside} {settings : Settings} {slot : Slot} {index : Nat}
  {history : History} {report : TickReport} {own : TargetReport} {exchanges : List Exchange}
  {shared : Shared outside} {tick later : TickNumber} {now : Instant} {times : List Instant}
  {reports : List TickReport} {turns : List (Turn outside)}

def Shared.IsBefore (tick : TickNumber) (shared : Shared outside) : Prop :=
  ∀ key stored, Table.get? shared.states key = some stored → stored.isStale tick = false

/-- A stored state was stored from the start, or has been saved. -/
theorem Shared.Evolves.stored_cases {admits : Reaction outside → Prop}
    {first after : Shared outside} (evolves : Shared.Evolves admits first history after)
    {key : StateKey} {state : TargetState}
    (isStored : Table.get? after.states key = some state) :
    Table.get? first.states key = some state ∨
      ∃ entry ∈ history, entry.exchange.saved? key = some state := by
  induction evolves with
  | start => exact Or.inl isStored
  | @step log before after entry reaction evolves isAdmitted answered ih =>
      have fromBefore : Table.get? before.states key = some state →
          Table.get? first.states key = some state ∨
            ∃ other ∈ entry :: log, other.exchange.saved? key = some state := by
        intro wasStored
        rcases ih wasStored with isFirst | ⟨other, logged, saved⟩
        · exact Or.inl isFirst
        · exact Or.inr ⟨other, List.mem_cons_of_mem _ logged, saved⟩
      by_cases drops : entry.exchange.Drops key
      · rcases Shared.get?_of_drops answered drops with isNone | ⟨-, -, same⟩
        · rw [isNone] at isStored
          cases isStored
        · exact fromBefore (same ▸ isStored)
      · rw [Shared.get?_of_not_drops answered drops] at isStored
        rcases Option.or_eq_some_iff.1 isStored with saved | ⟨-, wasStored⟩
        · exact Or.inr ⟨entry, List.mem_cons_self, saved⟩
        · exact fromBefore wasStored

/-- What a tick saves is a state of this tick. -/
theorem Entry.Belongs.lastTick_saved {entry : Entry}
    (belongs : entry.Belongs settings slot index history) {key : StateKey} {state : TargetState}
    (saved : entry.exchange.saved? key = some state) : state.lastTick = some slot.tick := by
  obtain ⟨actor, exchange⟩ := entry
  obtain rfl := Exchange.saved?_eq_some.1 saved
  cases belongs with
  | tick exchange before after step =>
      cases step with
      | note view exchange isNote => cases isNote
  | opening agent isTold exchange isOpening => cases isOpening
  | closing agent isTold exchange isClosing => cases isClosing
  | visit agent isTold target isTarget exchange before after step =>
      obtain ⟨-, lock, stored, snapshot, -, -, taken, isStep, rfl⟩ := step.put_cases rfl
      exact (Visit.advances_of_step isStep).lastTick_eq

/-! ## One tick -/

namespace Slot

theorem tick_of_openTick {startedAt : Instant}
    (opened : slot.openTick.Ends exchanges ⟨startedAt, .error report⟩) :
    report.tick = slot.tick := by
  obtain ⟨_, loading, rfl, loads⟩ := Program.ends_ask_iff.1 opened
  obtain ⟨answer, last, rfl, rest⟩ := Program.ends_ask_iff.1 loads
  cases answer with
  | error failure =>
      obtain ⟨finishedAt, none, rfl, returns⟩ := Program.ends_ask_iff.1 rest
      obtain ⟨-, same⟩ := Program.ends_done_iff.1 returns
      cases same
      rfl
  | ok agents =>
      obtain ⟨_, none, rfl, returns⟩ := Program.ends_ask_iff.1 rest
      obtain ⟨-, same⟩ := Program.ends_done_iff.1 returns
      cases same

/-- A report bears the number of its slot. -/
theorem Yields.tick_eq [UrlParser] (yields : slot.Yields settings index history report) :
    report.tick = slot.tick := by
  cases yields with
  | failed startedAt report opened leaves => exact tick_of_openTick opened
  | finished agents pool report later early parts opened worked isDone closed =>
      obtain ⟨collected, exchanges, finishedAt, -, rfl, -⟩ := ends_closeTick closed
      rfl

/-- A report of a target is what a visit has come to. -/
theorem Yields.visited [UrlParser] (yields : slot.Yields settings index history report)
    (isReport : own ∈ report.targets) : ∃ agent target,
      Visit.Traced index history { settings, slot, agent, target } (.done (some own)) := by
  cases yields with
  | failed startedAt report opened leaves =>
      obtain ⟨failure, -, isEmpty, -⟩ := report_of_openTick opened
      rw [isEmpty] at isReport
      cases isReport
  | finished agents pool report later early parts opened worked isDone closed =>
      have completes : slot.Completes settings index history agents pool later early report :=
        ⟨parts, opened, worked, isDone, closed⟩
      obtain ⟨agent, -, targets, target, -, -, traced⟩ :=
        worked.visited isDone (completes.targets_perm.subset isReport)
      exact ⟨agent, target, traced⟩

end Slot

/-- When all states are of earlier ticks, no visit reports that its target was evaluated already. -/
theorem Slot.Yields.unevaluated [UrlParser] {admits : Reaction outside → Prop}
    {after : Shared outside} (yields : slot.Yields settings index history report)
    (evolves : Shared.Evolves admits shared history after) (keyed : shared.agents.IsKeyed)
    (belongs : ∀ entry ∈ history, entry.Belongs settings slot index history)
    (isBefore : shared.IsBefore slot.tick) (isReport : own ∈ report.targets) (tick : TickNumber) :
    own.status ≠ .alreadyEvaluated tick := by
  intro isSkipped
  obtain ⟨agent, target, traced⟩ := yields.visited isReport
  obtain ⟨stored, isLoaded, isStale⟩ := Visit.stale_of_alreadyEvaluated traced.leads isSkipped
  rw [History.ofJob_visit] at isLoaded
  obtain ⟨visit, logged, sameKey⟩ := History.mem_ofVisit.1 isLoaded
  obtain rfl := traced.alone visit _ logged sameKey
  have found := evolves.found keyed belongs yields logged
  rw [isBefore _ stored found.symm] at isStale
  cases isStale

namespace System

variable [UrlParser] (keyed : shared.agents.IsKeyed) (alone : ∀ turn ∈ turns, turn.begins = false)
  (isOver : ((solo settings shared now).run settings turns).ticks[0]?.bind TickRun.report? =
    some report)
  (isBefore : shared.IsBefore (settings.slot now).tick)

include keyed alone isOver isBefore

theorem solo_unevaluated (isReport : own ∈ report.targets) (tick : TickNumber) :
    own.status ≠ .alreadyEvaluated tick :=
  (solo_yields keyed alone isOver).unevaluated (solo_evolves now turns) keyed
    (solo_belongs keyed alone isOver) isBefore isReport tick

/-- A tick leaves no state that is newer than itself. -/
theorem solo_isBefore (isLater : (settings.slot now).tick < later) :
    ((solo settings shared now).run settings turns).shared.IsBefore later := by
  intro key state isStored
  refine Bool.eq_false_iff.2 fun isStale => ?_
  obtain ⟨last, isLast, isNew⟩ := TargetState.isStale_iff.1 isStale
  rcases (solo_evolves now turns).stored_cases isStored with wasStored | ⟨entry, logged, saved⟩
  · have isOld := isBefore key state wasStored
    have isReached := Nat.le_trans (Nat.le_of_lt isLater) isNew
    rw [TargetState.isStale_iff.2 ⟨last, isLast, isReached⟩] at isOld
    cases isOld
  · have isOwn := (solo_belongs keyed alone isOver entry logged).lastTick_saved saved
    rw [isLast] at isOwn
    cases isOwn
    exact Nat.not_lt_of_le isNew isLater

end System

/-! ## Ticks after each other -/

namespace System

/-- What ticks at some times have reported so far that run one after the other, each to its end. -/
inductive Replays [UrlParser] (settings : Settings) :
    Shared outside → List Instant → List TickReport → Prop where
  | pause (shared : Shared outside) (times : List Instant) : Replays settings shared times []
  | tick {shared : Shared outside} {now : Instant} {times : List Instant} {report : TickReport}
      {reports : List TickReport} (turns : List (Turn outside))
      (alone : ∀ turn ∈ turns, turn.begins = false)
      (isOver : ((solo settings shared now).run settings turns).ticks[0]?.bind TickRun.report? =
        some report)
      (goesOn : Replays settings ((solo settings shared now).run settings turns).shared times
        reports) : Replays settings shared (now :: times) (report :: reports)

theorem Replays.ticks_prefix [UrlParser] (replays : Replays settings shared times reports)
    (keyed : shared.agents.IsKeyed) :
    reports.map TickReport.tick <+: times.map fun time => (settings.slot time).tick := by
  induction replays with
  | pause shared times => exact List.nil_prefix
  | tick turns alone isOver goesOn ih =>
      have isTick := (solo_yields keyed alone isOver).tick_eq
      rw [List.map_cons, List.map_cons, isTick, List.cons_prefix_cons]
      exact ⟨rfl, ih ((solo_isSolo keyed _).run alone).traced.keyed⟩

/-- When the slots of a replay increase and all states are of earlier ticks, no target is reported
as one that was evaluated already. -/
theorem Replays.unevaluated [UrlParser] (replays : Replays settings shared times reports)
    (keyed : shared.agents.IsKeyed)
    (increases : times.Pairwise fun time next =>
      (settings.slot time).tick < (settings.slot next).tick)
    (areBefore : ∀ time ∈ times, shared.IsBefore (settings.slot time).tick)
    (isOne : report ∈ reports) (isReport : own ∈ report.targets) (tick : TickNumber) :
    own.status ≠ .alreadyEvaluated tick := by
  induction replays with
  | pause shared times => cases isOne
  | tick turns alone isOver goesOn ih =>
      obtain ⟨isFirst, increases⟩ := List.pairwise_cons.1 increases
      obtain ⟨isBefore, areBefore⟩ := List.forall_mem_cons.1 areBefore
      rcases List.mem_cons.1 isOne with rfl | isOne
      · exact solo_unevaluated keyed alone isOver isBefore isReport tick
      · refine ih ((solo_isSolo keyed _).run alone).traced.keyed increases ?_ isOne
        exact fun time isTime => solo_isBefore keyed alone isOver isBefore (isFirst time isTime)

/--
The ticks of a replay that does not reach back before 1970 are consecutive and
end with the present one, so that none of them finds a target evaluated already
when there were no states.  The number of a tick is the same for two times just
when these fall in the same slot, and does not decrease with the time.
-/
theorem replay_isConsecutive [UrlParser] {settings : Settings} (isSet : 1 ≤ settings.tickMinutes) :
    (∀ (now : Instant) (count : Nat), count ≤ 2 ^ 31 →
      Instant.epoch ≤ settings.ticksBefore now (count - 1) →
      let last := (settings.slot now).tick
      let slots := settings.replay now count
      count ≤ last + 1 ∧ slots.map Slot.tick = List.range' (last + 1 - count) count ∧
      ∀ (agents : List Agent) (world : outside.World) (reports : List TickReport),
        Replays settings (start (.ofAgents agents) .empty world).shared (slots.map Slot.now)
          reports →
        reports.map TickReport.tick <+: List.range' (last + 1 - count) count ∧
        ∀ report ∈ reports, ∀ own ∈ report.targets, ∀ tick,
          own.status ≠ .alreadyEvaluated tick) ∧
    (∀ earlier later, earlier ≤ later →
      (settings.slot earlier).tick ≤ (settings.slot later).tick) ∧
    ∀ time other, Instant.epoch ≤ time → Instant.epoch ≤ other →
      ((settings.slot time).tick = (settings.slot other).tick ↔
        ∃ tick, settings.InSlot tick time ∧ settings.InSlot tick other) := by
  have isSet : 1 ≤ settings.tickMinutes.toNat := UInt32.le_iff_toNat_le.1 isSet
  refine ⟨fun now count isNear isCounted => ?_, fun _ _ => Settings.tick_mono,
    fun _ _ => Settings.tick_eq_iff isSet⟩
  intro last slots
  obtain ⟨isPast, ticks⟩ := Settings.tick_replay isSet isNear isCounted
  have sameTicks : (slots.map Slot.now).map (fun time => (settings.slot time).tick) =
      List.range' (last + 1 - count) count := by
    rw [← ticks, List.map_map]
    refine List.map_congr_left fun own found => ?_
    obtain ⟨position, -, rfl⟩ := List.mem_map.1 found
    rfl
  refine ⟨isPast, ticks, fun agents world reports replays => ⟨?_, ?_⟩⟩
  · exact sameTicks ▸ replays.ticks_prefix (AgentStore.ofAgents_keyed agents)
  · intro report isOne own isReport tick
    refine replays.unevaluated (AgentStore.ofAgents_keyed agents) ?_ ?_ isOne isReport tick
    · refine List.pairwise_map.1 ?_
      rw [sameTicks]
      exact List.pairwise_lt_range'
    · intro time _ key stored isStored
      cases isStored

/-- A tick for the only target of one agent, with no more turns than it needs when the agent
fires. -/
def exampleRound : List (Turn spending) :=
  let next (spot : Spot) : Turn spending := .proceed 0 spot ⟨(), none, fun _ => false⟩
  List.replicate 3 (next .tick) ++ [.settle 0 none, .settle 0 (some 0)] ++
    List.replicate 12 (next (.visit 0 0)) ++ [.settle 0 (some 0)] ++
    List.replicate 2 (next (.agent 0)) ++ [.settle 0 (some 0), .settle 0 none] ++
    List.replicate 4 (next .tick) ++ [.settle 0 none]

attribute [local instance] UrlParser.refusing

/-- The two ticks of a replay each report the target, and none of them says that it was evaluated
already. -/
theorem replay_isConsecutive_exampleRound :
    let slots := Settings.standard.replay ⟨1717401600, 0⟩ 2
    ∃ reports, Replays .standard (start (.ofAgents [.watcher]) .empty () : System spending).shared
        (slots.map Slot.now) reports ∧
      reports.map TickReport.tick = [1908223, 1908224] ∧
      ∀ report ∈ reports, report.targets.length = 1 ∧
        ∀ own ∈ report.targets, ∀ tick, own.status ≠ .alreadyEvaluated tick := by
  intro slots
  let shared : Shared spending := (start (.ofAgents [.watcher]) .empty ()).shared
  let first := (solo .standard shared ⟨1717400700, 0⟩).run .standard exampleRound
  let second := (solo .standard first.shared ⟨1717401600, 0⟩).run .standard exampleRound
  have alone : ∀ turn ∈ exampleRound, turn.begins = false := by decide +kernel
  have isFirst : (first.ticks[0]?.bind TickRun.report?).any
      (fun report => report.targets.length == 1) = true := by
    decide +kernel
  have isSecond : (second.ticks[0]?.bind TickRun.report?).any
      (fun report => report.targets.length == 1) = true := by
    decide +kernel
  obtain ⟨report, isOver, hasTarget⟩ := (Option.any_eq_true ..).1 isFirst
  obtain ⟨last, isLastOver, lastHasTarget⟩ := (Option.any_eq_true ..).1 isSecond
  have replays : Replays .standard shared (slots.map Slot.now) [report, last] :=
    .tick exampleRound alone isOver (.tick exampleRound alone isLastOver (.pause _ _))
  have isSet : 1 ≤ Settings.standard.tickMinutes := by decide
  have isCounted : Instant.epoch ≤ Settings.standard.ticksBefore ⟨1717401600, 0⟩ (2 - 1) := by
    decide
  obtain ⟨consecutive, -, -⟩ := @replay_isConsecutive spending _ .standard isSet
  obtain ⟨-, -, reported⟩ := consecutive ⟨1717401600, 0⟩ 2 (by decide) isCounted
  obtain ⟨ticks, unevaluated⟩ := reported [.watcher] () [report, last] replays
  refine ⟨[report, last], replays, ticks.eq_of_length rfl, fun own isOne => ⟨?_, ?_⟩⟩
  · rcases List.mem_cons.1 isOne with rfl | isOne
    · exact beq_iff_eq.1 hasTarget
    · exact List.mem_singleton.1 isOne ▸ beq_iff_eq.1 lastHasTarget
  · exact unevaluated own isOne

end System

end AdMonitor
