import AdMonitor.Proofs.Account.Frame
import AdMonitor.Proofs.Interleaving.Scope
import AdMonitor.Proofs.Visit.Orders

/-!
# What a tick leaves alone in an account

With one account for metrics and for the ad platform, a tick changes nothing
but campaigns of entities that its agents find in their own workspaces and
scopes (`System.solo_isolates`).  Such a campaign is known by a bare id, so the
one that is changed may be held in another workspace
(`System.solo_crosses_exampleSaving`).
-/

namespace AdMonitor

variable {others : Outside} {settings : Settings} {index : Nat} {history log : History}

def Outside.hosting (others : Outside) : Outside where
  World := Account × others.World
  Mood := others.Mood
  answer mood world
    | .metrics _ query => (.answered (.ok (query.answer world.1)), world)
    | .snapshots _ workspace ids names =>
        (⟨ids.map fun id => .answered (.ok (world.1.snapshot? ⟨workspace, id⟩ names)),
          List.length_map _⟩, world)
    | .platform _ query =>
        let (result, account) := query.answer world.1
        (.answered result, (account, world.2))
    | call =>
        let (answer, rest) := others.answer mood world.2 call
        (answer, (world.1, rest))

def Shared.account (shared : Shared others.hosting) : Account :=
  let (account, _) : Account × others.World := shared.world
  account

section Account

variable {α : Type} {view : Holding → α} {touched : CampaignId → Prop}
  {shared first after : Shared others.hosting} {reaction : Reaction others.hosting}
  {admits : Reaction others.hosting → Prop}

/-- A call makes no change but the one that it asks for. -/
theorem Shared.account_of_answer {call : Call} {answer : call.Answer}
    (answered : shared.answer reaction call = some (answer, after))
    (isSeen : ∀ change, call.change? = some change →
      (∀ holding, view (change.apply holding) = view holding) ∨ touched change.campaign) :
    shared.account.Keeps view touched after.account := by
  cases call with
  | agents query => rcases answer_agents answered with ⟨-, rfl⟩ | ⟨_, -, rfl⟩ <;> exact .refl
  | states query => rcases answer_states answered with ⟨-, rfl⟩ | ⟨-, rfl⟩ <;> exact .refl
  | lock query =>
      obtain ⟨locks, -, rfl⟩ := answer_lock answered
      exact .refl
  | platform limit query =>
      cases answered
      exact query.answer_keeps shared.account isSeen
  | _ =>
      cases answered
      exact .refl

/-- The changes of an account are those that a log asks for. -/
theorem Shared.Evolves.account_keeps (evolves : Evolves admits first log after)
    (isSeen : ∀ entry ∈ log, ∀ change, entry.exchange.call.change? = some change →
      (∀ holding, view (change.apply holding) = view holding) ∨ touched change.campaign) :
    first.account.Keeps view touched after.account := by
  induction evolves with
  | start => exact .refl
  | step evolves isAdmitted answered ih =>
      obtain ⟨isSeen, older⟩ := List.forall_mem_cons.1 isSeen
      exact (ih older).trans (account_of_answer answered isSeen)

theorem Shared.Evolves.entity?_account (evolves : Evolves admits first log after)
    (key : EntityKey) : after.account.entity? key = first.account.entity? key := by
  have keeps : first.account.Keeps (fun _ => ()) (fun _ => False) after.account :=
    evolves.account_keeps fun _ _ _ _ => Or.inl fun _ => rfl
  exact keeps.entities key

end Account

/-! ## Entities that an agent acts on -/

def Exchange.IsTrueOf (account : Account) : Exchange → Prop
  | ⟨.metrics _ (.list workspace _), .answered (.ok listed)⟩ =>
      ∀ entity ∈ listed, ∃ id, account.entity? ⟨workspace, id⟩ = some entity
  | ⟨.metrics _ (.entity key), .answered (.ok found)⟩ => account.entity? key = found
  | _ => True

/-- What was said of entities is so in the account from the start, for these never change. -/
theorem Shared.Evolves.isTrueOf {admits : Reaction others.hosting → Prop}
    {first after : Shared others.hosting} (evolves : Evolves admits first log after)
    {entry : Entry} (logged : entry ∈ log) : entry.exchange.IsTrueOf first.account := by
  obtain ⟨past, isPast⟩ := History.exists_past logged
  obtain ⟨before, reaction, later, evolved, -, answered⟩ := evolves.answered isPast
  have same := evolved.entity?_account
  obtain ⟨actor, call, answer⟩ := entry
  cases call with
  | metrics limit query =>
      cases answered
      cases query with
      | list workspace filter =>
          intro entity isListed
          obtain ⟨id, isHeld⟩ := Account.exists_of_mem_list isListed
          exact ⟨id, (same _).symm.trans isHeld⟩
      | entity key => exact (same key).symm
      | snapshot => trivial
  | _ => trivial

def Scope.selects (scope : Scope) (id : EntityId) (entity : Entity) : Bool :=
  scope.filter.admits entity &&
    match scope.selection with
    | .all _ => true
    | .listed ids => ids.contains id

namespace Agent

variable {agent : Agent} {account : Account} {campaign : CampaignId} {limit : Span}
  {id : EntityId} {entities : List Entity} {target : Target} {exchanges lookup : List Exchange}
  {snapshot : Snapshot} {member : Member} {members : List Member}

/-- Whether a campaign is the one of an entity in the workspace and the scope of an agent. -/
def Governs (agent : Agent) (account : Account) (campaign : CampaignId) : Prop :=
  ∃ id entity, account.entity? ⟨agent.workspace, id⟩ = some entity ∧
    agent.scope.selects id entity = true ∧ entity.campaign = campaign

/-- Whether an agent orders a change of such a campaign. -/
def Makes (agent : Agent) (account : Account) (change : PlatformChange) : Prop :=
  agent.Orders change ∧ agent.Governs account change.campaign

theorem makes_unmarked {change : PlatformChange} :
    agent.unmarked.Makes account change ↔ agent.Makes account change := Iff.rfl

/-- A member of the reading of an entity is what the entity was found to be. -/
theorem told_of_readEntity
    (ends : (agent.readEntity limit id).Ends exchanges (.available snapshot members))
    (isMember : member ∈ members) :
    ⟨.metrics limit (.entity ⟨agent.workspace, id⟩), .answered (.ok (some member.entity))⟩ ∈
      exchanges := by
  obtain ⟨reply, later, rfl, goesOn⟩ := Program.ends_ask_iff.1 ends
  split at goesOn
  · cases (Program.ends_done_iff.1 goesOn).2
  · cases (Program.ends_done_iff.1 goesOn).2
  · rename_i entity isFound
    obtain rfl := Reply.metrics_eq_ok.1 isFound
    split at goesOn
    · obtain ⟨found, none, early, rfl, fetches, returns⟩ := Program.ends_bind_iff.1 goesOn
      obtain ⟨replies, rfl, rfl⟩ := Member.ends_fetch fetches
      obtain ⟨collected, -⟩ := Reading.of_ofEntity (Program.ends_done_iff.1 returns).2
      obtain ⟨isOwn, -⟩ := Member.found_of_collect collected isMember
      rw [List.mem_singleton.1 isOwn]
      exact List.mem_append_right _ List.mem_cons_self
    · cases (Program.ends_done_iff.1 goesOn).2

/-- The members of the reading of several entities are among these. -/
theorem mem_of_readAggregate
    (ends : (agent.readAggregate limit entities).Ends exchanges (.available snapshot members))
    (isMember : member ∈ members) : member.entity ∈ entities := by
  unfold readAggregate at ends
  split at ends
  · cases (Program.ends_done_iff.1 ends).2
  · obtain ⟨found, none, early, rfl, fetches, returns⟩ := Program.ends_bind_iff.1 ends
    obtain ⟨replies, rfl, rfl⟩ := Member.ends_fetch fetches
    obtain ⟨collected, -⟩ := Reading.of_ofMembers (Program.ends_done_iff.1 returns).2
    exact (Member.found_of_collect collected isMember).1

/-- What an agent reads of a target that it has is what it finds in its workspace and scope. -/
theorem governs_of_read {lookupLimit : Span} {targets : List Target}
    (resolves : (agent.resolve lookupLimit).Ends lookup (.ok targets)) (isTarget : target ∈ targets)
    (areFound : ∀ exchange ∈ lookup, exchange.IsTrueOf account)
    (read : (agent.read limit target).Ends exchanges (.available snapshot members))
    (areRead : ∀ exchange ∈ exchanges, exchange.IsTrueOf account) (isMember : member ∈ members)
    (admits : agent.scope.filter.admits member.entity = true) :
    agent.Governs account member.entity.campaign := by
  suffices ∃ id, account.entity? ⟨agent.workspace, id⟩ = some member.entity ∧
      agent.scope.selects id member.entity = true by
    obtain ⟨id, isHeld, selects⟩ := this
    exact ⟨id, _, isHeld, selects, rfl⟩
  unfold resolve at resolves
  split at resolves
  · rename_i isAll
    obtain ⟨reply, later, rfl, goesOn⟩ := Program.ends_ask_iff.1 resolves
    split at goesOn
    · cases (Program.ends_done_iff.1 goesOn).2
    · rename_i listed isListed
      obtain ⟨rfl, same⟩ := Program.ends_done_iff.1 goesOn
      cases same
      obtain rfl := Reply.metrics_eq_ok.1 isListed
      obtain rfl := List.mem_singleton.1 isTarget
      have isOne := (List.mem_filter.1 (mem_of_readAggregate read isMember)).1
      obtain ⟨id, isHeld⟩ := areFound _ List.mem_cons_self _ isOne
      exact ⟨id, isHeld, by simp [Scope.selects, admits, isAll]⟩
  · cases (Program.ends_done_iff.1 resolves).2
  · rename_i ids isListed
    cases (Program.ends_done_iff.1 resolves).2
    obtain ⟨id, isOne, rfl⟩ := List.mem_map.1 isTarget
    rw [Scope.distinctIds, isListed, List.mem_eraseDups] at isOne
    have isHeld := areRead _ (told_of_readEntity read isMember)
    exact ⟨id, isHeld, by simp [Scope.selects, admits, isListed, isOne]⟩

end Agent

/-- The target of a visit is one that was found for its agent. -/
theorem TickRun.Traced.resolved [UrlParser] {run : TickRun Program}
    (traced : run.Traced settings index history) {visit : Visit} {exchange : Exchange}
    (logged : ⟨.visit index visit, exchange⟩ ∈ history) :
    ∃ lookup ⊆ history.ofJob (.agent index visit.agent.id), ∃ targets,
      (visit.agent.resolve settings.fetchLimit).Ends lookup (.ok targets) ∧
        visit.target ∈ targets := by
  obtain ⟨agent, -, isOwn, targets, visits, attended⟩ := traced.attended logged
  obtain ⟨target, isTarget, -, -, rfl, -⟩ := attended.visited.visit logged isOwn
  obtain ⟨early, isPart, opened⟩ := attended.opened
  cases Slot.opensTo opened with
  | resolved targets lookup isValid resolves => exact ⟨_, isPart, targets, resolves, isTarget⟩

/-- A visit asks only for changes that its agent makes, when what the log says is so. -/
theorem TickRun.Traced.makes [UrlParser] {run : TickRun Program} {account : Account}
    (traced : run.Traced settings index history)
    (areTrue : ∀ entry ∈ history, entry.exchange.IsTrueOf account) {visit : Visit}
    {exchange : Exchange} (logged : ⟨.visit index visit, exchange⟩ ∈ history)
    {change : PlatformChange} (isChange : exchange.call.change? = some change) :
    visit.agent.Makes account change := by
  have areTrue' : ∀ {job exchanges}, exchanges ⊆ history.ofJob job →
      ∀ exchange ∈ exchanges, exchange.IsTrueOf account := by
    intro job exchanges isPart exchange isOne
    obtain ⟨actor, isLogged, -⟩ := History.mem_ofJob.1 (isPart isOne)
    exact areTrue _ isLogged
  constructor
  · obtain ⟨job, isTraced⟩ := (traced.serves logged).2.traced
    have isOwn := History.mem_ofJob.2 ⟨_, logged, rfl⟩
    exact (visit.run_obeys.leads isTraced.leads).1 exchange isOwn change isChange
  · obtain ⟨-, -, readings, isPart, snapshot, members, read, member, isMember, admits, same⟩ :=
      traced.reaches logged (Call.campaign?_of_change? isChange)
    obtain ⟨lookup, isOwn, targets, resolves, isTarget⟩ := traced.resolved logged
    rw [← same]
    exact Agent.governs_of_read resolves isTarget (areTrue' isOwn) read (areTrue' isPart) isMember
      admits

namespace System

variable {shared : Shared others.hosting} {turns : List (Turn others.hosting)}

/-- No changes are asked for but those that active agents make. -/
theorem solo_makes [UrlParser] (keyed : shared.agents.IsKeyed) (now : Instant)
    (alone : ∀ turn ∈ turns, turn.begins = false) {entry : Entry}
    (logged : entry ∈ ((solo settings shared now).run settings turns).log)
    {change : PlatformChange} (isChange : entry.exchange.call.change? = some change) :
    ∃ agent ∈ shared.agents.activeAgents, agent.Makes shared.account change := by
  have isSolo : ((solo settings shared now).run settings turns).IsSolo settings now :=
    (solo_isSolo keyed now).run alone
  have evolves : Shared.Evolves (fun _ => True) shared
      ((solo settings shared now).run settings turns).log
      ((solo settings shared now).run settings turns).shared := solo_evolves now turns
  generalize (solo settings shared now).run settings turns = system at *
  obtain ⟨run, isSingle, -⟩ := isSolo.single
  have traced := isSolo.traced.ticks 0 run (congrArg (·[0]?) isSingle)
  have belongs : ∀ entry ∈ system.log, entry.Belongs settings run.slot 0 system.log := by
    intro entry logged
    obtain ⟨job, isJob, isIndex⟩ := isSolo.jobs entry logged
    exact TickRun.Traced.belongs traced logged isJob isIndex
  obtain ⟨visit, isActor⟩ :=
    (belongs entry logged).visit_of_campaign (Call.campaign?_of_change? isChange)
  obtain ⟨actor, exchange⟩ := entry
  obtain rfl : actor = .visit 0 visit := isActor
  have makes := TickRun.Traced.makes traced (fun _ => evolves.isTrueOf) logged isChange
  have tells := (TickRun.Traced.serves traced logged).1
  obtain ⟨stored, isStored, same, isActive⟩ := tells.stored evolves keyed belongs
  refine ⟨stored, List.mem_filter.2 ⟨AgentStore.mem_agents.2 ⟨_, isStored⟩, isActive⟩, ?_⟩
  exact Agent.makes_unmarked.1 (same ▸ Agent.makes_unmarked.2 makes)

/--
A tick whose only active agent is a given one changes no flag and no metrics of
what an account holds, in any workspace, but of campaigns that have the id of
the campaign of an entity in the workspace and the scope of this agent.  It
changes their flags only if the agent has an action for it, and their metrics
only if it has a budget action and a scope of campaigns.
-/
theorem solo_isolates [UrlParser] (settings : Settings) {shared : Shared others.hosting}
    {agent : Agent} (keyed : shared.agents.IsKeyed) (isOnly : shared.agents.activeAgents = [agent])
    (now : Instant) {turns : List (Turn others.hosting)}
    (alone : ∀ turn ∈ turns, turn.begins = false) :
    let before := shared.account
    let after := ((solo settings shared now).run settings turns).shared.account
    ∀ key,
      (before.Spares (fun id => ∃ flag, agent.Makes before (.paused id flag)) key →
        (after.holdings.get? key).map Holding.paused =
          (before.holdings.get? key).map Holding.paused) ∧
      (before.Spares (fun id => ∃ value, agent.Makes before (.budget id value)) key →
        (after.holdings.get? key).map Holding.metrics =
          (before.holdings.get? key).map Holding.metrics) := by
  intro before after key
  have makes : ∀ entry ∈ ((solo settings shared now).run settings turns).log,
      ∀ change, entry.exchange.call.change? = some change → agent.Makes before change := by
    intro entry logged change isChange
    obtain ⟨own, isOwn, makes⟩ := solo_makes keyed now alone logged isChange
    rw [isOnly] at isOwn
    rwa [List.mem_singleton.1 isOwn] at makes
  refine ⟨((solo_evolves now turns).account_keeps ?_).spared key,
    ((solo_evolves now turns).account_keeps ?_).spared key⟩
  · intro entry logged change isChange
    cases change with
    | budget id value => exact Or.inl fun _ => rfl
    | paused id flag => exact Or.inr ⟨flag, makes entry logged _ isChange⟩
  · intro entry logged change isChange
    cases change with
    | budget id value => exact Or.inr ⟨value, makes entry logged _ isChange⟩
    | paused id flag => exact Or.inl fun _ => rfl

/-- An agent that pauses the campaign of the ad set `set-1` when this has spent too much. -/
def saver : Agent :=
  { Agent.watcher with
    id := "saver", workspace := "ws-1", name := "Saver"
    scope := ⟨⟨none, .adSet⟩, .listed ["set-1"]⟩
    trigger := ⟨.continuous, 0⟩
    actions := [.pauseCampaign] }

/-- The ad set says that it is of the campaign `cmp-9`, but there is one in another workspace
only. -/
def exampleHosting : Shared spending.hosting where
  agents := .ofAgents [saver]
  states := .empty
  locks := .empty
  world :=
    (.ofHoldings [⟨"ws-1", ⟨"set-1", "Set", .metaAds, .adSet, some "cmp-9"⟩,
        some (.ofList [("spend", 150)]), false⟩,
      ⟨"ws-2", ⟨"cmp-9", "Other", .metaAds, .campaign, none⟩,
        some (.ofList [("spend", 10), ("budget", 50)]), false⟩], ())

def exampleSaving : List (Turn spending.hosting) :=
  let next (spot : Spot) : Turn spending.hosting := .proceed 0 spot ⟨(), none, fun _ => false⟩
  List.replicate 3 (next .tick) ++ [.settle 0 none, .settle 0 (some 0)] ++
    List.replicate 15 (next (.visit 0 0)) ++ [.settle 0 (some 0)] ++
    List.replicate 3 (next (.agent 0)) ++ [.settle 0 (some 0), .settle 0 none] ++
    List.replicate 4 (next .tick) ++ [.settle 0 none]

attribute [local instance] UrlParser.refusing

/-- The campaign that is paused keeps its metrics, and the ad set is not paused. -/
theorem solo_isolates_exampleSaving :
    let after := ((solo .standard exampleHosting ⟨1717401600, 0⟩).run .standard
      exampleSaving).shared.account
    exampleHosting.agents.IsKeyed ∧ exampleHosting.agents.activeAgents = [saver] ∧
      (∀ turn ∈ exampleSaving, turn.begins = false) ∧
      (after.holdings.get? ⟨"ws-2", "cmp-9"⟩).map Holding.metrics =
        (exampleHosting.account.holdings.get? ⟨"ws-2", "cmp-9"⟩).map Holding.metrics ∧
      (after.holdings.get? ⟨"ws-1", "set-1"⟩).map Holding.paused = some false := by
  intro after
  have keyed : exampleHosting.agents.IsKeyed := AgentStore.ofAgents_keyed _
  have isOnly : exampleHosting.agents.activeAgents = [saver] := rfl
  have alone : ∀ turn ∈ exampleSaving, turn.begins = false := by decide +kernel
  have isolates := solo_isolates .standard keyed isOnly ⟨1717401600, 0⟩ alone
  refine ⟨keyed, isOnly, alone, (isolates ⟨"ws-2", "cmp-9"⟩).2 ?_, ?_⟩
  · rintro holding - id ⟨value, ⟨-, plan, isAction⟩, -⟩
    cases List.mem_singleton.1 isAction
  · have isUnpaused : (exampleHosting.account.holdings.get? ⟨"ws-1", "set-1"⟩).map Holding.paused =
        some false := by
      decide +kernel
    refine ((isolates ⟨"ws-1", "set-1"⟩).1 ?_).trans isUnpaused
    have isAdSet : (exampleHosting.account.entity? ⟨"ws-1", "set-1"⟩).map Entity.level =
        some .adSet := by
      decide +kernel
    intro holding found id _
    rw [Account.entity?, found] at isAdSet
    rw [Holding.isCampaign, Option.some.inj isAdSet]
    rfl

/-- The only active agent is sound, but its tick pauses a campaign of another workspace. -/
theorem solo_crosses_exampleSaving :
    let system := (solo .standard exampleHosting ⟨1717401600, 0⟩).run .standard exampleSaving
    let key : EntityKey := ⟨"ws-2", "cmp-9"⟩
    saver.validate Settings.standard.maxConditionDepth = .ok () ∧
      exampleHosting.agents.activeAgents = [saver] ∧
      (∀ turn ∈ exampleSaving, turn.begins = false) ∧
      (system.ticks[0]?.bind TickRun.report?).isSome = true ∧
      key.workspace ≠ saver.workspace ∧
      (exampleHosting.account.holdings.get? key).map Holding.paused = some false ∧
      (system.shared.account.holdings.get? key).map Holding.paused = some true := by
  intro system key
  refine ⟨rfl, rfl, ?_, ?_, ?_, ?_, ?_⟩ <;> decide +kernel

end System

end AdMonitor
