import AdMonitor.Proofs.Interleaving.Provenance
import AdMonitor.Proofs.Interleaving.Restraint
import AdMonitor.Proofs.Visit.Reading

/-!
# What agents may act on

The ad platform is asked about no campaign but those of entities that the agent
whose target fires may act on, however the provider answers and however ticks
and requests overlap (`System.performAll_inScope`).
-/

namespace AdMonitor

variable {outside : Outside} {settings : Settings} {slot : Slot} {index : Nat}
  {history : History} {agent : Agent} {campaign : CampaignId}

/-- The targets that an agent is visited for are those that it has. -/
theorem Slot.resolves_of_opened [UrlParser] {exchanges : List Exchange} {targets : List Target}
    (opened : (slot.openAgent settings agent).Ends exchanges (.ok targets)) {target : Target}
    (isTarget : target ∈ targets) : agent.Resolves target := by
  cases opensTo opened with
  | resolved targets lookup isValid resolves =>
      exact ⟨settings.fetchLimit, exchanges, targets, resolves, isTarget⟩

/-- Whether a visit of an agent that a tick was told of has read a member that a campaign is of. -/
structure Visit.Reaches (index : Nat) (history : History) (visit : Visit)
    (campaign : CampaignId) : Prop where
  isTold : history.Tells index visit.agent
  resolves : visit.agent.Resolves visit.target
  read : ∃ readings ⊆ history.ofJob (.visit ⟨index, visit.key⟩), ∃ snapshot members,
    (visit.agent.read visit.settings.fetchLimit visit.target).Ends readings
      (.available snapshot members) ∧
    ∃ member ∈ members, visit.agent.scope.filter.admits member.entity = true ∧
      member.entity.campaign = campaign

theorem TickRun.Traced.reaches [UrlParser] {run : TickRun Program}
    (traced : run.Traced settings index history) {visit : Visit} {exchange : Exchange}
    (logged : ⟨.visit index visit, exchange⟩ ∈ history)
    (isAbout : exchange.call.campaign? = some campaign) :
    visit.Reaches index history campaign := by
  obtain ⟨agent, isTold, isOwn, targets, visits, attended⟩ := traced.attended logged
  obtain ⟨target, isTarget, job, -, rfl, isTraced⟩ := attended.visited.visit logged isOwn
  obtain ⟨early, -, opened⟩ := attended.opened
  have resolves := Slot.resolves_of_opened opened isTarget
  have found := History.mem_ofJob.2 ⟨_, logged, rfl⟩
  obtain ⟨later, past, parts⟩ := List.append_of_mem found
  have leads := isTraced.leads
  rw [parts] at leads
  obtain ⟨middle, leads, -⟩ := leads.split
  obtain ⟨readings, arePast, snapshot, members, read, member, isMember, same⟩ :=
    Visit.reads_of_campaign isAbout leads
  refine ⟨isTold, resolves, readings, fun exchange isRead => ?_, snapshot, members, read, member,
    isMember, ?_, same⟩
  · rw [parts]
    exact List.mem_append_right _ (List.mem_cons_of_mem _ (arePast isRead))
  · have sound := (Agent.read_isSound read).available snapshot members rfl
    exact sound.admitted (fun _ => resolves) member isMember

def Call.IsEffect : Call → Prop
  | .platform .. | .enqueue .. | .post .. => True
  | _ => False

/-- In a tick none but visits act. -/
theorem Entry.Belongs.visit_of_effect {entry : Entry}
    (belongs : entry.Belongs settings slot index history)
    (isEffect : entry.exchange.call.IsEffect) : ∃ visit, entry.actor = .visit index visit := by
  cases belongs with
  | tick exchange before after step isTold =>
      cases step with
      | note view exchange isNote =>
          obtain ⟨call, answer⟩ := exchange
          cases call with
          | platform | enqueue | post => cases isNote
          | _ => cases isEffect
      | _ => cases isEffect
  | opening agent isTold exchange isOpening =>
      obtain ⟨call, answer⟩ := exchange
      cases call with
      | platform | enqueue | post => cases isOpening
      | _ => cases isEffect
  | closing agent isTold exchange isClosing =>
      obtain ⟨call, answer⟩ := exchange
      cases call with
      | platform | enqueue | post => cases isClosing
      | _ => cases isEffect
  | visit agent isTold target isTarget exchange before after step => exact ⟨_, rfl⟩

theorem Entry.Belongs.visit_of_campaign {entry : Entry}
    (belongs : entry.Belongs settings slot index history)
    (isAbout : entry.exchange.call.campaign? = some campaign) :
    ∃ visit, entry.actor = .visit index visit := by
  obtain ⟨limit, query, isPlatform⟩ := Call.eq_platform isAbout
  exact belongs.visit_of_effect (isPlatform ▸ trivial)

theorem Request.not_platform {request : Request} {limit : Span} {query : PlatformQuery} :
    ¬ request.Makes (.platform limit query) := by
  intro makes
  cases request with
  | register | delete => cases makes
  | explain id => rcases makes with isReading | isOpening <;> contradiction

namespace System

/--
A reading that is available has members, which the filter of the agent admits
and whose metrics were found by this reading, and no fetch of it has failed.
The platform is asked only by visits that have made such a reading, and only
about the campaigns of its members.
-/
theorem performAll_inScope [UrlParser] (settings : Settings) (agents : List Agent)
    (states : StateStore) (world : outside.World) (deeds : List (Deed outside)) :
    let system := (start (.ofAgents agents) states world).performAll settings deeds
    (∀ (agent : Agent) limit target exchanges reading,
      (agent.read limit target).Ends exchanges reading →
        agent.IsSound target exchanges reading) ∧
    ∀ entry ∈ system.log, ∀ campaign, entry.exchange.call.campaign? = some campaign →
      ∃ index visit, entry.actor = .visit index visit ∧
        visit.Reaches index system.log campaign := by
  intro system
  refine ⟨fun agent limit target exchanges reading => Agent.read_isSound, ?_⟩
  intro entry logged campaign isAbout
  have first : (start (.ofAgents agents) states world).Traced settings :=
    start_traced (AgentStore.ofAgents_keyed agents)
  have traced : system.Traced settings := performAll_traced first deeds
  have handles : system.Handles settings (deeds.filterMap Deed.request?) :=
    performAll_handles start_handles first deeds
  rcases origin traced handles logged with ⟨index, run, isTick, belongs⟩ |
    ⟨index, request, -, -, makes⟩
  · obtain ⟨visit, isActor⟩ := belongs.visit_of_campaign isAbout
    obtain ⟨actor, exchange⟩ := entry
    obtain rfl : actor = .visit index visit := isActor
    exact ⟨index, visit, rfl, (traced.ticks index run isTick).reaches logged isAbout⟩
  · obtain ⟨limit, query, isPlatform⟩ := Call.eq_platform isAbout
    exact absurd (isPlatform ▸ makes) Request.not_platform

/-- Collaborators that list campaigns of every platform, whatever they are asked for. -/
def heedless : Outside where
  World := Unit
  Mood := Unit
  answer _ _
    | .metrics _ (.list ..) =>
        (.answered (.ok [⟨"x", "first", .google, .campaign, none⟩,
          ⟨"y", "second", .tiktok, .campaign, none⟩]), ())
    | call => (call.spending, ())

/-- A tick in which the agent fires and pauses what it has found. -/
def examplePause : List (Deed heedless) :=
  let next (spot : Spot) : Deed heedless := .turn (.proceed 0 spot ⟨(), none, fun _ => false⟩)
  let settle (position : Option Nat) : Deed heedless := .turn (.settle 0 position)
  [.turn (.begin default)] ++ List.replicate 3 (next .tick) ++ [settle none, next (.agent 0),
    settle (some 0)] ++ List.replicate 14 (next (.visit 0 0))

attribute [local instance] UrlParser.refusing

/-- The campaign of the other platform is listed, but only the one in scope is paused. -/
theorem performAll_inScope_examplePause :
    let agent := { Agent.watcher with
      scope := ⟨⟨some .google, .campaign⟩, .all true⟩, actions := [.pauseCampaign] }
    let system := (start (.ofAgents [agent]) .empty ()).performAll .standard examplePause
    (system.log.filterMap fun entry => entry.exchange.call.campaign?) = ["x"] ∧
      ∃ index, ∃ visit : Visit, visit.Reaches index system.log "x" := by
  intro agent system
  have paused : (system.log.filterMap fun entry => entry.exchange.call.campaign?) = ["x"] := by
    decide +kernel
  refine ⟨paused, ?_⟩
  obtain ⟨entry, logged, isAbout⟩ := List.mem_filterMap.1 (paused ▸ List.mem_singleton_self "x")
  obtain ⟨index, visit, -, reaches⟩ := (performAll_inScope .standard [agent] .empty ()
    examplePause).2 entry logged "x" isAbout
  exact ⟨index, visit, reaches⟩

end System

end AdMonitor
