import AdMonitor.Proofs.Visit.Outcome

/-!
# What a reading rests on

Whatever the provider answers, a reading that is available has members, these
are entities that the agent may act on, and their metrics are what the fetches
of this reading have found (`Agent.read_isSound`).  A fetch that fails makes
the reading unavailable.  A visit acts on the campaigns of the members that it
has read (`Visit.reads_of_campaign`).
-/

namespace AdMonitor

namespace Reply

variable {α : Type}

def succeeds : Reply α → Bool
  | .answered (.ok _) => true
  | _ => false

theorem metrics_eq_ok {limit : Span} {reply : Reply α} {value : α} :
    reply.metrics limit = .ok value ↔ reply = .answered (.ok value) := by
  cases reply with
  | timedOut => simp [metrics]
  | answered result =>
      cases result with
      | ok value => simp [metrics]
      | error failure => cases failure <;> simp [metrics]

theorem fails_of_metrics {limit : Span} {reply : Reply α} {failure : Failure}
    (failed : reply.metrics limit = .error failure) : reply.succeeds = false := by
  cases reply with
  | timedOut => rfl
  | answered result =>
      cases result with
      | ok value => cases failed
      | error failure => rfl

end Reply

/-! ## Members -/

namespace Member

variable {limit : Span} {workspace : WorkspaceId} {names : NameSet} {entities : List Entity}
  {fetches : List (Entity × Reply (Option Snapshot))} {members : List Member}
  {replies : List (Reply (Option Snapshot))}

def ofFetch? : Entity × Reply (Option Snapshot) → Option Member
  | (entity, .answered (.ok (some snapshot))) => some ⟨entity, snapshot.deriveRatios⟩
  | _ => none

theorem ofFetch?_eq_some {fetch : Entity × Reply (Option Snapshot)} {member : Member}
    (found : ofFetch? fetch = some member) : ∃ snapshot : Snapshot,
      fetch = (member.entity, .answered (.ok (some snapshot))) ∧
        member.snapshot = snapshot.deriveRatios := by
  unfold ofFetch? at found
  split at found
  · cases found
    exact ⟨_, rfl, rfl⟩
  · cases found

/-- There are members just when all fetches have succeeded, and then they are what was found. -/
theorem collect_eq_ok_iff : collect limit fetches = .ok members ↔
    (∀ fetch ∈ fetches, fetch.2.succeeds = true) ∧ members = fetches.filterMap ofFetch? := by
  induction fetches generalizing members with
  | nil => exact ⟨fun collected => ⟨nofun, (Except.ok.inj collected).symm⟩, fun h => h.2 ▸ rfl⟩
  | cons fetch rest ih =>
      obtain ⟨entity, reply⟩ := fetch
      rw [collect, List.forall_mem_cons]
      split
      · rename_i failure failed
        refine iff_of_false (fun wrong => by cases wrong) ?_
        rintro ⟨⟨succeeds, -⟩, -⟩
        cases succeeds.symm.trans (Reply.fails_of_metrics failed)
      · rename_i found
        obtain rfl := Reply.metrics_eq_ok.1 found
        rw [ih, List.filterMap_cons_none rfl]
        exact and_congr_left' (and_iff_right rfl).symm
      · rename_i snapshot found
        obtain rfl := Reply.metrics_eq_ok.1 found
        cases collected : collect limit rest with
        | error failure =>
            refine iff_of_false (fun wrong => by cases wrong) ?_
            rintro ⟨⟨-, succeed⟩, -⟩
            cases collected.symm.trans (ih.2 ⟨succeed, rfl⟩)
        | ok others =>
            obtain ⟨succeed, rfl⟩ := ih.1 collected
            simp only [Except.map, Except.ok.injEq, ofFetch?, List.filterMap_cons]
            exact ⟨fun same => ⟨⟨rfl, succeed⟩, same.symm⟩, fun all => all.2.symm⟩

theorem ends_fetch {exchanges : List Exchange} {found : Except Failure (List Member)}
    (ends : (fetch limit workspace names entities).Ends exchanges found) :
    ∃ replies, exchanges = [⟨.snapshots limit workspace (entities.map Entity.id) names, replies⟩] ∧
      found = collect limit (entities.zip replies.val) := by
  obtain ⟨replies, none, rfl, returns⟩ := Program.ends_ask_iff.1 ends
  obtain ⟨rfl, rfl⟩ := Program.ends_done_iff.1 returns
  exact ⟨replies, rfl, rfl⟩

/-- Members are entities that were asked for, with the metrics that were found. -/
theorem found_of_collect (collected : collect limit (entities.zip replies) = .ok members)
    {member : Member} (isMember : member ∈ members) : member.entity ∈ entities ∧
      ∃ snapshot : Snapshot, (member.entity.id, .answered (.ok (some snapshot))) ∈
        (entities.map Entity.id).zip replies ∧ member.snapshot = snapshot.deriveRatios := by
  obtain ⟨-, rfl⟩ := collect_eq_ok_iff.1 collected
  obtain ⟨fetch, isFetch, found⟩ := List.mem_filterMap.1 isMember
  obtain ⟨snapshot, rfl, same⟩ := ofFetch?_eq_some found
  refine ⟨(List.of_mem_zip isFetch).1, snapshot, ?_, same⟩
  rw [List.zip_map_left]
  exact List.mem_map_of_mem isFetch

/-- When all fetches succeed, what one of them finds makes a member. -/
theorem collect_of_found
    (succeed : ∀ fetch ∈ (entities.map Entity.id).zip replies, fetch.2.succeeds = true)
    {id : EntityId} {snapshot : Snapshot}
    (isFetch : (id, .answered (.ok (some snapshot))) ∈ (entities.map Entity.id).zip replies) :
    ∃ members, collect limit (entities.zip replies) = .ok members ∧
      ∃ member ∈ members, member.entity.id = id ∧ member.snapshot = snapshot.deriveRatios := by
  rw [List.zip_map_left] at succeed isFetch
  obtain ⟨⟨entity, reply⟩, isOwn, same⟩ := List.mem_map.1 isFetch
  cases same
  refine ⟨_, collect_eq_ok_iff.2 ⟨fun fetch isOne => ?_, rfl⟩, ⟨entity, snapshot.deriveRatios⟩,
    List.mem_filterMap.2 ⟨_, isOwn, rfl⟩, rfl, rfl⟩
  exact succeed _ (List.mem_map_of_mem isOne)

theorem length_le_of_collect (collected : collect limit (entities.zip replies) = .ok members) :
    members.length ≤ entities.length := by
  obtain ⟨-, rfl⟩ := collect_eq_ok_iff.1 collected
  calc ((entities.zip replies).filterMap ofFetch?).length
      ≤ (entities.zip replies).length := List.length_filterMap_le ..
    _ = min entities.length replies.length := List.length_zip
    _ ≤ entities.length := Nat.min_le_left ..

/-- With a fetch that has failed there are no members. -/
theorem collect_of_fails {fetch : EntityId × Reply (Option Snapshot)}
    (isFetch : fetch ∈ (entities.map Entity.id).zip replies) (fails : fetch.2.succeeds = false) :
    ∃ failure, collect limit (entities.zip replies) = .error failure := by
  cases collected : collect limit (entities.zip replies) with
  | error failure => exact ⟨failure, rfl⟩
  | ok members =>
      obtain ⟨succeed, -⟩ := collect_eq_ok_iff.1 collected
      rw [List.zip_map_left] at isFetch
      obtain ⟨own, isOwn, rfl⟩ := List.mem_map.1 isFetch
      cases (succeed own isOwn).symm.trans fails

end Member

/-! ## Readings -/

def Exchange.fetches : Exchange → List (EntityId × Reply (Option Snapshot))
  | ⟨.snapshots _ _ ids _, replies⟩ => ids.zip replies.val
  | _ => []

def Target.Combines : Target → List Member → Snapshot → Prop
  | .entity _, members, snapshot => ∃ member, members = [member] ∧ snapshot = member.snapshot
  | .aggregate _, members, snapshot =>
      snapshot = Snapshot.aggregate (members.map Member.snapshot)

theorem Reading.of_ofEntity {id : EntityId} {found : Except Failure (List Member)}
    {snapshot : Snapshot} {members : List Member}
    (isRead : ofEntity id found = .available snapshot members) :
    found = .ok members ∧ ∃ member rest, members = member :: rest ∧ snapshot = member.snapshot := by
  unfold ofEntity at isRead
  split at isRead
  · cases isRead
  · cases isRead
    exact ⟨rfl, _, _, rfl, rfl⟩
  · cases isRead

theorem Reading.of_ofMembers {found : Except Failure (List Member)} {snapshot : Snapshot}
    {members : List Member} (isRead : ofMembers found = .available snapshot members) :
    found = .ok members ∧ members ≠ [] ∧
      snapshot = Snapshot.aggregate (members.map Member.snapshot) := by
  unfold ofMembers at isRead
  split at isRead
  · cases isRead
  · cases isRead
  · rename_i isSome
    cases isRead
    exact ⟨rfl, isSome, rfl⟩

namespace Agent

variable {agent : Agent} {limit : Span} {target : Target} {entities : List Entity}
  {exchanges : List Exchange} {reading : Reading} {id : EntityId}

def Resolves (agent : Agent) (target : Target) : Prop :=
  ∃ limit lookup targets, (agent.resolve limit).Ends lookup (.ok targets) ∧ target ∈ targets

def HasFound (agent : Agent) (exchanges : List Exchange) (id : EntityId) (snapshot : Snapshot) :
    Prop :=
  ∃ limit ids replies, ⟨.snapshots limit agent.workspace ids agent.requiredMetrics, replies⟩ ∈
    exchanges ∧ (id, .answered (.ok (some snapshot))) ∈ ids.zip replies.val

/-- What the members of a reading of a target are, and what is taken from them. -/
structure Reads (agent : Agent) (target : Target) (exchanges : List Exchange)
    (snapshot : Snapshot) (members : List Member) : Prop where
  nonempty : members ≠ []
  /-- A single entity is looked up again; several are those of a target that the agent has. -/
  admitted : (target.isAggregate = true → agent.Resolves target) →
    ∀ member ∈ members, agent.scope.filter.admits member.entity = true
  fetched : ∀ member ∈ members, ∃ found, agent.HasFound exchanges member.entity.id found ∧
    member.snapshot = found.deriveRatios
  combines : target.Combines members snapshot

/-- Whether a reading that some exchanges have made of a target says what they have found. -/
structure IsSound (agent : Agent) (target : Target) (exchanges : List Exchange)
    (reading : Reading) : Prop where
  available : ∀ snapshot members, reading = .available snapshot members →
    agent.Reads target exchanges snapshot members
  /-- A fetch that fails or takes too long leaves nothing available. -/
  unavailable : ∀ exchange ∈ exchanges, ∀ fetch ∈ exchange.fetches, fetch.2.succeeds = false →
    ∃ reason, reading = .unavailable reason
  /-- When no fetch fails, everything that is found takes part. -/
  complete : (∀ exchange ∈ exchanges, ∀ fetch ∈ exchange.fetches, fetch.2.succeeds = true) →
    ∀ exchange ∈ exchanges, ∀ id found,
      (id, .answered (.ok (some found))) ∈ exchange.fetches →
        ∃ snapshot members, reading = .available snapshot members ∧
          ∃ member ∈ members, member.entity.id = id ∧ member.snapshot = found.deriveRatios

/-- A reading that has fetched nothing is not available. -/
theorem isSound_unavailable (nothing : ∀ exchange ∈ exchanges, exchange.fetches = [])
    (reason : String) : agent.IsSound target exchanges (.unavailable reason) where
  available _ _ := nofun
  unavailable _ _ _ _ _ := ⟨reason, rfl⟩
  complete _ exchange isOne _ _ isFetch :=
    absurd isFetch (nothing exchange isOne ▸ List.not_mem_nil)

/-- The entities of a target that an agent has are those that its filter admits. -/
theorem admits_of_resolves (resolves : agent.Resolves (.aggregate entities)) :
    ∀ entity ∈ entities, agent.scope.filter.admits entity = true := by
  obtain ⟨limit, lookup, targets, ends, isTarget⟩ := resolves
  unfold resolve at ends
  split at ends
  · obtain ⟨reply, later, rfl, goesOn⟩ := Program.ends_ask_iff.1 ends
    split at goesOn
    · cases (Program.ends_done_iff.1 goesOn).2
    · cases (Program.ends_done_iff.1 goesOn).2
      cases List.mem_singleton.1 isTarget
      exact fun entity isOne => (List.mem_filter.1 isOne).2
  · cases (Program.ends_done_iff.1 ends).2
  · cases (Program.ends_done_iff.1 ends).2
    obtain ⟨id, -, wrong⟩ := List.mem_map.1 isTarget
    cases wrong

/-- A reading is sound when it takes its members from the fetches that it has made last. -/
theorem isSound_of_collect {earlier : List Exchange} {replies}
    (others : ∀ exchange ∈ earlier, exchange.fetches = [])
    (admits : (target.isAggregate = true → agent.Resolves target) →
      ∀ entity ∈ entities, agent.scope.filter.admits entity = true)
    (fails : ∀ failure, Member.collect limit (entities.zip replies.val) = .error failure →
      ∃ reason, reading = .unavailable reason)
    (succeeds : ∀ snapshot members, reading = .available snapshot members →
      Member.collect limit (entities.zip replies.val) = .ok members ∧ members ≠ [] ∧
        target.Combines members snapshot)
    (finds : ∀ members, Member.collect limit (entities.zip replies.val) = .ok members →
      members ≠ [] → ∃ snapshot, reading = .available snapshot members) :
    agent.IsSound target (⟨.snapshots limit agent.workspace (entities.map Entity.id)
      agent.requiredMetrics, replies⟩ :: earlier) reading where
  available snapshot members isRead := by
    obtain ⟨collected, nonempty, combines⟩ := succeeds snapshot members isRead
    refine ⟨nonempty, fun resolves member isMember => ?_, fun member isMember => ?_, combines⟩
    · exact admits resolves _ (Member.found_of_collect collected isMember).1
    · obtain ⟨-, found, isFetch, same⟩ := Member.found_of_collect collected isMember
      exact ⟨found, ⟨limit, _, replies, List.mem_cons_self, isFetch⟩, same⟩
  unavailable := by
    refine List.forall_mem_cons.2 ⟨fun fetch isFetch failed => ?_, fun exchange isOther => ?_⟩
    · obtain ⟨failure, collected⟩ := Member.collect_of_fails isFetch failed
      exact fails failure collected
    · rw [others exchange isOther]
      exact List.forall_mem_nil _
  complete succeed exchange isOne id found isFetch := by
    rcases List.mem_cons.1 isOne with rfl | isOther
    · have own := (List.forall_mem_cons.1 succeed).1
      obtain ⟨members, collected, member, isMember, isFound⟩ :=
        Member.collect_of_found own isFetch
      obtain ⟨snapshot, isRead⟩ := finds members collected (List.ne_nil_of_mem isMember)
      exact ⟨snapshot, members, isRead, member, isMember, isFound⟩
    · rw [others exchange isOther] at isFetch
      cases isFetch

theorem readEntity_isSound (ends : (agent.readEntity limit id).Ends exchanges reading) :
    agent.IsSound (.entity id) exchanges reading := by
  obtain ⟨reply, later, rfl, goesOn⟩ := Program.ends_ask_iff.1 ends
  split at goesOn
  · obtain ⟨rfl, rfl⟩ := Program.ends_done_iff.1 goesOn
    exact isSound_unavailable (List.forall_mem_singleton.2 rfl) _
  · obtain ⟨rfl, rfl⟩ := Program.ends_done_iff.1 goesOn
    exact isSound_unavailable (List.forall_mem_singleton.2 rfl) _
  · rename_i entity isFound
    split at goesOn
    · rename_i admits
      obtain ⟨found, none, early, rfl, fetches, returns⟩ := Program.ends_bind_iff.1 goesOn
      obtain ⟨rfl, rfl⟩ := Program.ends_done_iff.1 returns
      obtain ⟨replies, rfl, rfl⟩ := Member.ends_fetch fetches
      refine isSound_of_collect (List.forall_mem_singleton.2 rfl) ?_ ?_ ?_ ?_
      · exact fun _ => List.forall_mem_singleton.2 admits
      · intro failure failed
        rw [failed]
        exact ⟨_, rfl⟩
      · intro snapshot members isRead
        obtain ⟨collected, member, rest, rfl, same⟩ := Reading.of_ofEntity isRead
        have isAlone : rest = [] := by simpa using Member.length_le_of_collect collected
        exact ⟨collected, List.cons_ne_nil _ _, member, isAlone ▸ rfl, same⟩
      · intro members collected nonempty
        obtain ⟨member, rest, rfl⟩ := List.exists_cons_of_ne_nil nonempty
        rw [collected]
        exact ⟨_, rfl⟩
    · obtain ⟨rfl, rfl⟩ := Program.ends_done_iff.1 goesOn
      exact isSound_unavailable (List.forall_mem_singleton.2 rfl) _

theorem readAggregate_isSound
    (ends : (agent.readAggregate limit entities).Ends exchanges reading) :
    agent.IsSound (.aggregate entities) exchanges reading := by
  unfold readAggregate at ends
  split at ends
  · obtain ⟨rfl, rfl⟩ := Program.ends_done_iff.1 ends
    exact isSound_unavailable (List.forall_mem_nil _) _
  · obtain ⟨found, none, early, rfl, fetches, returns⟩ := Program.ends_bind_iff.1 ends
    obtain ⟨rfl, rfl⟩ := Program.ends_done_iff.1 returns
    obtain ⟨replies, rfl, rfl⟩ := Member.ends_fetch fetches
    refine isSound_of_collect (List.forall_mem_nil _) ?_ ?_ ?_ ?_
    · exact fun resolves => admits_of_resolves (resolves rfl)
    · intro failure failed
      rw [failed]
      exact ⟨_, rfl⟩
    · exact fun snapshot members => Reading.of_ofMembers
    · intro members collected nonempty
      obtain ⟨member, rest, rfl⟩ := List.exists_cons_of_ne_nil nonempty
      rw [collected]
      exact ⟨_, rfl⟩

/-- Whatever the provider answers, a reading says what was found. -/
theorem read_isSound (ends : (agent.read limit target).Ends exchanges reading) :
    agent.IsSound target exchanges reading := by
  cases target with
  | aggregate entities => exact readAggregate_isSound ends
  | entity id => exact readEntity_isSound ends

end Agent

/-! ## Campaigns -/

namespace Call

def campaign? : Call → Option CampaignId
  | .platform _ query => some query.campaign
  | _ => none

def StaysIn (campaigns : List CampaignId) (call : Call) : Prop :=
  call.campaign?.all (· ∈ campaigns) = true

theorem ActsOn.staysIn {campaigns : List CampaignId} {call : Call}
    (actsOn : call.ActsOn campaigns) : call.StaysIn campaigns := by
  cases call with
  | platform limit query => exact decide_eq_true actsOn
  | _ => rfl

theorem eq_platform {call : Call} {campaign : CampaignId}
    (isAbout : call.campaign? = some campaign) : ∃ limit query, call = .platform limit query := by
  cases call with
  | platform limit query => exact ⟨limit, query, rfl⟩
  | _ => cases isAbout

end Call

namespace Visit

variable {visit : Visit} {history : List Exchange} {newest : Exchange}
  {final : Program (Option TargetReport)}

theorem announce_staysIn (campaigns : List CampaignId) (records : List ActionRecord) :
    (visit.announce records).Uses (Call.StaysIn campaigns) fun _ => True := by
  induction records with
  | nil => trivial
  | cons record rest ih => exact Program.Uses.ask rfl fun _ => ih

theorem fire_staysIn (firing : Firing) :
    (visit.fire firing).Uses (Call.StaysIn firing.reach) fun _ => True := by
  refine Program.Uses.ask rfl fun _ => ?_
  refine ((firing.run_uses _).weaken (fun _ => Call.ActsOn.staysIn) fun _ => id).bind ?_
  exact fun records _ => (announce_staysIn _ records).bind fun _ _ => trivial

/-- A visit that has read metrics asks the platform about the campaigns of its members only. -/
theorem finish_staysIn (step : Step) (snapshot : Snapshot) (members : List Member) :
    (visit.finish step snapshot members).Uses
      (Call.StaysIn (members.map fun member => member.entity.campaign)) fun _ => True := by
  refine Program.Uses.ask rfl fun answer => ?_
  cases answer with
  | error failure => exact Program.Uses.ask rfl fun _ => trivial
  | ok done =>
      refine Program.Uses.ask rfl fun _ => ?_
      cases step.decision.fires with
      | false => trivial
      | true => exact (fire_staysIn (visit.firing snapshot members _)).bind fun _ _ => trivial

/-- A visit that asks the platform about a campaign has read a member that the campaign is of. -/
theorem reads_of_campaign {campaign : CampaignId}
    (isAbout : newest.call.campaign? = some campaign)
    (leads : visit.run.Leads (newest :: history) final) :
    ∃ readings ⊆ history, ∃ snapshot members,
      (visit.agent.read visit.settings.fetchLimit visit.target).Ends readings
        (.available snapshot members) ∧
      ∃ member ∈ members, member.entity.campaign = campaign := by
  obtain ⟨limit, query, isPlatform⟩ := Call.eq_platform isAbout
  obtain ⟨lock, loaded, readings, snapshot, members, step, later, middle, rfl, -, read, -,
    finishes⟩ := finish_of_action (isPlatform ▸ trivial) leads
  have staysIn := ((finish_staysIn _ snapshot members).leads finishes).1 newest List.mem_cons_self
  rw [Call.StaysIn, isAbout] at staysIn
  obtain ⟨member, isMember, same⟩ := List.mem_map.1 (of_decide_eq_true staysIn)
  refine ⟨readings, fun exchange found => ?_, snapshot, members, read, member, isMember, same⟩
  exact List.mem_append_right _ (List.mem_append_left _ found)

end Visit

end AdMonitor
