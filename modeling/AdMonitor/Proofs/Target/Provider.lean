import AdMonitor.Proofs.Visit.Reading

/-!
# Providers that do not change

Resolving and reading targets asks only the provider of entities and metrics.
When this answers every question alike, also one of several that are asked at
the same time, its answers settle which targets an agent has and what their
readings are.
-/

namespace AdMonitor

/-- How a provider answers questions that have a time limit. -/
abbrev Provider := Span → (query : MetricsQuery) → Reply query.Answer

def Account.provider (account : Account) : Provider :=
  fun _ query => .answered (.ok (query.answer account))

/-- The answer of a provider when the metrics that an agent requires of an entity are fetched. -/
def Provider.metricsOf (provider : Provider) (limit : Span) (agent : Agent) (entity : Entity) :
    Reply (Option Snapshot) :=
  provider limit (.snapshot ⟨agent.workspace, entity.id⟩ agent.requiredMetrics)

namespace Program

variable {α β : Type} {provider : Provider}

/-- What a program comes to by the answers of a provider, as long as it asks nobody else. -/
def consult (provider : Provider) : Program α → Option α
  | .done value => some value
  | .call (.metrics limit query) next => (next (provider limit query)).consult provider
  | .call (.snapshots limit workspace ids names) next =>
      let replies := ids.map fun id => provider limit (.snapshot ⟨workspace, id⟩ names)
      (next ⟨replies, List.length_map _⟩).consult provider
  | .call _ _ => none

theorem consult_bind (program : Program α) (rest : α → Program β) :
    (program >>= rest).consult provider =
      (program.consult provider).bind fun value => (rest value).consult provider := by
  induction program with
  | done value => rfl
  | call request next ih =>
      cases request with
      | metrics | snapshots => exact ih _
      | _ => rfl

theorem consult_ask {limit : Span} {query : MetricsQuery} (rest : Reply query.Answer → Program α) :
    (Program.ask (.metrics limit query) >>= rest).consult provider =
      (rest (provider limit query)).consult provider := rfl

end Program

/-- Whether these are the metrics that are found of an entity. -/
def Provider.Finds (provider : Provider) (limit : Span) (agent : Agent) (entity : Entity)
    (found : Snapshot) : Prop :=
  provider.metricsOf limit agent entity = .answered (.ok (some found))

def Provider.members (provider : Provider) (limit : Span) (agent : Agent)
    (entities : List Entity) : Except Failure (List Member) :=
  Member.collect limit (entities.map fun entity => (entity, provider.metricsOf limit agent entity))

namespace Agent

variable {provider : Provider} {limit : Span} {agent : Agent} {entities : List Entity}
  {entity : Entity} {id : EntityId}

theorem consult_fetch :
    (Member.fetch limit agent.workspace agent.requiredMetrics entities).consult provider =
      some (provider.members limit agent entities) := by
  have replies : entities.zip ((entities.map Entity.id).map fun id =>
      provider limit (.snapshot ⟨agent.workspace, id⟩ agent.requiredMetrics)) =
        entities.map fun entity => (entity, provider.metricsOf limit agent entity) := by
    induction entities with
    | nil => rfl
    | cons first rest ih => exact congrArg (_ :: ·) ih
  exact congrArg (fun fetches => some (Member.collect limit fetches)) replies

theorem consult_resolve_all (isAll : agent.scope.selection = .all true)
    (lists : provider limit (.list agent.workspace agent.scope.filter) =
      .answered (.ok entities)) :
    (agent.resolve limit).consult provider =
      some (.ok [.aggregate (entities.filter agent.scope.filter.admits)]) := by
  rw [resolve, isAll]
  refine (Program.consult_ask _).trans ?_
  rw [lists]
  rfl

theorem consult_resolve_listed {ids : List EntityId}
    (isListed : agent.scope.selection = .listed ids) :
    (agent.resolve limit).consult provider = some (.ok (ids.eraseDups.map .entity)) := by
  rw [resolve, isListed, Scope.distinctIds, isListed]
  rfl

theorem consult_readAggregate (areSome : entities ≠ []) :
    (agent.readAggregate limit entities).consult provider =
      some (.ofMembers (provider.members limit agent entities)) := by
  cases entities with
  | nil => exact absurd rfl areSome
  | cons first rest =>
      change (Member.fetch limit agent.workspace agent.requiredMetrics _ >>= _).consult _ = _
      rw [Program.consult_bind, consult_fetch]
      rfl

theorem consult_readEntity
    (finds : provider limit (.entity ⟨agent.workspace, id⟩) = .answered (.ok (some entity)))
    (admits : agent.scope.filter.admits entity = true) :
    (agent.readEntity limit id).consult provider =
      some (.ofEntity id (provider.members limit agent [entity])) := by
  refine (Program.consult_ask _).trans ?_
  rw [finds]
  dsimp only [Reply.metrics]
  rw [if_pos admits, Program.consult_bind, consult_fetch]
  rfl

/-- An agent that watches the return of all campaigns together. -/
def gauge : Agent where
  id := "a"
  workspace := "w"
  name := "gauge"
  status := .active
  scope := ⟨⟨none, .campaign⟩, .all true⟩
  condition := .threshold "roas" .above 2
  accumulation := ⟨1, .evaluations, .consecutive, none⟩
  trigger := ⟨.once, 0⟩
  actions := [.email]
  createdAt := default
  updatedAt := default
  lastEvaluatedAt := none

def exampleCampaign (id : EntityId) : Entity := ⟨id, id, .google, .campaign, none⟩

end Agent

end AdMonitor
