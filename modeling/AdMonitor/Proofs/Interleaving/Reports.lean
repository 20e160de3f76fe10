import AdMonitor.Proofs.Interleaving.Solo
import AdMonitor.Proofs.Visit.Alike
import AdMonitor.Proofs.Visit.Decision

/-!
# What a tick reports of one agent

The report of a tick joins the outcomes of its agents, and what it says of one
agent is the outcome of that agent, in an order that only depends on keys.
-/

namespace AdMonitor

variable {settings : Settings} {slot : Slot} {index : Nat} {history : History} {agent : Agent}
  {report : TickReport}

namespace TickReport

def targetsOf (id : AgentId) (report : TickReport) : List TargetReport :=
  report.targets.filter fun own => own.key.agent == id

def failuresOf (id : AgentId) (report : TickReport) : List AgentFailure :=
  report.failures.filter fun failure => failure.agent == id

end TickReport

/-- Of related lists, the item that belongs to a name is between items that belong to others. -/
theorem forall₂_split {α β γ : Type} {R : α → β → Prop} {left : List α} {right : List β}
    {name : α → γ} (all : List.Forall₂ R left right) (nodup : (left.map name).Nodup) {a : α}
    (found : a ∈ left) : ∃ b before after, right = before ++ b :: after ∧ R a b ∧
      ∀ other ∈ before ++ after, ∃ own, name own ≠ name a ∧ R own other := by
  induction all with
  | nil => cases found
  | @cons first item rest items related all ih =>
      obtain ⟨isNew, nodup⟩ := List.nodup_cons.1 nodup
      rcases List.mem_cons.1 found with rfl | later
      · refine ⟨item, [], items, rfl, related, fun other isOther => ?_⟩
        obtain ⟨own, isOwn, related⟩ := forall₂_left all.flip isOther
        exact ⟨own, fun same => isNew (same ▸ List.mem_map_of_mem isOwn), related⟩
      · obtain ⟨b, before, after, rfl, isRelated, others⟩ := ih nodup later
        refine ⟨b, item :: before, after, rfl, isRelated, ?_⟩
        refine List.forall_mem_cons.2 ⟨⟨first, fun same => isNew ?_, related⟩, others⟩
        exact same ▸ List.mem_map_of_mem later

/-- Filtering joined lists for what an item owns leaves the list of that item. -/
theorem filter_flatMap {β γ : Type} (parts : β → List γ) {owns : γ → Bool} {b : β}
    {before after : List β} (own : ∀ item ∈ parts b, owns item = true)
    (others : ∀ other ∈ before ++ after, ∀ item ∈ parts other, owns item = false) :
    ((before ++ b :: after).flatMap parts).filter owns = parts b := by
  have nothing : ∀ list ⊆ before ++ after, (list.flatMap parts).filter owns = [] := by
    intro list isPart
    refine List.filter_eq_nil_iff.2 fun item found => ?_
    obtain ⟨other, isOther, isItem⟩ := List.mem_flatMap.1 found
    rw [others other (isPart isOther) item isItem]
    exact Bool.false_ne_true
  rw [List.flatMap_append, List.flatMap_cons, List.filter_append, List.filter_append,
    nothing before (List.subset_append_left ..), nothing after (List.subset_append_right ..),
    List.filter_eq_self.2 own, List.append_nil, List.nil_append]

namespace Agent

/-- The visits of an agent report on its targets, each on its own. -/
theorem Visited.keys {targets : List Target} {reports : List TargetReport}
    (visited : agent.Visited settings slot index history targets (reports.map (.done ∘ some))) :
    reports.map TargetReport.key = targets.map fun target => ⟨agent.id, target.key⟩ := by
  have each := List.forall₂_map_right_iff.1 visited.each
  clear visited
  induction each with
  | nil => rfl
  | cons traced each ih =>
      rw [List.map_cons, List.map_cons, ih, (Visit.report_of_ends traced.leads).1]
      rfl

/-- What an agent came to is about this agent. -/
theorem Yields.about [UrlParser] {outcome : AgentOutcome}
    (yields : agent.Yields settings slot index history outcome) :
    (∀ own ∈ outcome.targets, own.key.agent = agent.id) ∧
      ∀ failure ∈ outcome.failure.toList, failure.agent = agent.id := by
  cases yields with
  | failed failure opened unvisited =>
      refine ⟨List.forall_mem_nil _, ?_⟩
      rintro own isOwn
      rw [List.mem_singleton.1 isOwn]
  | finished targets reports collected later early parts opened visited closed =>
      refine ⟨fun own isOwn => ?_, List.forall_mem_nil _⟩
      have isKey := visited.keys ▸ List.mem_map_of_mem isOwn
      obtain ⟨target, -, same⟩ := List.mem_map.1 isKey
      rw [← same]

end Agent

/-- Whether reports are in the order of their keys. -/
def TargetReport.AreSorted (reports : List TargetReport) : Prop :=
  reports.Pairwise fun report other => (compare report.key other.key).isLE = true

namespace TickReport

theorem sorted_ofOutcomes (startedAt finishedAt : Instant) (outcomes : List AgentOutcome)
    (collected : Nat) :
    TargetReport.AreSorted (ofOutcomes slot startedAt finishedAt outcomes collected).targets := by
  refine List.pairwise_mergeSort (fun first second third => Std.TransCmp.isLE_trans) ?_ _
  intro first second
  rw [← Std.OrientedCmp.isGE_eq_isLE]
  cases compare second.key first.key <;> rfl

/-- Reports in the order of their keys are the same when they are those of the same targets. -/
theorem targetsOf_untimed {id : AgentId} {first second : TickReport}
    {left right : List TargetReport} (isFirst : (first.targetsOf id).Perm left)
    (isSecond : (second.targetsOf id).Perm right)
    (firstSorted : TargetReport.AreSorted first.targets)
    (secondSorted : TargetReport.AreSorted second.targets)
    (nodup : (left.map TargetReport.key).Nodup)
    (same : left.map TargetReport.untimed = right.map TargetReport.untimed) :
    (first.targetsOf id).map TargetReport.untimed =
      (second.targetsOf id).map TargetReport.untimed := by
  have keys : (left.map TargetReport.untimed).map TargetReport.key = left.map TargetReport.key := by
    rw [List.map_map]
    rfl
  have sorted : ∀ report : TickReport, TargetReport.AreSorted report.targets →
      TargetReport.AreSorted ((report.targetsOf id).map TargetReport.untimed) :=
    fun report isSorted => (isSorted.filter _).map _ fun _ _ isLE => isLE
  have areLeft := isFirst.map TargetReport.untimed
  have areRight := isSecond.map TargetReport.untimed
  rw [← same] at areRight
  refine List.Perm.eq_of_pairwise (fun report other isReport isOther below above => ?_)
    (sorted first firstSorted) (sorted second secondSorted) (areLeft.trans areRight.symm)
  refine List.inj_on_of_nodup_map (keys ▸ nodup) (areLeft.subset isReport)
    (areRight.subset isOther) ?_
  exact Std.LawfulEqCmp.eq_of_compare (Std.OrientedCmp.isLE_antisymm below above)

end TickReport

/-- What a tick reports of an agent is what the agent came to. -/
theorem Pool.Traced.reports [UrlParser] {agents : List Agent} {pool : Pool Program}
    (worked : pool.Traced settings slot index history agents) (isDone : pool.isDone = true)
    (isAgent : agent ∈ agents) {startedAt finishedAt : Instant} {collected : Nat} :
    ∃ outcome, agent.Yields settings slot index history outcome ∧
      let report := TickReport.ofOutcomes slot startedAt finishedAt pool.outcomes collected
      (report.targetsOf agent.id).Perm outcome.targets ∧
        report.failuresOf agent.id = outcome.failure.toList := by
  obtain ⟨finished, isPerm, yields⟩ := worked.yields isDone
  have nodup : (finished.map Agent.id).Nodup := (isPerm.map Agent.id).nodup_iff.2 worked.nodup
  obtain ⟨outcome, before, after, parts, isOwn, others⟩ :=
    forall₂_split yields nodup (isPerm.symm.subset isAgent)
  refine ⟨outcome, isOwn, ?_, ?_⟩
  · refine ((List.mergeSort_perm ..).filter _).trans (.of_eq ?_)
    rw [parts]
    refine filter_flatMap _ (fun own isOwnReport => ?_) fun other isOther report isReport => ?_
    · exact beq_iff_eq.2 (isOwn.about.1 own isOwnReport)
    · obtain ⟨own, differs, yields⟩ := others other isOther
      rw [yields.about.1 report isReport]
      exact beq_eq_false_iff_ne.2 differs
  · have isPerm : ((TickReport.ofOutcomes slot startedAt finishedAt pool.outcomes
        collected).failuresOf agent.id).Perm outcome.failure.toList := by
      refine ((List.mergeSort_perm ..).filter _).trans (.of_eq ?_)
      rw [List.filterMap_eq_flatMap_toList, parts]
      refine filter_flatMap (fun outcome : AgentOutcome => outcome.failure.toList)
        (fun failure isFailure => ?_) fun other isOther failure isFailure => ?_
      · exact beq_iff_eq.2 (isOwn.about.2 failure isFailure)
      · obtain ⟨own, differs, yields⟩ := others other isOther
        rw [yields.about.2 failure isFailure]
        exact beq_eq_false_iff_ne.2 differs
    cases isFailure : outcome.failure with
    | none =>
        rw [isFailure] at isPerm
        exact isPerm.eq_nil
    | some failure =>
        rw [isFailure] at isPerm
        exact List.perm_singleton.1 isPerm

end AdMonitor
