import AdMonitor.Proofs.Interleaving.Shared
import AdMonitor.Proofs.Visit.Stage

/-!
# Lock discipline

Locks are numbered and no number is given out twice, so a lock belongs to one
name for ever, even when the name has come to stand for another one.  Processes
that take a lock only when it is free, and release only what they hold, exclude
each other (`LockDiscipline`).  Whether a name stands for one lock only is a
separate question, which `LockTable.lookup` answers.
-/

namespace AdMonitor

namespace LockTable

variable {table : LockTable} {name other : LockName} {lock : LockId}

theorem find_cases (table : LockTable) (name : LockName) :
    (∃ lock, table.find name = (lock, table) ∧ table.lookup name = some lock ∧
        (name, lock) ∈ table.names) ∨
      (table.find name = (table.locks.length,
          ⟨(name, table.locks.length) :: table.names, table.locks ++ [⟨none, [], 0⟩]⟩) ∧
        table.lookup name = none) := by
  cases found : table.names.find? (fun e => e.1 == name) with
  | none => exact Or.inr (by simp [find, lookup, found])
  | some entry =>
      obtain ⟨own, lock⟩ := entry
      have isName : own = name := by simpa using List.find?_some found
      subst isName
      exact Or.inl ⟨lock, by simp [find, found], by simp [lookup, found],
        List.mem_of_find?_eq_some found⟩

/-- Finding a lock settles what its name stands for, and no other name. -/
theorem lookup_find :
    (table.find name).2.lookup other =
      if other = name then some (table.find name).1 else table.lookup other := by
  rcases find_cases table name with ⟨lock, found, known, -⟩ | ⟨found, unknown⟩
  · by_cases same : other = name
    · simp [found, same, known]
    · simp [found, same]
  · by_cases same : other = name
    · simp [found, same, lookup]
    · simp [found, same, lookup, Ne.symm same]

theorem find_of_lookup (known : table.lookup name = some lock) :
    table.find name = (lock, table) := by
  rcases find_cases table name with ⟨own, found, same, -⟩ | ⟨-, unknown⟩
  · rw [known] at same
    cases same
    exact found
  · rw [known] at unknown
    cases unknown

/-- A name that is not forgotten stands for the same lock as before. -/
theorem lookup_forget {agent : AgentId} {keep : List TargetKey}
    (kept : isForgotten agent keep name = false) :
    (table.forget agent keep).lookup name = table.lookup name := by
  unfold lookup forget
  rw [List.find?_filter]
  congr 2
  funext entry
  by_cases same : entry.1 = name
  · simp [same, kept]
  · simp [same]

theorem isFree_modify {change : Lock → Lock} {first second : LockId}
    (distinct : second ≠ first) :
    (table.modify first change).isFree second = table.isFree second := by
  simp [isFree, modify, distinct.symm]

theorem not_isFree_enter (isFree : table.isFree lock = true) (ticket : Ticket) :
    (table.enter lock ticket).isFree lock = false := by
  unfold LockTable.isFree at isFree ⊢
  cases found : table.locks[lock]? with
  | none => simp [found] at isFree
  | some l =>
      cases holder : l.holder with
      | none => simp [enter, modify, found, holder]
      | some ticket => simp [found, holder] at isFree

theorem isFree_append {locks : List Lock} {names : List (LockName × LockId)}
    (exists_lock : lock < table.locks.length) :
    LockTable.isFree ⟨names, table.locks ++ locks⟩ lock = table.isFree lock := by
  simp [isFree, List.getElem?_append_left exists_lock]

end LockTable

abbrev NamedLock := LockName × LockId

/--
What an exchange does to the locks that a process knows and to those it holds:
it finds one, takes one that it knows, releases one that it holds, or none of these.
-/
inductive LockMove (known held known' held' : List NamedLock) : Exchange → Prop where
  | find (name : LockName) (lock : LockId)
      (learns : ∀ e, e ∈ known' ↔ e ∈ known ∨ e = (name, lock)) (same : held' = held) :
      LockMove known held known' held' ⟨.lock (.find name), lock⟩
  | enter (name : LockName) (lock : LockId) (isKnown : (name, lock) ∈ known)
      (same : known' = known) (takes : ∀ e, e ∈ held' ↔ e ∈ held ∨ e = (name, lock)) :
      LockMove known held known' held' ⟨.lock (.acquire lock), ()⟩
  | leave (name : LockName) (lock : LockId) (isHeld : (name, lock) ∈ held)
      (unlearns : ∀ e, e ∈ known' ↔ e ∈ known ∧ e ≠ (name, lock))
      (releases : ∀ e, e ∈ held' ↔ e ∈ held ∧ e ≠ (name, lock)) :
      LockMove known held known' held' ⟨.lock (.release lock), ()⟩
  | other (exchange : Exchange) (isOther : ∀ query, exchange.call ≠ .lock query)
      (sameKnown : known' = known) (sameHeld : held' = held) :
      LockMove known held known' held' exchange

namespace VisitStage

/-- The locks that a visit under a key has found and not given back. -/
def known (key : StateKey) : VisitStage → List NamedLock
  | .idle | .left => []
  | .acting lock (.located campaign own) | .acting lock (.held campaign own) =>
      [(.target key, lock), (.campaign campaign, own)]
  | .located lock | .locked lock | .loaded lock _ | .saved lock _ | .due lock
  | .acting lock .none | .leaving lock => [(.target key, lock)]

def held (key : StateKey) : VisitStage → List NamedLock
  | .idle | .left | .located _ => []
  | .acting lock (.held campaign own) => [(.target key, lock), (.campaign campaign, own)]
  | .locked lock | .loaded lock _ | .saved lock _ | .due lock
  | .acting lock .none | .acting lock (.located ..) | .leaving lock => [(.target key, lock)]

end VisitStage

theorem VisitStep.lockMove {visit : Visit} {before after : VisitStage} {exchange : Exchange}
    (step : VisitStep visit before exchange after) :
    LockMove (before.known visit.key) (before.held visit.key) (after.known visit.key)
      (after.held visit.key) exchange := by
  cases step with
  | locate lock => exact .find (.target visit.key) lock (by simp [VisitStage.known]) rfl
  | enter lock =>
      exact .enter (.target visit.key) lock (by simp [VisitStage.known]) rfl
        (by simp [VisitStage.held])
  | locateCampaign lock campaign own =>
      exact .find (.campaign campaign) own (by simp [VisitStage.known]) rfl
  | enterCampaign lock campaign own =>
      exact .enter (.campaign campaign) own (by simp [VisitStage.known]) rfl
        (by simp [VisitStage.held])
  | leaveCampaign lock campaign own =>
      refine .leave (.campaign campaign) own (by simp [VisitStage.held]) ?_ ?_
      · rintro ⟨name, lock⟩
        simp [VisitStage.known]
        grind
      · rintro ⟨name, lock⟩
        simp [VisitStage.held]
        grind
  | overflow lock | finish lock | leave lock =>
      exact .leave (.target visit.key) lock (by simp [VisitStage.held])
        (by simp [VisitStage.known]) (by simp [VisitStage.held])
  | read lock stored exchange isReading =>
      exact .other _ (fun query isLock => by simp [isLock, Call.IsReading] at isReading) rfl rfl
  | act lock exchange isErrand =>
      exact .other _ (fun query isLock => by simp [isLock, Call.IsErrand] at isErrand) rfl rfl
  | change lock campaign own exchange concerns =>
      exact .other _ (fun query isLock => by simp [isLock, Call.Concerns] at concerns) rfl rfl
  | _ => exact .other _ (fun query => nofun) rfl rfl

section Others

variable {ι : Type} {p : ι} {before after : ι → List NamedLock}
  (others : ∀ q, q ≠ p → after q = before q)

include others

theorem eq_of_others (same : after p = before p) : after = before := by
  funext q
  by_cases isP : q = p
  · rw [isP, same]
  · exact others q isP

/-- Nobody has gained a lock but the one process that has moved. -/
theorem mem_of_others {P : NamedLock → Prop} (own : ∀ e, e ∈ after p → e ∈ before p ∨ P e)
    (q : ι) (e : NamedLock) (found : e ∈ after q) : e ∈ before q ∨ q = p ∧ P e := by
  by_cases isP : q = p
  · subst isP
    exact (own e found).imp_right fun isNew => ⟨rfl, isNew⟩
  · rw [others q isP] at found
    exact Or.inl found

end Others

/-- Whether a lock was found for a name that still stands for it, or that someone knows it by. -/
def LockTable.IsBound {ι : Type} (table : LockTable) (known : ι → List NamedLock)
    (e : NamedLock) : Prop :=
  e ∈ table.names ∨ ∃ p, e ∈ known p

/-- What keeps processes apart that know some locks and hold some of those. -/
structure LockDiscipline {ι : Type} (table : LockTable) (known held : ι → List NamedLock) :
    Prop where
  known_of_held : ∀ p e, e ∈ held p → e ∈ known p
  exists_lock : ∀ e, table.IsBound known e → e.2 < table.locks.length
  name_eq : ∀ name other lock, table.IsBound known (name, lock) →
    table.IsBound known (other, lock) → name = other
  not_free : ∀ p e, e ∈ held p → table.isFree e.2 = false
  exclusive : ∀ p q e, e ∈ held p → e ∈ held q → p = q

namespace LockDiscipline

variable {ι : Type} {table : LockTable} {known held known' held' : ι → List NamedLock} {p : ι}

theorem empty : LockDiscipline .empty (fun _ : ι => []) (fun _ => []) where
  known_of_held := nofun
  exists_lock := by simp [LockTable.IsBound, LockTable.empty]
  name_eq := by simp [LockTable.IsBound, LockTable.empty]
  not_free := nofun
  exclusive := nofun

/-- Forgetting names affects nobody who knows or holds a lock. -/
theorem forget (discipline : LockDiscipline table known held) (agent : AgentId)
    (keep : List TargetKey) : LockDiscipline (table.forget agent keep) known held := by
  have bound : ∀ e, (table.forget agent keep).IsBound known e → table.IsBound known e := by
    rintro e (named | isKnown)
    · exact Or.inl ((List.mem_filter.1 named).1)
    · exact Or.inr isKnown
  exact {
    known_of_held := discipline.known_of_held
    exists_lock := fun e isBound => discipline.exists_lock e (bound e isBound)
    name_eq := fun name other lock first second =>
      discipline.name_eq name other lock (bound _ first) (bound _ second)
    not_free := discipline.not_free
    exclusive := discipline.exclusive }

section Move

variable (discipline : LockDiscipline table known held)
  (others : ∀ q, q ≠ p → known' q = known q ∧ held' q = held q)

include discipline others

theorem find {name : LockName}
    (learns : ∀ e, e ∈ known' p ↔ e ∈ known p ∨ e = (name, (table.find name).1))
    (same : held' p = held p) : LockDiscipline (table.find name).2 known' held' := by
  have knows : ∀ q e, e ∈ known' q → e ∈ known q ∨ e = (name, (table.find name).1) := by
    intro q e isKnown
    have gained := mem_of_others (fun q isOther => (others q isOther).1) (fun e => (learns e).1)
    exact (gained q e isKnown).imp_right And.right
  have holds : held' = held := eq_of_others (fun q isOther => (others q isOther).2) same
  have remembers : ∀ q e, e ∈ held q → e ∈ known' q := by
    intro q e isHeld
    have isKnown := discipline.known_of_held q e isHeld
    by_cases isP : q = p
    · subst isP
      exact (learns e).2 (Or.inl isKnown)
    · rwa [(others q isP).1]
  subst holds
  rcases LockTable.find_cases table name with ⟨lock, found, -, named⟩ | ⟨found, -⟩
  · have bound : ∀ e, table.IsBound known' e → table.IsBound known e := by
      rintro e (isNamed | ⟨q, isKnown⟩)
      · exact Or.inl isNamed
      · rcases knows q e isKnown with old | rfl
        · exact Or.inr ⟨q, old⟩
        · rw [found]
          exact Or.inl named
    rw [found]
    exact {
      known_of_held := remembers
      exists_lock := fun e isBound => discipline.exists_lock e (bound e isBound)
      name_eq := fun name other lock first second =>
        discipline.name_eq name other lock (bound _ first) (bound _ second)
      not_free := discipline.not_free
      exclusive := discipline.exclusive }
  · rw [found] at knows ⊢
    have bound : ∀ e,
        LockTable.IsBound ⟨(name, table.locks.length) :: table.names,
          table.locks ++ [⟨none, [], 0⟩]⟩ known' e →
        table.IsBound known e ∨ e = (name, table.locks.length) := by
      rintro e (isNamed | ⟨q, isKnown⟩)
      · rcases List.mem_cons.1 isNamed with isNew | old
        · exact Or.inr isNew
        · exact Or.inl (Or.inl old)
      · rcases knows q e isKnown with old | isNew
        · exact Or.inl (Or.inr ⟨q, old⟩)
        · exact Or.inr isNew
    refine {
      known_of_held := remembers, exists_lock := ?_, name_eq := ?_, not_free := ?_
      exclusive := discipline.exclusive }
    · intro e isBound
      rw [List.length_append]
      rcases bound e isBound with old | rfl
      · exact Nat.lt_succ_of_lt (discipline.exists_lock e old)
      · exact Nat.lt_succ_self _
    · intro first second lock firstBound secondBound
      rcases bound _ firstBound with old | isNew <;>
        rcases bound _ secondBound with old' | isNew'
      · exact discipline.name_eq first second lock old old'
      · have below := discipline.exists_lock _ old
        exact absurd (Prod.mk.inj isNew').2 (Nat.ne_of_lt below)
      · have below := discipline.exists_lock _ old'
        exact absurd (Prod.mk.inj isNew).2 (Nat.ne_of_lt below)
      · rw [(Prod.mk.inj isNew).1, (Prod.mk.inj isNew').1]
    · intro q e isHeld
      have isBound := discipline.known_of_held q e isHeld
      rw [LockTable.isFree_append (discipline.exists_lock e (Or.inr ⟨q, isBound⟩))]
      exact discipline.not_free q e isHeld

theorem enter {name : LockName} {lock : LockId} (isFree : table.isFree lock = true)
    (isKnown : (name, lock) ∈ known p) (same : known' p = known p)
    (takes : ∀ e, e ∈ held' p ↔ e ∈ held p ∨ e = (name, lock)) :
    LockDiscipline (table.enter lock 0) known' held' := by
  have knows : known' = known := eq_of_others (fun q isOther => (others q isOther).1) same
  have holds : ∀ q e, e ∈ held' q → e ∈ held q ∨ q = p ∧ e = (name, lock) :=
    mem_of_others (fun q isOther => (others q isOther).2) fun e => (takes e).1
  have notHeld : ∀ q e, e ∈ held q → e.2 ≠ lock := by
    rintro q ⟨other, _⟩ isHeld rfl
    have notFree := discipline.not_free q _ isHeld
    simp [isFree] at notFree
  subst knows
  refine { known_of_held := ?_, exists_lock := ?_, name_eq := ?_, not_free := ?_, exclusive := ?_ }
  · intro q e isHeld
    rcases holds q e isHeld with old | ⟨rfl, rfl⟩
    · exact discipline.known_of_held q e old
    · exact isKnown
  · intro e isBound
    simpa [LockTable.enter, LockTable.modify] using discipline.exists_lock e isBound
  · exact discipline.name_eq
  · intro q e isHeld
    rcases holds q e isHeld with old | ⟨-, rfl⟩
    · rw [LockTable.enter, LockTable.isFree_modify (notHeld q e old)]
      exact discipline.not_free q e old
    · exact LockTable.not_isFree_enter isFree 0
  · intro q r e first second
    rcases holds q e first with old | ⟨isP, isNew⟩ <;>
      rcases holds r e second with old' | ⟨isP', isNew'⟩
    · exact discipline.exclusive q r e old old'
    · exact absurd (congrArg Prod.snd isNew') (notHeld q e old)
    · exact absurd (congrArg Prod.snd isNew) (notHeld r e old')
    · rw [isP, isP']

theorem leave {name : LockName} {lock : LockId} (isHeld : (name, lock) ∈ held p)
    (unlearns : ∀ e, e ∈ known' p ↔ e ∈ known p ∧ e ≠ (name, lock))
    (releases : ∀ e, e ∈ held' p ↔ e ∈ held p ∧ e ≠ (name, lock)) :
    LockDiscipline (table.release lock 0) known' held' := by
  have knows : ∀ q e, e ∈ known' q → e ∈ known q := by
    intro q e isKnown
    by_cases isP : q = p
    · subst isP
      exact ((unlearns e).1 isKnown).1
    · rwa [(others q isP).1] at isKnown
  have holds : ∀ q e, e ∈ held' q → e ∈ held q ∧ e ≠ (name, lock) := by
    intro q e found
    by_cases isP : q = p
    · subst isP
      exact (releases e).1 found
    · rw [(others q isP).2] at found
      refine ⟨found, ?_⟩
      rintro rfl
      exact isP (discipline.exclusive q p _ found isHeld)
  have bound : ∀ e, (table.release lock 0).IsBound known' e → table.IsBound known e := by
    rintro e (named | ⟨q, isKnown⟩)
    · exact Or.inl named
    · exact Or.inr ⟨q, knows q e isKnown⟩
  refine { known_of_held := ?_, exists_lock := ?_, name_eq := ?_, not_free := ?_, exclusive := ?_ }
  · intro q e found
    obtain ⟨old, differs⟩ := holds q e found
    have isKnown := discipline.known_of_held q e old
    by_cases isP : q = p
    · subst isP
      exact (unlearns e).2 ⟨isKnown, differs⟩
    · rwa [(others q isP).1]
  · intro e isBound
    simpa [LockTable.release, LockTable.modify] using discipline.exists_lock e (bound e isBound)
  · intro first second other isFirst isSecond
    exact discipline.name_eq first second other (bound _ isFirst) (bound _ isSecond)
  · rintro q ⟨other, lock'⟩ found
    obtain ⟨old, differs⟩ := holds q _ found
    have distinct : lock' ≠ lock := by
      rintro rfl
      refine differs (congrArg (·, lock') (discipline.name_eq other name lock' ?_ ?_))
      · exact Or.inr ⟨q, discipline.known_of_held q _ old⟩
      · exact Or.inr ⟨p, discipline.known_of_held p _ isHeld⟩
    rw [LockTable.release, LockTable.isFree_modify distinct]
    exact discipline.not_free q _ old
  · intro q r e first second
    exact discipline.exclusive q r e (holds q e first).1 (holds r e second).1

variable {outside : Outside} {shared after : Shared outside} {reaction : Reaction outside}
  {exchange : Exchange}

/-- Discipline is kept whatever one process does with the locks that it knows. -/
theorem move (isTable : table = shared.locks)
    (moves : LockMove (known p) (held p) (known' p) (held' p) exchange)
    (answered : shared.answer reaction exchange.call = some (exchange.answer, after)) :
    LockDiscipline after.locks known' held' := by
  subst isTable
  cases moves with
  | find name lock learns same =>
      obtain ⟨locks, found, rfl⟩ := Shared.answer_lock answered
      obtain ⟨rfl, rfl⟩ := Prod.mk.inj (Option.some.inj found)
      exact discipline.find others learns same
  | enter name lock isKnown same takes =>
      obtain ⟨locks, entered, rfl⟩ := Shared.answer_lock answered
      obtain ⟨isFree, entered⟩ := Option.ite_none_right_eq_some.1 entered
      obtain ⟨-, rfl⟩ := Prod.mk.inj (Option.some.inj entered)
      exact discipline.enter others isFree isKnown same takes
  | leave name lock isHeld unlearns releases =>
      obtain ⟨locks, released, rfl⟩ := Shared.answer_lock answered
      obtain ⟨-, rfl⟩ := Prod.mk.inj (Option.some.inj released)
      exact discipline.leave others isHeld unlearns releases
  | other _ isOther sameKnown sameHeld =>
      rw [Shared.locks_of_answer isOther answered]
      rw [eq_of_others (fun q isOther => (others q isOther).1) sameKnown,
        eq_of_others (fun q isOther => (others q isOther).2) sameHeld]
      exact discipline

end Move

end LockDiscipline

def LockTable.Settles {ι : Type} (table : LockTable) (known : ι → List NamedLock)
    (name : LockName) : Prop :=
  ∀ p lock, (name, lock) ∈ known p → table.lookup name = some lock

namespace LockTable.Settles

variable {ι : Type} {table : LockTable} {known known' : ι → List NamedLock} {p : ι}
  {name : LockName}

theorem mono {other : LockTable} (settles : table.Settles known name)
    (same : other.lookup name = table.lookup name)
    (subset : ∀ q e, e ∈ known' q → e ∈ known q) : other.Settles known' name := by
  intro q lock isKnown
  rw [same]
  exact settles q lock (subset q _ isKnown)

theorem find {other : LockName} (settles : table.Settles known name)
    (learns : ∀ q e, e ∈ known' q → e ∈ known q ∨ e = (other, (table.find other).1)) :
    (table.find other).2.Settles known' name := by
  intro q lock isKnown
  rw [LockTable.lookup_find]
  rcases learns q _ isKnown with before | isNew
  · have stands := settles q lock before
    by_cases isName : name = other
    · subst isName
      rw [if_pos rfl, LockTable.find_of_lookup stands]
    · rw [if_neg isName, stands]
  · obtain ⟨rfl, rfl⟩ := Prod.mk.inj isNew
    rw [if_pos rfl]

variable {outside : Outside} {shared after : Shared outside} {reaction : Reaction outside}
  {exchange : Exchange} {held held' : List NamedLock}

theorem move (settles : shared.locks.Settles known name)
    (others : ∀ q, q ≠ p → known' q = known q)
    (moves : LockMove (known p) held (known' p) held' exchange)
    (answered : shared.answer reaction exchange.call = some (exchange.answer, after)) :
    after.locks.Settles known' name := by
  have subset : (∀ e, e ∈ known' p → e ∈ known p) → ∀ q e, e ∈ known' q → e ∈ known q := by
    intro own q e isKnown
    have gained := mem_of_others (P := fun _ => False) others fun e found => Or.inl (own e found)
    exact (gained q e isKnown).resolve_right And.right
  cases moves with
  | find other own learns same =>
      obtain ⟨locks, found, rfl⟩ := Shared.answer_lock answered
      obtain ⟨rfl, rfl⟩ := Prod.mk.inj (Option.some.inj found)
      refine settles.find fun q e isKnown => ?_
      exact (mem_of_others others (fun e => (learns e).1) q e isKnown).imp_right And.right
  | enter other own isOwn same takes =>
      obtain ⟨locks, entered, rfl⟩ := Shared.answer_lock answered
      obtain ⟨-, entered⟩ := Option.ite_none_right_eq_some.1 entered
      obtain ⟨-, rfl⟩ := Prod.mk.inj (Option.some.inj entered)
      exact settles.mono rfl (subset fun e isKnown => same ▸ isKnown)
  | leave other own isHeld unlearns releases =>
      obtain ⟨locks, released, rfl⟩ := Shared.answer_lock answered
      obtain ⟨-, rfl⟩ := Prod.mk.inj (Option.some.inj released)
      exact settles.mono rfl (subset fun e isKnown => ((unlearns e).1 isKnown).1)
  | other _ isOther sameKnown sameHeld =>
      rw [Shared.locks_of_answer isOther answered]
      exact settles.mono rfl (subset fun e isKnown => sameKnown ▸ isKnown)

theorem forget (settles : table.Settles known name) {agent : AgentId} {keep : List TargetKey}
    (kept : isForgotten agent keep name = false) :
    (table.forget agent keep).Settles known name :=
  settles.mono (lookup_forget kept) fun _ _ isKnown => isKnown

end LockTable.Settles

/-- Under a settled name no two processes hold a lock, whichever lock it is. -/
theorem LockDiscipline.eq_of_held {ι : Type} {table : LockTable}
    {known held : ι → List NamedLock} (discipline : LockDiscipline table known held)
    {name : LockName} (settles : table.Settles known name) {p q : ι} {first second : LockId}
    (isFirst : (name, first) ∈ held p) (isSecond : (name, second) ∈ held q) : p = q := by
  have stands := settles p first (discipline.known_of_held p _ isFirst)
  have stands' := settles q second (discipline.known_of_held q _ isSecond)
  rw [stands] at stands'
  cases stands'
  exact discipline.exclusive p q _ isFirst isSecond

end AdMonitor
