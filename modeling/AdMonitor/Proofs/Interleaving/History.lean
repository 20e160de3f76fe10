import AdMonitor.Proofs.Interleaving.System
import AdMonitor.Proofs.Visit.Run

/-!
# What a log tells

Which states were saved for a key, how often its actions were started, and what
a single visit has done so far.  Logs have their newest entry first.
-/

namespace AdMonitor

abbrev History := List Entry

def Entry.IsForeign (key : StateKey) (entry : Entry) : Prop :=
  entry.exchange.saved? key = none ∧ entry.exchange.starts key = false ∧
    ∀ index visit, entry.actor = .visit index visit → visit.key ≠ key

namespace History

/-- The states that were saved for a key, the newest first. -/
def saves (key : StateKey) (history : History) : List TargetState :=
  history.filterMap fun entry => entry.exchange.saved? key

/-- The state that was last saved for a key, or the one from the start. -/
def lastSaved (start : StateStore) (key : StateKey) (history : History) : Option TargetState :=
  (saves key history).head?.or (start.get? key)

def starts (key : StateKey) (history : History) : Nat :=
  history.countP fun entry => entry.exchange.starts key

variable {start : StateStore} {key : StateKey} {history : History} {entry : Entry}

theorem saves_cons_some {state : TargetState} (saved : entry.exchange.saved? key = some state) :
    saves key (entry :: history) = state :: saves key history := by
  simp [saves, saved]

theorem saves_cons_none (unsaved : entry.exchange.saved? key = none) :
    saves key (entry :: history) = saves key history := by
  simp [saves, unsaved]

theorem lastSaved_cons_some {state : TargetState}
    (saved : entry.exchange.saved? key = some state) :
    lastSaved start key (entry :: history) = some state := by
  simp [lastSaved, saves_cons_some saved]

theorem lastSaved_cons_none (unsaved : entry.exchange.saved? key = none) :
    lastSaved start key (entry :: history) = lastSaved start key history := by
  simp [lastSaved, saves_cons_none unsaved]

theorem lastSaved_cons : lastSaved start key (entry :: history) =
    (entry.exchange.saved? key).or (lastSaved start key history) := by
  cases saved : entry.exchange.saved? key with
  | none => exact lastSaved_cons_none saved
  | some state => exact lastSaved_cons_some saved

theorem saves_eq_nil
    (unsaved : ∀ entry ∈ history, ∀ state, entry.exchange.saved? key ≠ some state) :
    saves key history = [] :=
  List.filterMap_eq_nil_iff.2 fun entry logged =>
    Option.eq_none_iff_forall_ne_some.2 (unsaved entry logged)

theorem lastSaved_append {newer past : History} (unsaved : saves key newer = []) :
    lastSaved start key (newer ++ past) = lastSaved start key past := by
  rw [lastSaved, saves, List.filterMap_append, ← saves, unsaved]
  rfl

theorem starts_cons : starts key (entry :: history) =
    starts key history + if entry.exchange.starts key then 1 else 0 := by
  simp [starts, List.countP_cons]

theorem exists_past (logged : entry ∈ history) : ∃ past, entry :: past <:+ history := by
  obtain ⟨later, past, rfl⟩ := List.append_of_mem logged
  exact ⟨past, List.suffix_append ..⟩

def Omits (key : StateKey) (history : History) : Prop :=
  ∀ entry ∈ history, entry.IsForeign key

theorem omits_nil : Omits key [] := List.forall_mem_nil _

theorem Omits.cons (omits : history.Omits key) (isForeign : entry.IsForeign key) :
    Omits key (entry :: history) :=
  List.forall_mem_cons.2 ⟨isForeign, omits⟩

theorem Omits.saves_eq_nil (omits : history.Omits key) : saves key history = [] :=
  List.filterMap_eq_nil_iff.2 fun entry found => (omits entry found).1

theorem Omits.starts_eq_zero (omits : history.Omits key) : starts key history = 0 :=
  List.countP_eq_zero.2 fun entry found => by simp [(omits entry found).2.1]

end History

structure VisitId where
  index : Nat
  key : StateKey
  deriving DecidableEq

namespace History

/-- What a visit has done so far, the newest exchange first. -/
def ofVisit (id : VisitId) (history : History) : List Exchange :=
  history.filterMap fun entry =>
    match entry.actor with
    | .visit index visit =>
        if index = id.index ∧ visit.key = id.key then some entry.exchange else none
    | _ => none

variable {history : History}

theorem ofVisit_cons_own {index : Nat} {visit : Visit} {exchange : Exchange} :
    ofVisit ⟨index, visit.key⟩ (⟨.visit index visit, exchange⟩ :: history) =
      exchange :: ofVisit ⟨index, visit.key⟩ history := by
  simp [ofVisit]

theorem ofVisit_cons_other {id : VisitId} {entry : Entry}
    (isOther : ∀ index visit, entry.actor = .visit index visit → ⟨index, visit.key⟩ ≠ id) :
    ofVisit id (entry :: history) = ofVisit id history := by
  obtain ⟨actor, exchange⟩ := entry
  cases actor with
  | visit index visit =>
      have differs := isOther index visit rfl
      rw [ofVisit, List.filterMap_cons_none]
      · rfl
      · refine if_neg ?_
        rintro ⟨rfl, same⟩
        exact differs (by rw [same])
  | _ => rfl

theorem ofVisit_append {id : VisitId} {later past : History} :
    ofVisit id (later ++ past) = ofVisit id later ++ ofVisit id past :=
  List.filterMap_append

theorem mem_ofVisit {id : VisitId} {exchange : Exchange} :
    exchange ∈ ofVisit id history ↔
      ∃ visit, ⟨.visit id.index visit, exchange⟩ ∈ history ∧ visit.key = id.key := by
  rw [ofVisit, List.mem_filterMap]
  constructor
  · rintro ⟨⟨actor, other⟩, found, same⟩
    cases actor with
    | visit index visit =>
        obtain ⟨⟨rfl, isOwn⟩, same⟩ := Option.ite_none_right_eq_some.1 same
        cases same
        exact ⟨visit, found, isOwn⟩
    | _ => cases same
  · rintro ⟨visit, found, isOwn⟩
    exact ⟨_, found, by simp [isOwn]⟩

end History

end AdMonitor
