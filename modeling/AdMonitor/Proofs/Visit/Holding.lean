import AdMonitor.Proofs.Interleaving.Locks
import AdMonitor.Proofs.Program.Trace

/-!
# What a visit holds while it waits

The exchanges of a program tell which locks it holds.  A visit that is about to
take the lock of its target holds none, and one that is about to take that of a
campaign holds the one of its target and no other (`Visit.holds_of_leads`).
-/

namespace AdMonitor

/-- The locks that are held after an exchange, the newest first. -/
def Exchange.hold (exchange : Exchange) (held : List LockId) : List LockId :=
  match exchange.call with
  | .lock (.acquire lock) => lock :: held
  | .lock (.release lock) => held.erase lock
  | _ => held

def locksHeld (exchanges : List Exchange) : List LockId :=
  exchanges.foldr Exchange.hold []

section Held

variable {exchange : Exchange} {exchanges : List Exchange} {held : List LockId} {lock : LockId}

theorem Exchange.hold_of_other (isOther : ∀ query, exchange.call ≠ .lock query) :
    exchange.hold held = held := by
  obtain ⟨call, answer⟩ := exchange
  cases call with
  | lock query => exact absurd rfl (isOther query)
  | _ => rfl

@[simp] theorem locksHeld_cons :
    locksHeld (exchange :: exchanges) = exchange.hold (locksHeld exchanges) := rfl

/-- A lock that is held has been taken. -/
theorem taken_of_mem_locksHeld (isHeld : lock ∈ locksHeld exchanges) :
    ⟨.lock (.acquire lock), ()⟩ ∈ exchanges := by
  induction exchanges with
  | nil => cases isHeld
  | cons exchange earlier ih =>
      obtain ⟨call, answer⟩ := exchange
      rw [locksHeld_cons] at isHeld
      by_cases isTaking : call = .lock (.acquire lock)
      · subst isTaking
        exact List.mem_cons_self
      · refine List.mem_cons_of_mem _ (ih ?_)
        cases call with
        | lock query =>
            cases query with
            | acquire own =>
                refine (List.mem_cons.1 isHeld).resolve_left fun same => isTaking ?_
                rw [same]
            | release own => exact List.mem_of_mem_erase isHeld
            | find | forget => exact isHeld
        | _ => exact isHeld

end Held

namespace VisitStep

variable {visit : Visit} {before after : VisitStage} {exchange : Exchange}

/-- The stages of a visit say in what order it has taken the locks that it holds. -/
theorem hold_held (step : VisitStep visit before exchange after) :
    exchange.hold ((before.held visit.key).map Prod.snd).reverse =
      ((after.held visit.key).map Prod.snd).reverse := by
  cases step with
  | read lock stored exchange isReading =>
      refine Exchange.hold_of_other fun query isLock => ?_
      rw [isLock] at isReading
      cases isReading
  | act lock exchange isErrand =>
      refine Exchange.hold_of_other fun query isLock => ?_
      rw [isLock] at isErrand
      cases isErrand
  | change lock campaign own exchange concerns =>
      refine Exchange.hold_of_other fun query isLock => ?_
      rw [isLock] at concerns
      cases concerns
  | overflow lock | finish lock | leave lock | leaveCampaign lock campaign own =>
      simp [Exchange.hold, VisitStage.held]
  | _ => rfl

end VisitStep

section Path

variable {visit : Visit} {history : List Exchange} {stage : VisitStage}

theorem locksHeld_of_path (path : Program.Path (VisitStep visit) .idle history stage) :
    locksHeld history = ((stage.held visit.key).map Prod.snd).reverse := by
  induction path with
  | start => rfl
  | step path taken ih => rw [locksHeld_cons, ih, taken.hold_held]

/-- A visit knows no lock but those that it has found. -/
theorem found_of_path (path : Program.Path (VisitStep visit) .idle history stage)
    {name : LockName} {lock : LockId} (isKnown : (name, lock) ∈ stage.known visit.key) :
    ⟨.lock (.find name), lock⟩ ∈ history := by
  induction path with
  | start => cases isKnown
  | @step history before after exchange path taken ih =>
      cases taken.lockMove with
      | find other own learns same =>
          rcases (learns _).1 isKnown with old | isNew
          · exact List.mem_cons_of_mem _ (ih old)
          · cases isNew
            exact List.mem_cons_self
      | enter other own isOwn same takes => exact List.mem_cons_of_mem _ (ih (same ▸ isKnown))
      | leave other own isHeld unlearns releases =>
          exact List.mem_cons_of_mem _ (ih ((unlearns _).1 isKnown).1)
      | other _ isOther sameKnown sameHeld =>
          exact List.mem_cons_of_mem _ (ih (sameKnown ▸ isKnown))

end Path

namespace Visit

variable {visit : Visit} {history : List Exchange} {lock : LockId}

inductive Holds (visit : Visit) (history : List Exchange) (lock : LockId) : Prop where
  | none (isFound : ⟨.lock (.find (.target visit.key)), lock⟩ ∈ history)
      (holds : locksHeld history = []) : Holds visit history lock
  | target (campaign : CampaignId) (own : LockId)
      (isFound : ⟨.lock (.find (.campaign campaign)), lock⟩ ∈ history)
      (isOwn : ⟨.lock (.find (.target visit.key)), own⟩ ∈ history)
      (holds : locksHeld history = [own]) : Holds visit history lock

theorem holds_of_leads {next : Unit → Program (Option TargetReport)}
    (leads : visit.run.Leads history (.call (.lock (.acquire lock)) next)) :
    visit.Holds history lock := by
  obtain ⟨stage, path, follows⟩ := visit.run_follows.path leads
  obtain ⟨after, step, -⟩ := follows ()
  have holds := locksHeld_of_path path
  cases step with
  | enter => exact .none (found_of_path path (List.mem_singleton_self _)) holds
  | enterCampaign own campaign =>
      refine .target campaign own (found_of_path path ?_) (found_of_path path ?_) holds
      · exact List.mem_cons_of_mem _ (List.mem_singleton_self _)
      · exact List.mem_cons_self
  | read _ _ _ isReading => cases isReading
  | act _ _ isErrand => cases isErrand
  | change _ _ _ _ concerns => cases concerns

/-- A visit that has ended has given everything back. -/
theorem locksHeld_of_ends {report : Option TargetReport} (ends : visit.run.Ends history report) :
    locksHeld history = [] := by
  obtain ⟨stage, path, isLeft⟩ := visit.run_follows.path ends
  obtain rfl : stage = .left := isLeft
  exact locksHeld_of_path path

end Visit

end AdMonitor
