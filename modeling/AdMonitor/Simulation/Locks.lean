import AdMonitor.Call

/-!
# Lock tables

Every lock that was ever made, and which of them a name stands for at the
moment.  A lock that is released passes to the one who has waited longest.
-/

namespace AdMonitor

abbrev Ticket := Nat

structure Lock where
  holder : Option Ticket
  /-- Longest wait first. -/
  waiting : List Ticket
  /-- When the holder was given the lock, as a position among all that were given locks. -/
  grantOrder : Nat
  deriving Repr, DecidableEq

structure LockTable where
  names : List (LockName × LockId)
  locks : List Lock
  deriving Repr, DecidableEq

namespace LockTable

def empty : LockTable := ⟨[], []⟩

def find (table : LockTable) (name : LockName) : LockId × LockTable :=
  match table.names.find? (fun e => e.1 == name) with
  | some (_, lock) => (lock, table)
  | none =>
      let lock := table.locks.length
      (lock, ⟨(name, lock) :: table.names, table.locks ++ [⟨none, [], 0⟩]⟩)

def modify (table : LockTable) (lock : LockId) (change : Lock → Lock) : LockTable :=
  { table with locks := table.locks.modify lock change }

def enter (table : LockTable) (lock : LockId) (ticket : Ticket) : LockTable :=
  table.modify lock fun l =>
    match l.holder with
    | none => { l with holder := some ticket }
    | some _ => { l with waiting := l.waiting ++ [ticket] }

def release (table : LockTable) (lock : LockId) (order : Nat) : LockTable :=
  table.modify lock fun l => ⟨l.waiting.head?, l.waiting.tail, order⟩

def grantOrder (table : LockTable) (lock : LockId) : Nat :=
  (table.locks[lock]?.map Lock.grantOrder).getD 0

def isHeldBy (table : LockTable) (lock : LockId) (ticket : Ticket) : Bool :=
  match table.locks[lock]? with
  | some l => l.holder == some ticket
  | none => false

def isForgotten (agent : AgentId) (keep : List TargetKey) : LockName → Bool
  | .target key => key.agent == agent && !keep.contains key.target
  | .campaign _ => false

/-- Forget target locks of an agent; whoever holds or awaits one is not affected. -/
def forget (table : LockTable) (agent : AgentId) (keep : List TargetKey) : LockTable :=
  { table with names := table.names.filter fun e => !isForgotten agent keep e.1 }

end LockTable

end AdMonitor
