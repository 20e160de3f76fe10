/-!
# Event buses

A bus keeps the newest items that were published.  A reader that falls behind
by more than the capacity loses the oldest ones and is told how many.
-/

namespace AdMonitor

structure Bus (α : Type) where
  capacity : Nat
  /-- All items, newest first; only the newest `capacity` can still be read. -/
  history : List α
  /-- For every subscription the number of items it is past; `none` once it has ended. -/
  readers : List (Option Nat)

/-- Items that wait for a reader, oldest first, and the number of those it lost. -/
structure Delivery (α : Type) where
  lost : Nat
  items : List α

namespace Bus

variable {α : Type}

def powerAbove (n : Nat) : Nat :=
  Nat.pow 2 (if n ≤ 1 then 0 else (n - 1).log2 + 1)

/-- A bus whose capacity is at least the given one and a power of two. -/
def ofCapacity (capacity : Nat) : Bus α :=
  ⟨powerAbove capacity, [], []⟩

def published (bus : Bus α) : Nat := bus.history.length

def publish (bus : Bus α) (item : α) : Bus α :=
  { bus with history := item :: bus.history }

/-- Start reading at the next item; the number names the subscription. -/
def subscribe (bus : Bus α) : Nat × Bus α :=
  (bus.readers.length, { bus with readers := bus.readers ++ [some bus.published] })

def unsubscribe (bus : Bus α) (reader : Nat) : Bus α :=
  { bus with readers := bus.readers.set reader none }

def subscribers (bus : Bus α) : Nat :=
  bus.readers.countP Option.isSome

/-- What waits for a reader that is past the first `position` items. -/
def waiting (bus : Bus α) (position : Nat) : Delivery α :=
  let behind := bus.published - position
  let kept := min behind bus.capacity
  ⟨behind - kept, (bus.history.take kept).reverse⟩

def read (bus : Bus α) (reader : Nat) : Delivery α × Bus α :=
  match bus.readers[reader]? with
  | some (some position) =>
      (bus.waiting position,
        { bus with readers := bus.readers.set reader (some bus.published) })
  | _ => (⟨0, []⟩, bus)

end Bus

end AdMonitor
