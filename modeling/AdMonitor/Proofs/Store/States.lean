import AdMonitor.Query
import Mathlib.Algebra.GroupWithZero.Nat
import Mathlib.Algebra.Order.BigOperators.Group.Finset
import Mathlib.Data.Finset.Card
import Mathlib.Data.Finset.SDiff
import Mathlib.Data.String.Basic

/-!
# States in their store

The store of states is a finite map from keys to states.  Whatever has been
asked of it, the next answer is what the map says: a lookup reads it, a removal
says how many keys it takes away, and the lists of owners and of an agent's
states leave nothing out.
-/

namespace AdMonitor

/-- The keys of one agent are in the order of their targets. -/
theorem StateKey.target_lt {key other : StateKey} (less : compare key other = .lt)
    (sameAgent : key.agent = other.agent) : key.target < other.target := by
  have isLess : (compare key.agent other.agent).then (compare key.target other.target) = .lt := less
  rw [sameAgent, Std.compare_self] at isLess
  exact compare_lt_iff_lt.1 isLess

namespace StateStore

variable {store : StateStore} {test : StateKey → Bool} {key : StateKey}

theorem get?_keepOnly_eq : Table.get? (store.keepOnly test).2 key =
    if test key then Table.get? store key else none :=
  Table.get?_filter.trans (by cases Table.get? store key <;> simp [Option.filter])

def support (store : StateStore) : Finset StateKey := store.keys.toFinset

theorem mem_support : key ∈ store.support ↔ ∃ state, Table.get? store key = some state := by
  rw [support, List.mem_toFinset, Table.mem_keys_iff, Option.isSome_iff_exists]

theorem size_eq_card : Table.size store = store.support.card := by
  rw [support, List.toFinset_card_of_nodup Table.nodup_keys, Table.keys, List.length_map,
    Table.size]

/-- The number that goes with what is kept counts the keys that went. -/
theorem card_keepOnly :
    (store.keepOnly test).1 = (store.support \ (store.keepOnly test).2.support).card := by
  have isPart : (store.keepOnly test).2.support ⊆ store.support := by
    intro key found
    obtain ⟨state, found⟩ := mem_support.1 found
    rw [get?_keepOnly_eq] at found
    exact mem_support.2 ⟨state, (Option.ite_none_right_eq_some.1 found).2⟩
  rw [Finset.card_sdiff_of_subset isPart, ← size_eq_card, ← size_eq_card]
  rfl

section Listings

variable {owner : AgentId}

theorem mem_owners : owner ∈ store.owners ↔ ∃ key ∈ store.support, key.agent = owner := by
  rw [owners, NameSet.mem_ofNames, List.mem_map]
  simp only [support, List.mem_toFinset]

theorem owners_sorted : store.owners.Pairwise (· < ·) :=
  Table.keys_sorted.imp fun less => compare_lt_iff_lt.1 less

theorem mem_ofAgent {target : TargetKey} {state : TargetState} :
    (target, state) ∈ store.ofAgent owner ↔ Table.get? store ⟨owner, target⟩ = some state := by
  rw [Table.get?_eq_some_iff, ofAgent, List.mem_map]
  constructor
  · rintro ⟨⟨key, stored⟩, found, same⟩
    obtain ⟨isStored, isOwn⟩ := List.mem_filter.1 found
    obtain rfl : key.agent = owner := eq_of_beq isOwn
    obtain ⟨rfl, rfl⟩ := Prod.mk.inj same
    exact isStored
  · intro isStored
    exact ⟨(⟨owner, target⟩, state), List.mem_filter.2 ⟨isStored, beq_self_eq_true owner⟩, rfl⟩

theorem ofAgent_sorted : ((store.ofAgent owner).map Prod.fst).Pairwise (· < ·) := by
  rw [ofAgent, List.map_map, List.pairwise_map]
  refine (store.sorted.filter _).imp_of_mem fun first second less => ?_
  have isOwn := eq_of_beq (List.mem_filter.1 first).2
  have isOther := eq_of_beq (List.mem_filter.1 second).2
  exact StateKey.target_lt less (isOwn.trans isOther.symm)

/-- The states of an agent are as many as its keys. -/
theorem length_ofAgent :
    (store.ofAgent owner).length = (store.support.filter fun key => key.agent = owner).card := by
  have areKeys : store.support.filter (fun key => key.agent = owner) =
      ((Table.keys store).filter fun key => key.agent == owner).toFinset := by
    rw [support, List.toFinset_filter]
    simp only [beq_iff_eq]
  rw [areKeys, List.toFinset_card_of_nodup (Table.nodup_keys.filter _), ofAgent,
    Table.keys, List.filter_map, List.length_map, List.length_map]
  rfl

/-- Every state is one of those of its owner, and of no other agent. -/
theorem size_eq_sum_length :
    Table.size store = (store.owners.map fun owner => (store.ofAgent owner).length).sum := by
  have nodup : store.owners.Nodup := Table.nodup_keys
  have covers : ∀ key ∈ store.support, key.agent ∈ store.owners.toFinset := fun key found =>
    List.mem_toFinset.2 (mem_owners.2 ⟨key, found, rfl⟩)
  rw [size_eq_card, Finset.card_eq_sum_card_fiberwise covers, List.sum_toFinset _ nodup]
  simp only [length_ofAgent]

end Listings

end StateStore

abbrev StateMap := StateKey → Option TargetState

def StateMap.Counts (map : StateMap) (test : StateKey → Prop) (count : Nat) : Prop :=
  ∃ keys : Finset StateKey, (∀ key, key ∈ keys ↔ (map key).isSome ∧ test key) ∧ keys.card = count

/-- What a store of states is called for: a request, or the list of the states of an agent. -/
inductive StateCall where
  | ask (query : StateQuery)
  | list (agent : AgentId)

namespace StateCall

abbrev Answer : StateCall → Type
  | .ask query => query.Answer
  | .list _ => List (TargetKey × TargetState)

def answer (store : StateStore) : (call : StateCall) → call.Answer × StateStore
  | .ask query => query.answer store
  | .list agent => (store.ofAgent agent, store)

/-- The store after some calls, the earliest first. -/
def after (store : StateStore) (calls : List StateCall) : StateStore :=
  calls.foldl (fun store call => (call.answer store).2) store

def write (map : StateMap) : StateCall → StateMap
  | .ask (.put key state) => Function.update map key (some state)
  | .ask (.retain agent keep) => fun key =>
      if key.agent = agent ∧ key.target ∉ keep then none else map key
  | .ask (.remove agent) => fun key => if key.agent = agent then none else map key
  | .ask (.get _) | .ask .owners | .list _ => map

def Tells (map : StateMap) : (call : StateCall) → call.Answer → Prop
  | .ask (.get key), found => found = map key
  | .ask (.put ..), _ => True
  | .ask (.retain agent keep), count =>
      map.Counts (fun key => key.agent = agent ∧ key.target ∉ keep) count
  | .ask (.remove agent), count => map.Counts (fun key => key.agent = agent) count
  | .ask .owners, owners => owners.Pairwise (· < ·) ∧
      ∀ owner, owner ∈ owners ↔ ∃ target, (map ⟨owner, target⟩).isSome
  | .list agent, states => (states.map Prod.fst).Pairwise (· < ·) ∧
      ∀ target state, (target, state) ∈ states ↔ map ⟨agent, target⟩ = some state

variable {store : StateStore}

/-- A call changes a store as it changes the map. -/
theorem get?_answer (call : StateCall) :
    Table.get? (call.answer store).2 = call.write (Table.get? store) := by
  funext key
  cases call with
  | list agent => rfl
  | ask query =>
      cases query with
      | get | owners => rfl
      | put own state =>
          refine Table.get?_insert.trans ?_
          simp only [write, Function.update_apply]
      | retain agent keep =>
          refine StateStore.get?_keepOnly_eq.trans ?_
          simp only [write]
          grind
      | remove agent =>
          refine StateStore.get?_keepOnly_eq.trans ?_
          simp only [write]
          grind

/-- Calls change a store as they change the map, one after the other. -/
theorem get?_after (calls : List StateCall) :
    Table.get? (after store calls) = calls.foldl write (Table.get? store) := by
  induction calls generalizing store with
  | nil => rfl
  | cons call rest ih =>
      rw [List.foldl_cons, ← get?_answer call]
      exact ih

theorem counts_keepOnly {test : StateKey → Bool} {isGone : StateKey → Prop}
    (goes : ∀ key, test key = false ↔ isGone key) :
    StateMap.Counts (Table.get? store) isGone (store.keepOnly test).1 := by
  refine ⟨_, fun key => ?_, StateStore.card_keepOnly.symm⟩
  rw [Finset.mem_sdiff, StateStore.mem_support, StateStore.mem_support,
    StateStore.get?_keepOnly_eq, Option.isSome_iff_exists, ← goes key]
  cases test key <;> simp

/-- A store answers what its map says. -/
theorem tells_answer (call : StateCall) :
    call.Tells (Table.get? store) (call.answer store).1 := by
  cases call with
  | list agent => exact ⟨StateStore.ofAgent_sorted, fun target state => StateStore.mem_ofAgent⟩
  | ask query =>
      cases query with
      | get key => rfl
      | put key state => trivial
      | retain agent keep => exact counts_keepOnly (by simp)
      | remove agent => exact counts_keepOnly (by simp)
      | owners =>
          refine ⟨StateStore.owners_sorted, fun owner => StateStore.mem_owners.trans ?_⟩
          constructor
          · rintro ⟨key, found, rfl⟩
            exact ⟨key.target, Option.isSome_iff_exists.2 (StateStore.mem_support.1 found)⟩
          · rintro ⟨target, found⟩
            exact ⟨_, StateStore.mem_support.2 (Option.isSome_iff_exists.1 found), rfl⟩

end StateCall

/-- After any calls the store is the finite map that these calls have written, and so it answers
the next one; its size is the number of the keys of the map and the sum of the lengths of the lists
of its owners. -/
theorem StateStore.answers_as_map (store : StateStore) (calls : List StateCall) :
    let after := StateCall.after store calls
    let map := calls.foldl StateCall.write (Table.get? store)
    Table.get? after = map ∧
      (∀ call : StateCall, call.Tells map (call.answer after).1 ∧
        Table.get? (call.answer after).2 = call.write map) ∧
      map.Counts (fun _ => True) (Table.size after) ∧
      Table.size after = (after.owners.map fun owner => (after.ofAgent owner).length).sum := by
  intro after map
  have isMap : Table.get? after = map := StateCall.get?_after calls
  refine ⟨isMap, fun call => ⟨?_, ?_⟩, ⟨after.support, fun key => ?_, ?_⟩, ?_⟩
  · rw [← isMap]
    exact call.tells_answer
  · rw [← isMap]
    exact call.get?_answer
  · rw [StateStore.mem_support, ← isMap, Option.isSome_iff_exists, and_true]
  · exact StateStore.size_eq_card.symm
  · exact StateStore.size_eq_sum_length

end AdMonitor
