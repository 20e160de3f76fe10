/-!
# Tables sorted by key

A table is a list of entries whose keys strictly increase.  Its entries are
therefore determined by its lookups (`Table.ext`), and every listing of a
table comes out in key order.
-/

namespace AdMonitor

structure Table (κ : Type) (ν : Type) [Ord κ] where
  entries : List (κ × ν)
  sorted : entries.Pairwise (fun a b => compare a.1 b.1 = .lt)

namespace Table

variable {κ ν : Type} [Ord κ]

section Entries

def find (key : κ) : List (κ × ν) → Option ν
  | [] => none
  | (k, v) :: rest =>
      match compare key k with
      | .lt => none
      | .eq => some v
      | .gt => find key rest

def place (key : κ) (value : ν) : List (κ × ν) → List (κ × ν)
  | [] => [(key, value)]
  | (k, v) :: rest =>
      match compare key k with
      | .lt => (key, value) :: (k, v) :: rest
      | .eq => (key, value) :: rest
      | .gt => (k, v) :: place key value rest

theorem place_above {bound : κ} {key : κ} {value : ν} {entries : List (κ × ν)}
    (above : compare bound key = .lt)
    (all : ∀ e ∈ entries, compare bound e.1 = .lt) :
    ∀ e ∈ place key value entries, compare bound e.1 = .lt := by
  induction entries with
  | nil => simpa [place] using above
  | cons head rest ih =>
      obtain ⟨k, v⟩ := head
      intro e member
      have headAbove := all (k, v) (by simp)
      have restAbove := ih (fun e found => all e (by simp [found]))
      unfold place at member
      split at member
      · rcases List.mem_cons.1 member with rfl | found
        · exact above
        · exact all e found
      · rcases List.mem_cons.1 member with rfl | found
        · exact above
        · exact all e (by simp [found])
      · rcases List.mem_cons.1 member with rfl | found
        · exact headAbove
        · exact restAbove e found

theorem place_sorted [Std.TransOrd κ] (key : κ) (value : ν) {entries : List (κ × ν)}
    (sorted : entries.Pairwise (fun a b => compare a.1 b.1 = .lt)) :
    (place key value entries).Pairwise (fun a b => compare a.1 b.1 = .lt) := by
  induction entries with
  | nil => simp [place]
  | cons head rest ih =>
      obtain ⟨k, v⟩ := head
      obtain ⟨headAbove, restSorted⟩ := List.pairwise_cons.1 sorted
      unfold place
      split
      · rename_i less
        refine List.pairwise_cons.2 ⟨?_, sorted⟩
        intro e found
        rcases List.mem_cons.1 found with rfl | found
        · exact less
        · exact Std.TransCmp.lt_trans less (headAbove e found)
      · rename_i same
        refine List.pairwise_cons.2 ⟨?_, restSorted⟩
        intro e found
        exact Std.TransCmp.lt_of_eq_of_lt same (headAbove e found)
      · rename_i greater
        refine List.pairwise_cons.2 ⟨?_, ih restSorted⟩
        exact place_above (Std.OrientedCmp.gt_iff_lt.1 greater) headAbove

end Entries

def empty : Table κ ν := ⟨[], .nil⟩

instance : Inhabited (Table κ ν) := ⟨empty⟩

instance : EmptyCollection (Table κ ν) := ⟨empty⟩

def get? (table : Table κ ν) (key : κ) : Option ν :=
  find key table.entries

def contains (table : Table κ ν) (key : κ) : Bool :=
  (table.get? key).isSome

def keys (table : Table κ ν) : List κ :=
  table.entries.map (·.1)

def values (table : Table κ ν) : List ν :=
  table.entries.map (·.2)

def size (table : Table κ ν) : Nat :=
  table.entries.length

def insert [Std.TransOrd κ] (table : Table κ ν) (key : κ) (value : ν) : Table κ ν :=
  ⟨place key value table.entries, place_sorted key value table.sorted⟩

def filter (table : Table κ ν) (test : κ → ν → Bool) : Table κ ν :=
  ⟨table.entries.filter (fun e => test e.1 e.2), table.sorted.filter _⟩

def erase (table : Table κ ν) (key : κ) : Table κ ν :=
  table.filter (fun k _ => compare key k != .eq)

def map {μ : Type} (table : Table κ ν) (f : κ → ν → μ) : Table κ μ :=
  ⟨table.entries.map (fun e => (e.1, f e.1 e.2)), by
    refine List.pairwise_map.2 (table.sorted.imp ?_)
    intro a b less
    exact less⟩

def modify (table : Table κ ν) (key : κ) (f : ν → ν) : Table κ ν :=
  table.map (fun k v => if compare key k == .eq then f v else v)

/-- A table of the given entries; a later entry replaces an earlier one. -/
def ofList [Std.TransOrd κ] (entries : List (κ × ν)) : Table κ ν :=
  entries.foldl (fun table e => table.insert e.1 e.2) empty

@[simp] theorem get?_empty {key : κ} : (empty : Table κ ν).get? key = none := rfl

theorem keys_sorted {table : Table κ ν} :
    table.keys.Pairwise (fun a b => compare a b = .lt) :=
  List.pairwise_map.2 table.sorted

theorem nodup_keys [Std.LawfulEqOrd κ] {table : Table κ ν} : table.keys.Nodup := by
  refine keys_sorted.imp fun less => ?_
  rintro rfl
  simp at less

section Lookup

variable [Std.TransOrd κ] [Std.LawfulEqOrd κ]

/-- Looking a key up finds exactly the entry that carries it. -/
theorem find_eq_some_iff {key : κ} {value : ν} {entries : List (κ × ν)}
    (sorted : entries.Pairwise (fun a b => compare a.1 b.1 = .lt)) :
    find key entries = some value ↔ (key, value) ∈ entries := by
  induction entries with
  | nil => simp [find]
  | cons head rest ih =>
      obtain ⟨k, v⟩ := head
      obtain ⟨headAbove, restSorted⟩ := List.pairwise_cons.1 sorted
      unfold find
      split
      · rename_i less
        have absent : (key, value) ∉ rest := by
          intro found
          have := Std.TransCmp.lt_trans less (headAbove _ found)
          simp at this
        have differs : key ≠ k := by
          rintro rfl
          simp at less
        simp [absent, differs]
      · rename_i same
        have equal := Std.LawfulEqOrd.compare_eq_iff_eq.1 same
        subst equal
        have absent : (key, value) ∉ rest := by
          intro found
          have := headAbove _ found
          simp at this
        simp [absent, eq_comm]
      · rename_i greater
        have differs : key ≠ k := by
          rintro rfl
          simp at greater
        simp [ih restSorted, differs]

theorem get?_eq_some_iff {table : Table κ ν} {key : κ} {value : ν} :
    table.get? key = some value ↔ (key, value) ∈ table.entries :=
  find_eq_some_iff table.sorted

/-- Two tables with the same lookups are the same table. -/
theorem ext {left right : Table κ ν}
    (same : ∀ key, left.get? key = right.get? key) : left = right := by
  have members : ∀ e, e ∈ left.entries ↔ e ∈ right.entries := by
    intro e
    rw [← get?_eq_some_iff, ← get?_eq_some_iff, same]
  have entriesEqual : left.entries = right.entries := by
    have nodupOf : ∀ entries : List (κ × ν),
        entries.Pairwise (fun a b => compare a.1 b.1 = .lt) → entries.Nodup := by
      intro entries sorted
      refine List.Pairwise.imp ?_ sorted
      rintro a b less rfl
      simp at less
    have perm := (List.perm_ext_iff_of_nodup (nodupOf _ left.sorted)
      (nodupOf _ right.sorted)).2 members
    refine List.Perm.eq_of_pairwise ?_ left.sorted right.sorted perm
    intro a b _ _ less greater
    have := Std.TransCmp.lt_trans less greater
    simp at this
  cases left
  cases right
  cases entriesEqual
  rfl

theorem find_place {key other : κ} {value : ν} {entries : List (κ × ν)} :
    find other (place key value entries) =
      if compare other key = .eq then some value else find other entries := by
  induction entries with
  | nil =>
      unfold place find
      cases found : compare other key <;> simp [find]
  | cons head rest ih =>
      obtain ⟨k, v⟩ := head
      cases order : compare key k with
      | lt =>
          simp only [place, order]
          rw [find]
          cases found : compare other key with
          | lt =>
              have := Std.TransCmp.lt_trans found order
              simp [find, this]
          | eq => simp
          | gt => simp
      | eq =>
          have equal := Std.LawfulEqOrd.compare_eq_iff_eq.1 order
          subst equal
          simp only [place, order, find]
          cases found : compare other key <;> simp
      | gt =>
          simp only [place, order, find]
          cases found : compare other k with
          | lt =>
              have greater := Std.OrientedCmp.gt_iff_lt.1 order
              have := Std.TransCmp.lt_trans found greater
              simp [this]
          | eq =>
              have equal := Std.LawfulEqOrd.compare_eq_iff_eq.1 found
              subst equal
              have greater := Std.OrientedCmp.gt_iff_lt.1 order
              simp [greater]
          | gt => simp [ih]

theorem get?_insert [DecidableEq κ] {table : Table κ ν} {key other : κ} {value : ν} :
    (table.insert key value).get? other =
      if other = key then some value else table.get? other := by
  simpa [get?, insert] using
    (find_place : find other (place key value table.entries) = _)

theorem get?_filter {table : Table κ ν} {test : κ → ν → Bool} {key : κ} :
    (table.filter test).get? key = (table.get? key).filter (test key) := by
  apply Option.ext
  intro value
  rw [get?_eq_some_iff]
  simp [filter, Option.filter_eq_some_iff, get?_eq_some_iff]

theorem get?_erase [DecidableEq κ] {table : Table κ ν} {key other : κ} :
    (table.erase key).get? other = if other = key then none else table.get? other := by
  rw [erase, get?_filter]
  by_cases same : other = key
  · subst same
    cases table.get? other <;> simp
  · have differs : compare key other ≠ .eq := fun equal =>
      same (Std.LawfulEqOrd.compare_eq_iff_eq.1 equal).symm
    cases table.get? other <;> simp [same, differs]

theorem get?_map {μ : Type} {table : Table κ ν} {f : κ → ν → μ} {key : κ} :
    (table.map f).get? key = (table.get? key).map (f key) := by
  apply Option.ext
  intro value
  rw [get?_eq_some_iff, Option.map_eq_some_iff]
  constructor
  · intro found
    obtain ⟨⟨k, v⟩, member, equal⟩ := List.mem_map.1 found
    obtain ⟨rfl, rfl⟩ := Prod.mk.inj equal
    exact ⟨v, get?_eq_some_iff.2 member, rfl⟩
  · rintro ⟨v, found, rfl⟩
    exact List.mem_map.2 ⟨(key, v), get?_eq_some_iff.1 found, rfl⟩

theorem get?_modify [DecidableEq κ] {table : Table κ ν} {key other : κ} {f : ν → ν} :
    (table.modify key f).get? other =
      if other = key then (table.get? other).map f else table.get? other := by
  rw [modify, get?_map]
  by_cases same : other = key
  · subst same
    simp
  · have differs : compare key other ≠ .eq := fun equal =>
      same (Std.LawfulEqOrd.compare_eq_iff_eq.1 equal).symm
    cases table.get? other <;> simp [same, differs]

theorem mem_keys_iff {table : Table κ ν} {key : κ} :
    key ∈ table.keys ↔ (table.get? key).isSome = true := by
  rw [Option.isSome_iff_exists]
  simp [keys, get?_eq_some_iff]

/-! ### What holds of all entries -/

section Forall

variable [DecidableEq κ] {holds : κ → ν → Prop} {table : Table κ ν}
  (all : ∀ key value, table.get? key = some value → holds key value)

include all

theorem forall_insert {key : κ} {value : ν} (isNew : holds key value) :
    ∀ other found, (table.insert key value).get? other = some found → holds other found := by
  intro other found isHeld
  rw [get?_insert] at isHeld
  split at isHeld
  next same =>
    cases isHeld
    exact same ▸ isNew
  next => exact all other found isHeld

theorem forall_erase (key : κ) :
    ∀ other found, (table.erase key).get? other = some found → holds other found := by
  intro other found isHeld
  rw [get?_erase] at isHeld
  split at isHeld
  · cases isHeld
  · exact all other found isHeld

theorem forall_modify {key : κ} {change : ν → ν}
    (isKept : ∀ value, holds key value → holds key (change value)) :
    ∀ other found, (table.modify key change).get? other = some found → holds other found := by
  intro other found isHeld
  rw [get?_modify] at isHeld
  split at isHeld
  next same =>
    obtain ⟨before, wasHeld, rfl⟩ := Option.map_eq_some_iff.1 isHeld
    subst same
    exact isKept before (all other before wasHeld)
  next => exact all other found isHeld

end Forall

theorem forall_ofList [DecidableEq κ] {holds : κ → ν → Prop} {entries : List (κ × ν)}
    (all : ∀ e ∈ entries, holds e.1 e.2) :
    ∀ key value, (ofList entries).get? key = some value → holds key value := by
  have folded : ∀ (entries : List (κ × ν)) (start : Table κ ν), (∀ e ∈ entries, holds e.1 e.2) →
      (∀ key value, start.get? key = some value → holds key value) →
      ∀ key value, (entries.foldl (fun table e => table.insert e.1 e.2) start).get? key =
        some value → holds key value := by
    intro entries
    induction entries with
    | nil => exact fun _ _ ofStart => ofStart
    | cons e entries ih =>
        intro start all ofStart
        obtain ⟨isOne, others⟩ := List.forall_mem_cons.1 all
        exact ih _ others (forall_insert ofStart isOne)
  exact folded entries empty all nofun

/-- Whether every value stands under the key that it names. -/
def IsKeyed (keyOf : ν → κ) (table : Table κ ν) : Prop :=
  ∀ key value, table.get? key = some value → keyOf value = key

namespace IsKeyed

variable [DecidableEq κ] {keyOf : ν → κ} {table : Table κ ν}

theorem insert (keyed : table.IsKeyed keyOf) {key : κ} {value : ν} (isOwn : keyOf value = key) :
    (table.insert key value).IsKeyed keyOf :=
  forall_insert keyed isOwn

theorem erase (keyed : table.IsKeyed keyOf) (key : κ) : (table.erase key).IsKeyed keyOf :=
  forall_erase keyed key

theorem modify {change : ν → ν} (keyed : table.IsKeyed keyOf) (key : κ)
    (keeps : ∀ value, keyOf (change value) = keyOf value) :
    (table.modify key change).IsKeyed keyOf :=
  forall_modify keyed fun value isOwn => (keeps value).trans isOwn

end IsKeyed

end Lookup

instance [DecidableEq κ] [DecidableEq ν] : DecidableEq (Table κ ν) :=
  fun left right =>
    if same : left.entries = right.entries then
      isTrue (by
        cases left
        cases right
        cases same
        rfl)
    else
      isFalse (fun equal => same (congrArg entries equal))

end Table

end AdMonitor
