import AdMonitor.Json.Decoder
import AdMonitor.Proofs.Decimal.Finite
import AdMonitor.Proofs.Json.Text

/-!
# The numbers of a text

Every number that is read from a text is finite, also when a field takes an
integer to a floating-point number.
-/

namespace AdMonitor.Json

/-- Trees whose integers have at most 64 bits and whose other numbers are finite. -/
inductive IsFinite : Json → Prop
  | null : IsFinite .null
  | bool (b : Bool) : IsFinite (.bool b)
  | str (s : String) : IsFinite (.str s)
  | int {n : Int} (isPlain : isPlainInt n = true) : IsFinite (.int n)
  | float {x : Float} (isFinite : x.isFinite = true) : IsFinite (.float x)
  | arr {items : List Json} (areFinite : ∀ item ∈ items, IsFinite item) : IsFinite (.arr items)
  | obj {members : List (String × Json)} (areFinite : ∀ m ∈ members, IsFinite m.2) :
      IsFinite (.obj members)

theorem IsFinite.toFloat? {json : Json} {x : Float} (finite : IsFinite json)
    (isRead : json.toFloat? = some x) : x.isFinite = true := by
  cases finite with
  | int isPlain =>
      cases isRead
      exact Decimal.isFinite_ofInt isPlain
  | float isFinite =>
      cases isRead
      exact isFinite
  | _ => cases isRead

theorem isFinite_of_readMagnitude {negative : Bool} {text rest : List Char} {json : Json}
    (isRead : readMagnitude negative text = some (json, rest)) : IsFinite json := by
  obtain ⟨⟨whole, left⟩, -, isRead⟩ := Option.bind_eq_some_iff.1 isRead
  obtain ⟨⟨fraction, left⟩, -, isRead⟩ := Option.bind_eq_some_iff.1 isRead
  obtain ⟨⟨exponent, left⟩, -, isRead⟩ := Option.bind_eq_some_iff.1 isRead
  dsimp only at isRead
  generalize (if negative = true then -(digitsValue (whole ++ fraction) : Int)
    else digitsValue (whole ++ fraction)) = signed at isRead
  split at isRead
  · next isInt =>
    cases isRead
    exact .int (Bool.and_eq_true_iff.1 isInt).2
  · obtain ⟨x, isNearest, isRead⟩ := Option.bind_eq_some_iff.1 isRead
    cases isRead
    exact .float (Decimal.isFinite_of_nearest? isNearest)

theorem isFinite_of_readNumber {text rest : List Char} {json : Json}
    (isRead : readNumber text = some (json, rest)) : IsFinite json := by
  by_cases minus : '-' ∈ text.head?
  · cases text with
    | nil => cases minus
    | cons c text =>
        cases minus
        exact isFinite_of_readMagnitude isRead
  · rw [readNumber_of_ne_minus minus] at isRead
    exact isFinite_of_readMagnitude isRead

section Lists

variable {α : Type} {item : List Char → Option (α × List Char)} {holds : α → Prop}
  {close : Char} {text rest : List Char} {items : List α}

/-- What holds of every item that is read holds of all items of a list. -/
theorem forall_of_readItems (ofItem : ∀ text a rest, item text = some (a, rest) → holds a)
    {fuel : Nat} {read : List α} (ofRead : ∀ a ∈ read, holds a)
    (isRead : readItems item close fuel read text = some (items, rest)) : ∀ a ∈ items, holds a := by
  induction fuel generalizing read text with
  | zero => cases isRead
  | succ fuel ih =>
      obtain ⟨⟨a, left⟩, isItem, isRead⟩ := Option.bind_eq_some_iff.1 isRead
      have ofRead' : ∀ b ∈ a :: read, holds b := by
        intro b found
        rcases List.mem_cons.1 found with rfl | found
        · exact ofItem _ _ _ isItem
        · exact ofRead b found
      dsimp only at isRead
      split at isRead
      · exact ih ofRead' isRead
      · split at isRead
        · cases isRead
          intro b found
          exact ofRead' b (List.mem_reverse.1 found)
        · cases isRead
      · cases isRead

theorem forall_of_readList (ofItem : ∀ text a rest, item text = some (a, rest) → holds a)
    {size : Nat} (isRead : readList item close size text = some (items, rest)) :
    ∀ a ∈ items, holds a := by
  unfold readList at isRead
  split at isRead
  · cases isRead
  · split at isRead
    · cases isRead
      exact fun _ found => nomatch found
    · exact forall_of_readItems ofItem (by simp) isRead

end Lists

theorem isFinite_of_readMember {size : Nat} {value : List Char → Option (Json × List Char)}
    {text rest : List Char} {m : String × Json}
    (ofValue : ∀ text json rest, value text = some (json, rest) → IsFinite json)
    (isRead : readMember size value text = some (m, rest)) : IsFinite m.2 := by
  unfold readMember at isRead
  split at isRead
  · obtain ⟨⟨name, left⟩, -, isRead⟩ := Option.bind_eq_some_iff.1 isRead
    dsimp only at isRead
    split at isRead
    · obtain ⟨⟨json, left⟩, isValue, isRead⟩ := Option.bind_eq_some_iff.1 isRead
      cases isRead
      exact ofValue _ _ _ isValue
    · cases isRead
  · cases isRead

/-- A tree has only the numbers of its leaves, which nest less deep. -/
theorem isFinite_of_leaves {size depth : Nat} {text rest : List Char} {json : Json}
    (ofInner : ∀ inner, depth = inner + 1 → ∀ text json rest,
      readValue size inner text = some (json, rest) → IsFinite json)
    (isRead : readValue size depth text = some (json, rest)) : IsFinite json := by
  unfold readValue at isRead
  split at isRead
  · cases isRead
  · obtain ⟨_, -, same⟩ := Option.map_eq_some_iff.1 isRead
    cases same
    exact .null
  · obtain ⟨_, -, same⟩ := Option.map_eq_some_iff.1 isRead
    cases same
    exact .bool true
  · obtain ⟨_, -, same⟩ := Option.map_eq_some_iff.1 isRead
    cases same
    exact .bool false
  · obtain ⟨⟨s, _⟩, -, same⟩ := Option.map_eq_some_iff.1 isRead
    cases same
    exact .str s
  · cases depth with
    | zero => cases isRead
    | succ inner =>
        obtain ⟨⟨items, _⟩, areRead, same⟩ := Option.map_eq_some_iff.1 isRead
        cases same
        exact .arr (forall_of_readList (ofInner inner rfl) areRead)
  · cases depth with
    | zero => cases isRead
    | succ inner =>
        obtain ⟨⟨members, _⟩, areRead, same⟩ := Option.map_eq_some_iff.1 isRead
        cases same
        exact .obj (forall_of_readList
          (fun _ _ _ => isFinite_of_readMember (ofInner inner rfl)) areRead)
  · exact isFinite_of_readNumber isRead

theorem isFinite_of_readValue {size depth : Nat} {text rest : List Char} {json : Json}
    (isRead : readValue size depth text = some (json, rest)) : IsFinite json := by
  induction depth generalizing text json rest with
  | zero => exact isFinite_of_leaves (fun _ same => absurd same (Nat.succ_ne_zero _).symm) isRead
  | succ depth ih =>
      refine isFinite_of_leaves (fun inner same => ?_) isRead
      cases same
      exact fun _ _ _ => ih

/-- Every number of a text that is read is finite. -/
theorem isFinite_of_parse? {text : String} {json : Json} (isRead : parse? text = some json) :
    IsFinite json := by
  obtain ⟨⟨tree, rest⟩, isValue, isRead⟩ := Option.bind_eq_some_iff.1 isRead
  dsimp only at isRead
  split at isRead
  · cases isRead
    exact isFinite_of_readValue isValue
  · cases isRead

/-! ## Decoding -/

def Fields.AreFinite (fields : Fields) : Prop :=
  ∀ m ∈ fields.members, IsFinite m.2

section Decoding

variable {α : Type} {name : String} {names : List String} {json : Json} {fields : Fields}
  {decode : Json → Option α}

theorem IsFinite.namedFields? (finite : IsFinite json)
    (isRead : json.namedFields? names = some fields) : fields.AreFinite := by
  cases finite with
  | obj areFinite =>
      rw [Json.namedFields?] at isRead
      split at isRead
      · cases isRead
      · cases isRead
        exact areFinite
  | _ => cases isRead

theorem IsFinite.fields? (finite : IsFinite json) (isRead : json.fields? names = some fields) :
    fields.AreFinite := by
  cases json with
  | arr items =>
      cases finite with
      | arr areFinite =>
          rw [Json.fields?] at isRead
          split at isRead
          · cases isRead
            exact fun m found => areFinite m.2 (List.of_mem_zip found).2
          · cases isRead
  | _ => exact finite.namedFields? (show Json.namedFields? names _ = some fields from isRead)

theorem Fields.AreFinite.find? (areFinite : fields.AreFinite)
    (isFound : fields.find? name = some json) : IsFinite json := by
  obtain ⟨m, found, rfl⟩ := Option.map_eq_some_iff.1 isFound
  exact areFinite m (List.mem_of_find?_eq_some found)

/-- What a field decodes has finite numbers. -/
theorem Fields.AreFinite.required {a : α} (areFinite : fields.AreFinite)
    (isRead : fields.required name decode = some a) :
    ∃ json, IsFinite json ∧ decode json = some a := by
  obtain ⟨json, isFound, isRead⟩ := Option.bind_eq_some_iff.1 isRead
  exact ⟨json, areFinite.find? isFound, isRead⟩

theorem Fields.AreFinite.optional {a : α} (areFinite : fields.AreFinite)
    (isRead : fields.optional name decode = some (some a)) :
    ∃ json, IsFinite json ∧ decode json = some a := by
  rw [Fields.optional, Fields.withDefault] at isRead
  split at isRead
  · cases isRead
  · next json isFound =>
    refine ⟨json, areFinite.find? isFound, ?_⟩
    unfold toOption? at isRead
    split at isRead
    · cases isRead
    · simpa using isRead

theorem mem_of_mapM {β : Type} {items : List β} {decode : β → Option α} {decoded : List α}
    (areRead : items.mapM decode = some decoded) :
    ∀ a ∈ decoded, ∃ item ∈ items, decode item = some a := by
  induction items generalizing decoded with
  | nil =>
      cases areRead
      exact fun _ found => nomatch found
  | cons item items ih =>
      rw [List.mapM_cons] at areRead
      obtain ⟨a, isRead, areRead⟩ := Option.bind_eq_some_iff.1 areRead
      obtain ⟨others, areOthers, same⟩ := Option.bind_eq_some_iff.1 areRead
      cases same
      intro b found
      rcases List.mem_cons.1 found with rfl | found
      · exact ⟨item, List.mem_cons_self, isRead⟩
      · obtain ⟨other, present, isRead⟩ := ih areOthers b found
        exact ⟨other, List.mem_cons_of_mem _ present, isRead⟩

theorem IsFinite.toList? {items : List α} (finite : IsFinite json)
    (areRead : json.toList? decode = some items) :
    ∀ a ∈ items, ∃ item, IsFinite item ∧ decode item = some a := by
  cases finite with
  | arr areFinite =>
      intro a found
      obtain ⟨item, present, isRead⟩ := mem_of_mapM areRead a found
      exact ⟨item, areFinite item present, isRead⟩
  | _ => cases areRead

end Decoding

end AdMonitor.Json
