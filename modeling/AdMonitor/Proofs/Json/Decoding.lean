import AdMonitor.Json.Decoder
import Mathlib.Algebra.GroupWithZero.Nat

/-!
# Decoding what was encoded

A structure that was written as an object is read field by field.  The lemmas
here say what reading finds among members whose names differ; that a value is
read back is then a matter of its fields alone.
-/

namespace AdMonitor.Json

variable {α : Type} {name own : String} {names : List String} {json : Json}
  {members rest : List (String × Json)} {decode : Json → Option α} {encode : α → Json}

/-- Members whose names differ give no field twice. -/
theorem repeats_eq_false (distinct : (members.map (·.1)).Nodup) (name : String) :
    repeats name members = false := by
  have once : (members.map (·.1)).count name ≤ 1 := List.nodup_iff_count.1 distinct name
  have same : members.countP (fun m => m.1 == name) = (members.map (·.1)).count name := by
    rw [List.count, List.countP_map]
    rfl
  rw [repeats, same]
  exact decide_eq_false (Nat.not_lt.2 once)

theorem namedFields?_obj (distinct : (members.map (·.1)).Nodup) :
    namedFields? names (.obj members) = some ⟨members⟩ := by
  have none_repeats : names.any (fun name => repeats name members) = false := by
    rw [List.any_eq_false]
    intro name _
    rw [repeats_eq_false distinct]
    exact Bool.false_ne_true
  simp [namedFields?, none_repeats]

theorem fields?_obj (distinct : (members.map (·.1)).Nodup) :
    fields? names (.obj members) = some ⟨members⟩ :=
  namedFields?_obj distinct

/-- A union is read by the member that names its variant, wherever that stands. -/
theorem variant?_obj (distinct : (members.map (·.1)).Nodup) :
    variant? name (.obj members) =
      (Fields.required ⟨members⟩ name toText?).map (·, .obj members) := by
  simp only [variant?, namedFields?_obj distinct, Option.bind_eq_bind, Option.bind_some]
  cases Fields.required ⟨members⟩ name toText? <;> rfl

namespace Fields

@[simp] theorem required_nil : required ⟨[]⟩ name decode = none := rfl

@[simp] theorem required_cons : required ⟨(own, json) :: rest⟩ name decode =
    if own = name then decode json else required ⟨rest⟩ name decode := by
  by_cases same : own = name <;> simp [required, find?, same]

@[simp] theorem withDefault_nil {value : α} :
    withDefault ⟨[]⟩ name value decode = some value := rfl

@[simp] theorem withDefault_cons {value : α} :
    withDefault ⟨(own, json) :: rest⟩ name value decode =
      if own = name then decode json else withDefault ⟨rest⟩ name value decode := by
  by_cases same : own = name <;> simp [withDefault, find?, same]

@[simp] theorem optional_nil : optional ⟨[]⟩ name decode = some none := rfl

@[simp] theorem optional_cons : optional ⟨(own, json) :: rest⟩ name decode =
    if own = name then toOption? decode json else optional ⟨rest⟩ name decode :=
  withDefault_cons

end Fields

/-- A value is read where null would stand for its absence. -/
theorem toOption?_of_decodes {a : α} (rejects : decode .null = none)
    (decodes : decode json = some a) : toOption? decode json = some (some a) := by
  cases json with
  | null =>
      rw [rejects] at decodes
      cases decodes
  | _ => simp [toOption?, decodes]

theorem toOption?_ofOption {value : Option α} (rejects : decode .null = none)
    (decodes : ∀ a, value = some a → decode (encode a) = some a) :
    toOption? decode (ofOption encode value) = some value := by
  cases value with
  | none => rfl
  | some a => exact toOption?_of_decodes rejects (decodes a rfl)

theorem mapM_map {β : Type} {items : List α} {encode : α → β} {decode : β → Option α}
    (decodes : ∀ a ∈ items, decode (encode a) = some a) :
    (items.map encode).mapM decode = some items := by
  induction items with
  | nil => rfl
  | cons a rest ih =>
      have isRead := ih fun b found => decodes b (List.mem_cons_of_mem _ found)
      simp [List.mapM_cons, decodes a List.mem_cons_self, isRead]

theorem toList?_map {items : List α} (decodes : ∀ a ∈ items, decode (encode a) = some a) :
    toList? decode (.arr (items.map encode)) = some items :=
  mapM_map decodes

@[simp] theorem toList?_ofStrings {items : List String} :
    toList? toText? (ofStrings items) = some items :=
  toList?_map fun _ _ => rfl

theorem toFloat?_ofFloat {x : Float} (isFinite : x.isFinite = true) :
    toFloat? (ofFloat x) = some x := by
  simp [ofFloat, isFinite, toFloat?]

theorem toNat?_int {bits n : Nat} (fits : n < 2 ^ bits) :
    toNat? bits (.int n) = some n := by
  have fits' : n < Nat.pow 2 bits := fits
  exact if_pos fits'

end AdMonitor.Json
