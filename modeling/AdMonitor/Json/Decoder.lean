import AdMonitor.Json
import AdMonitor.Decimal.Reading

/-!
# Decoding JSON trees

A structure is written as an object with its fields as members, or as an
array of its fields in order.  Unknown members are ignored, a repeated field
is refused.  A union is an object whose variant is named by one of its
members, or an array whose first item names the variant.
-/

namespace AdMonitor.Json

def toBool? : Json → Option Bool
  | .bool b => some b
  | _ => none

def toText? : Json → Option String
  | .str s => some s
  | _ => none

/-- Any number; integers are taken to the nearest floating-point number. -/
def toFloat? : Json → Option Float
  | .int n => some (Decimal.ofInt n)
  | .float x => some x
  | _ => none

/-- An integer of at most `bits` bits without sign. -/
def toNat? (bits : Nat) : Json → Option Nat
  | .int (.ofNat n) => if n < Nat.pow 2 bits then some n else none
  | _ => none

/-- A word chosen from a closed list: a string, or an object that maps it to null. -/
def toWord? : Json → Option String
  | .str s => some s
  | .obj [(s, .null)] => some s
  | _ => none

def toOption? {α : Type} (decode : Json → Option α) : Json → Option (Option α)
  | .null => some none
  | json => (decode json).map some

def toList? {α : Type} (decode : Json → Option α) : Json → Option (List α)
  | .arr items => items.mapM decode
  | _ => none

def toMembers? : Json → Option (List (String × Json))
  | .obj members => some members
  | _ => none

structure Fields where
  members : List (String × Json)

namespace Fields

def find? (fields : Fields) (name : String) : Option Json :=
  (fields.members.find? (fun m => m.1 == name)).map (·.2)

def required {α : Type} (fields : Fields) (name : String) (decode : Json → Option α) :
    Option α :=
  (fields.find? name).bind decode

/-- A field that takes a default when it is absent; null is no default. -/
def withDefault {α : Type} (fields : Fields) (name : String) (default : α)
    (decode : Json → Option α) : Option α :=
  match fields.find? name with
  | none => some default
  | some json => decode json

def optional {α : Type} (fields : Fields) (name : String) (decode : Json → Option α) :
    Option (Option α) :=
  fields.withDefault name none (toOption? decode)

end Fields

def repeats (name : String) (members : List (String × Json)) : Bool :=
  1 < members.countP (fun m => m.1 == name)

def namedFields? (names : List String) : Json → Option Fields
  | .obj members =>
      if names.any (fun name => repeats name members) then none else some ⟨members⟩
  | _ => none

/-- The fields of a structure written as an object or as an array. -/
def fields? (names : List String) : Json → Option Fields
  | .arr items => if items.length ≤ names.length then some ⟨names.zip items⟩ else none
  | json => namedFields? names json

/-- The variant that a member or the first item names, with what the variant is read from. -/
def variant? (tag : String) : Json → Option (String × Json)
  | .obj members => do
      let fields ← namedFields? [tag] (.obj members)
      let name ← fields.required tag toText?
      return (name, .obj members)
  | .arr (first :: rest) => do
      let name ← first.toText?
      return (name, .arr rest)
  | _ => none

end AdMonitor.Json
