import AdMonitor.Condition
import AdMonitor.Json.Decoder

/-!
# Written conditions

The JSON form of a condition.  A bound that is not finite is written as null
and cannot be read back.
-/

namespace AdMonitor

namespace Comparison

def toJson (comparison : Comparison) : Json := .str comparison.symbol

def ofJson? (json : Json) : Option Comparison := do
  let word ← json.toWord?
  all.find? (fun c => c.symbol == word)

end Comparison

namespace Connective

def toJson : Connective → Json
  | .all => .str "AND"
  | .any => .str "OR"

def ofJson? (json : Json) : Option Connective := do
  match ← json.toWord? with
  | "AND" | "and" => some .all
  | "OR" | "or" => some .any
  | _ => none

end Connective

namespace Condition

mutual

def toJson : Condition → Json
  | .threshold metric comparison bound =>
      .obj [("type", .str "threshold"), ("metric", .str metric),
        ("operator", comparison.toJson), ("value", .ofFloat bound)]
  | .composite connective children =>
      .obj [("type", .str "composite"), ("operator", connective.toJson),
        ("children", .arr (toJsonList children))]

def toJsonList : List Condition → List Json
  | [] => []
  | child :: rest => toJson child :: toJsonList rest

end

def thresholdOf? (content : Json) : Option Condition := do
  let fields ← content.fields? ["metric", "operator", "value"]
  let metric ← fields.required "metric" Json.toText?
  let comparison ← fields.required "operator" Comparison.ofJson?
  let bound ← fields.required "value" Json.toFloat?
  return .threshold metric comparison bound

def connectiveOf? (content : Json) : Option Connective := do
  let fields ← content.fields? ["operator", "children"]
  fields.required "operator" Connective.ofJson?

/-- A condition of a variant; its children are read apart from the rest. -/
def ofVariant? (variant : String × Json) (children : Option (List Condition)) :
    Option Condition :=
  match variant with
  | ("threshold", content) => thresholdOf? content
  | ("composite", content) => do
      let connective ← connectiveOf? content
      return .composite connective (← children)
  | _ => none

mutual

def ofJson? : Json → Option Condition
  | .obj members => do ofVariant? (← (Json.obj members).variant? "type") (childrenOf? members)
  | .arr items => do ofVariant? (← (Json.arr items).variant? "type") (childrenAt? items)
  | _ => none

/-- The conditions of the first member that is named `children`. -/
def childrenOf? : List (String × Json) → Option (List Condition)
  | [] => none
  | (name, value) :: rest =>
      if name == "children" then listOf? value else childrenOf? rest

def childrenAt? : List Json → Option (List Condition)
  | [_, _, children] => listOf? children
  | _ => none

def listOf? : Json → Option (List Condition)
  | .arr items => itemsOf? items
  | _ => none

def itemsOf? : List Json → Option (List Condition)
  | [] => some []
  | item :: rest => do
      let child ← ofJson? item
      let others ← itemsOf? rest
      return child :: others

end

end Condition

end AdMonitor
