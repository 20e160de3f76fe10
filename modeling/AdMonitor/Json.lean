/-!
# JSON trees

Integers and other numbers are kept apart, because a field that counts
something accepts only the former.  Members of an object keep the order and
the repetitions of their text.
-/

namespace AdMonitor

inductive Json where
  | null
  | bool (value : Bool)
  | int (value : Int)
  | float (value : Float)
  | str (value : String)
  | arr (items : List Json)
  | obj (members : List (String × Json))
  deriving Inhabited

namespace Json

/-- A number that is not finite has no text and is written as null. -/
def ofFloat (x : Float) : Json :=
  if x.isFinite then .float x else .null

def ofOption {α : Type} (encode : α → Json) : Option α → Json
  | none => .null
  | some a => encode a

def ofStrings (items : List String) : Json :=
  .arr (items.map .str)

def optional {α : Type} (name : String) (encode : α → Json) :
    Option α → List (String × Json)
  | none => []
  | some a => [(name, encode a)]

def get? (json : Json) (name : String) : Option Json :=
  match json with
  | .obj members => (members.reverse.find? (fun m => m.1 == name)).map (·.2)
  | _ => none

end Json

end AdMonitor
