/-!
JSON values. Objects keep their fields in order of first appearance.
-/

set_option autoImplicit false

namespace ApiContract

inductive Json where
  | null
  | bool (value : Bool)
  | int (value : Int)
  | float (value : Float)
  | text (value : String)
  | array (items : List Json)
  | object (fields : List (String × Json))
deriving Inhabited

namespace Json

def put (name : String) (value : Json) : List (String × Json) → List (String × Json)
  | [] => [(name, value)]
  | field :: rest =>
      if field.1 = name then (name, value) :: rest else field :: put name value rest

def field? (name : String) : List (String × Json) → Option Json
  | [] => none
  | field :: rest => if field.1 = name then some field.2 else field? name rest

-- A field of an object; other values have none.
def get? (value : Json) (name : String) : Option Json :=
  match value with
  | .object fields => field? name fields
  | _ => none

def optional (name : String) (value : Option Json) : List (String × Json) :=
  match value with
  | some v => [(name, v)]
  | none => []

def nonEmpty (name : String) (items : List Json) : List (String × Json) :=
  if items.isEmpty then [] else [(name, .array items)]

def texts (values : List String) : Json := .array (values.map text)

def flag (name : String) (value : Bool) : List (String × Json) :=
  if value then [(name, .bool true)] else []

end Json

end ApiContract
