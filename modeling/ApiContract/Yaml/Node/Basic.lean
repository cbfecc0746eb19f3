import ApiContract.Yaml.Token.Basic

/-!
Documents as trees of values. A tree that could only be read in part ends in a cut, so that what
stands in front of it can still be looked at.
-/

set_option autoImplicit false

namespace ApiContract.Yaml

structure Header where
  mark : Mark
  tag : Option String := none
  anchor : Option Nat := none
deriving DecidableEq

inductive Node where
  | scalar (header : Header) (text : String) (style : ScalarStyle)
  | sequence (header : Header) (items : List Node)
  | mapping (header : Header) (entries : List (Node × Node))
  | reference (mark : Mark) (anchor : Nat)
  | cut
deriving Inhabited

inductive Stop where
  | fault (fault : Fault)
  | unknownAnchor (mark : Mark)
deriving DecidableEq

-- The first document of a text; a text without any document has no root.
structure Document where
  root : Option Node
  stop : Option Stop
  more : Bool

namespace Node

def later (first second : Option Node) : Option Node :=
  match second with
  | some node => some node
  | none => first

mutual

def find? (anchor : Nat) : Node → Option Node
  | .scalar header text style =>
      if header.anchor = some anchor then some (.scalar header text style) else none
  | .sequence header items =>
      later (if header.anchor = some anchor then some (.sequence header items) else none)
        (findItems? anchor items)
  | .mapping header entries =>
      later (if header.anchor = some anchor then some (.mapping header entries) else none)
        (findEntries? anchor entries)
  | .reference _ _ => none
  | .cut => none

def findItems? (anchor : Nat) : List Node → Option Node
  | [] => none
  | item :: rest => later (find? anchor item) (findItems? anchor rest)

def findEntries? (anchor : Nat) : List (Node × Node) → Option Node
  | [] => none
  | (key, value) :: rest =>
      later (later (find? anchor key) (find? anchor value)) (findEntries? anchor rest)

end

mutual

-- How many marks of beginning and end and how many scalars and aliases a tree has; the flag tells
-- whether it is whole.
def weight : Node → Nat × Bool
  | .scalar _ _ _ => (1, true)
  | .reference _ _ => (1, true)
  | .cut => (0, false)
  | .sequence _ items =>
      let inside := weightItems items
      (inside.1 + if inside.2 then 2 else 1, inside.2)
  | .mapping _ entries =>
      let inside := weightEntries entries
      (inside.1 + if inside.2 then 2 else 1, inside.2)

def weightItems : List Node → Nat × Bool
  | [] => (0, true)
  | item :: rest =>
      let one := weight item
      let others := weightItems rest
      (one.1 + others.1, one.2 && others.2)

def weightEntries : List (Node × Node) → Nat × Bool
  | [] => (0, true)
  | (key, value) :: rest =>
      let one := weight key
      let two := weight value
      let others := weightEntries rest
      (one.1 + two.1 + others.1, one.2 && two.2 && others.2)

end

end Node

end ApiContract.Yaml
