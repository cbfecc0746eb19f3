/-!
The syntax tree of a text of TypeScript, as a parser of the language gives it. A node says what kind
it is, which field of its parent it fills, and which part of the text it spans; where it stands is
counted from the end of the text. What a parser could not read is in the tree, as nodes for errors and
for what is missing.
-/

set_option autoImplicit false

namespace ApiContract.Script

structure Node where
  field : Option String
  kind : String
  named : Bool
  missing : Bool
  text : List Char
  left : Nat
  children : List Node

-- The parser that is used.
class Parser where
  parse : String → Node

namespace Node

def leftAfter (n : Node) : Nat :=
  n.left - n.text.length

-- The node as the child that fills a field.
def as (n : Node) (field : String) : Node :=
  { n with field := some field }

def child? (n : Node) (field : String) : Option Node :=
  n.children.find? fun c => c.field == some field

def namedChildren (n : Node) : List Node :=
  n.children.filter named

mutual

def hasError : Node → Bool
  | ⟨_, kind, _, missing, _, _, children⟩ => kind == "ERROR" || missing || anyError children

def anyError : List Node → Bool
  | [] => false
  | n :: rest => n.hasError || anyError rest

end

mutual

-- The places of the outermost errors.
def errors : Node → List Nat
  | ⟨_, kind, _, missing, _, left, children⟩ =>
      if kind == "ERROR" || missing then [left] else errorsAmong children

def errorsAmong : List Node → List Nat
  | [] => []
  | n :: rest => (if n.hasError then n.errors else []) ++ errorsAmong rest

end

def calls (callee : String) (n : Node) : Bool :=
  n.kind == "call_expression" && (n.child? "function").any fun f => f.text == callee.toList

mutual

-- The first call of a function at or below a node.
def findCall? (callee : String) : Node → Option Node
  | ⟨field, kind, named, missing, text, left, children⟩ =>
      let n : Node := ⟨field, kind, named, missing, text, left, children⟩
      if n.calls callee then some n else findCallAmong? callee children

def findCallAmong? (callee : String) : List Node → Option Node
  | [] => none
  | n :: rest =>
      match if n.named then n.findCall? callee else none with
      | some call => some call
      | none => findCallAmong? callee rest

end

end Node

end ApiContract.Script
