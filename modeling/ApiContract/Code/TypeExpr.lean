import ApiContract.Code.Quoted
import ApiContract.Text.Lines

/-!
Types as they are written in generated code.
-/

set_option autoImplicit false

namespace ApiContract.Code

inductive TypeExpr where
  | named (name : String)
  | arrayOf (element : TypeExpr)
  | union (members : List TypeExpr)
  | generic (name : String) (args : List TypeExpr)
  | literal (value : String)
deriving Inhabited

namespace TypeExpr

mutual

-- The text of a type. Only a union right under an array is put in parentheses.
def render : TypeExpr → String
  | .named name => name
  | .arrayOf (.union members) => "(" ++ Text.join " | " (renderAll members) ++ ")[]"
  | .arrayOf element => render element ++ "[]"
  | .union members => Text.join " | " (renderAll members)
  | .generic name args => name ++ "<" ++ Text.join ", " (renderAll args) ++ ">"
  | .literal value => quoted value

def renderAll : List TypeExpr → List String
  | [] => []
  | t :: rest => render t :: renderAll rest

end

def null : TypeExpr := .named "null"

def isNull : TypeExpr → Bool
  | .named name => name == "null"
  | _ => false

-- The type or null; null is not added to a union that has it.
def nullable : TypeExpr → TypeExpr
  | .union members =>
      if members.any isNull then .union members else .union (members ++ [null])
  | other => .union [other, null]

def promise (inner : TypeExpr) : TypeExpr :=
  .generic "Promise" [inner]

end TypeExpr

end ApiContract.Code
