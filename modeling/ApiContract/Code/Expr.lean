import ApiContract.Code.TypeExpr
import ApiContract.Name
import ApiContract.Number.Shortest

/-!
Expressions of generated code and their text. Parentheses are put where an operand binds weaker
than its place asks for.
-/

set_option autoImplicit false

namespace ApiContract.Code

inductive Literal where
  | null
  | bool (value : Bool)
  | int (value : Int)
  | float (value : Float)
  | text (value : String)
deriving DecidableEq

inductive BinaryOp where
  | strictEq
  | strictNe
  | eq
  | ne
  | lt
  | le
  | gt
  | ge
  | add
  | sub
  | mul
  | div
  | rem
  | and
  | or
  | coalesce
  | instanceOf
  | isIn
deriving DecidableEq

inductive UnaryOp where
  | not
  | neg
  | typeOf
deriving DecidableEq

mutual

inductive Expr where
  | raw (code : String)
  | ident (name : String)
  | literal (value : Literal)
  | call (callee : Expr) (args : List Expr)
  | construct (callee : Expr) (args : List Expr)
  -- A property; `optional` asks for it only when the object is there.
  | member (target : Expr) (property : String) (optional : Bool)
  | index (target : Expr) (key : Expr)
  | binary (left : Expr) (op : BinaryOp) (right : Expr)
  | unary (op : UnaryOp) (operand : Expr)
  | await (operand : Expr)
  | object (fields : List (String × Expr))
  | array (items : List Expr)
  | template (parts : List TemplatePart)
  | arrow (params : List Param) (body : Expr) (isAsync : Bool)
  | cast (operand : Expr) (type : TypeExpr)
  | conditional (test : Expr) (whenTrue : Expr) (whenFalse : Expr)

inductive TemplatePart where
  | text (text : String)
  | hole (value : Expr)

inductive Param where
  | mk (name : String) (type : Option TypeExpr) (optional : Bool) (default : Option Expr)

end

def BinaryOp.symbol : BinaryOp → String
  | .strictEq => "==="
  | .strictNe => "!=="
  | .eq => "=="
  | .ne => "!="
  | .lt => "<"
  | .le => "<="
  | .gt => ">"
  | .ge => ">="
  | .add => "+"
  | .sub => "-"
  | .mul => "*"
  | .div => "/"
  | .rem => "%"
  | .and => "&&"
  | .or => "||"
  | .coalesce => "??"
  | .instanceOf => "instanceof"
  | .isIn => "in"

def BinaryOp.strength : BinaryOp → Nat
  | .mul | .div | .rem => 14
  | .add | .sub => 13
  | .lt | .le | .gt | .ge | .instanceOf | .isIn => 11
  | .strictEq | .strictNe | .eq | .ne => 10
  | .and => 6
  | .or => 5
  | .coalesce => 4

def BinaryOp.isLogical : BinaryOp → Bool
  | .and | .or => true
  | _ => false

def UnaryOp.symbol : UnaryOp → String
  | .not => "!"
  | .neg => "-"
  | .typeOf => "typeof "

def UnaryOp.word : UnaryOp → String
  | .not => "!"
  | .neg => "-"
  | .typeOf => "typeof"

-- A text as a template has it: the backslashes, then the backticks, then each dollar sign in front
-- of a brace get a backslash.
def templateText : List Char → List Char
  | [] => []
  | '$' :: '\x7b' :: rest => '\\' :: '$' :: '\x7b' :: templateText rest
  | c :: rest =>
      if c = '\\' ∨ c = '\x60' then '\\' :: c :: templateText rest else c :: templateText rest

def Literal.render : Literal → String
  | .null => "null"
  | .bool value => if value then "true" else "false"
  | .int value => toString value
  | .float value =>
      if value.isNaN then "NaN"
      else if value.isInf then (if value < 0.0 then "-Infinity" else "Infinity")
      else Number.Spelling.plain.float value
  | .text value => quoted value

namespace Expr

def primary : Nat := 20
def prefixed : Nat := 16
def casting : Nat := 11
def choosing : Nat := 3
def arrowing : Nat := 2

def strength : Expr → Nat
  | .binary _ op _ => op.strength
  | .unary _ _ | .await _ => prefixed
  | .cast _ _ => casting
  | .conditional _ _ _ => choosing
  | .arrow _ _ _ => arrowing
  | _ => primary

def wrapIf (needed : Bool) (text : String) : String :=
  if needed then "(" ++ text ++ ")" else text

-- Whether an operand of `op` needs parentheses: it binds weaker, or it is as strong and stands on
-- the right, or one of the two is `??` and the other is `&&` or `||`.
def operandNeedsWrap (op : BinaryOp) (onRight : Bool) (operand : Expr) : Bool :=
  match operand with
  | .binary _ inner _ =>
      (op == .coalesce && inner.isLogical) || (inner == .coalesce && op.isLogical) ||
        decide (inner.strength < op.strength) || (onRight && inner.strength == op.strength)
  | other => decide (other.strength < op.strength)

def isObject : Expr → Bool
  | .object _ => true
  | _ => false

def isIdent (name : String) : Expr → Bool
  | .ident other => other == name
  | _ => false

-- An object field's name; quoted when it is not an identifier.
def keyText (key : String) : String :=
  if Name.isIdentifier key then key else quoted key

mutual

def render : Expr → String
  | .raw code => code
  | .ident name => name
  | .literal value => value.render
  | .call callee args =>
      wrapIf (decide (callee.strength < primary)) (render callee) ++
        "(" ++ Text.join ", " (renderArgs args) ++ ")"
  | .construct callee args =>
      "new " ++ wrapIf (decide (callee.strength < primary)) (render callee) ++
        "(" ++ Text.join ", " (renderArgs args) ++ ")"
  | .member target property optional =>
      wrapIf (decide (target.strength < primary)) (render target) ++
        (if optional then "?." else ".") ++ property
  | .index target key =>
      wrapIf (decide (target.strength < primary)) (render target) ++ "[" ++ render key ++ "]"
  | .binary left op right =>
      wrapIf (operandNeedsWrap op false left) (render left) ++ " " ++ op.symbol ++ " " ++
        wrapIf (operandNeedsWrap op true right) (render right)
  | .unary op operand =>
      op.symbol ++ wrapIf (decide (operand.strength < prefixed)) (render operand)
  | .await operand =>
      "await " ++ wrapIf (decide (operand.strength < prefixed)) (render operand)
  | .object [] => "\x7b\x7d"
  | .object (field :: rest) =>
      "\x7b " ++ Text.join ", " (renderFields (field :: rest)) ++ " \x7d"
  | .array items => "[" ++ Text.join ", " (renderArgs items) ++ "]"
  | .template parts => "\x60" ++ renderParts parts ++ "\x60"
  | .arrow params body isAsync =>
      (if isAsync then "async (" else "(") ++ Text.join ", " (renderParams params) ++ ") => " ++
        wrapIf (body.isObject || decide (body.strength < arrowing)) (render body)
  | .cast operand type =>
      wrapIf (decide (operand.strength < primary)) (render operand) ++ " as " ++ type.render
  | .conditional test whenTrue whenFalse =>
      wrapIf (decide (test.strength < choosing + 1)) (render test) ++ " ? " ++
        wrapIf (decide (whenTrue.strength < choosing)) (render whenTrue) ++ " : " ++
        wrapIf (decide (whenFalse.strength < choosing)) (render whenFalse)

def renderArgs : List Expr → List String
  | [] => []
  | e :: rest => wrapIf (decide (e.strength < arrowing)) (render e) :: renderArgs rest

def renderFields : List (String × Expr) → List String
  | [] => []
  | (key, value) :: rest =>
      (if value.isIdent key then key
       else keyText key ++ ": " ++ wrapIf (decide (value.strength < arrowing)) (render value)) ::
        renderFields rest

def renderParts : List TemplatePart → String
  | [] => ""
  | .text text :: rest => String.ofList (templateText text.toList) ++ renderParts rest
  | .hole value :: rest => "$\x7b" ++ render value ++ "\x7d" ++ renderParts rest

def renderParams : List Param → List String
  | [] => []
  | .mk name type optional default :: rest =>
      (name ++ (if optional then "?" else "") ++
        (match type with
         | some t => ": " ++ t.render
         | none => "") ++
        (match default with
         | some value => " = " ++ render value
         | none => "")) :: renderParams rest

end

end Expr

end ApiContract.Code
