import ApiContract.Code.Config.Form
import ApiContract.Record.Fault

/-!
Values of fields, and the fragments that records of fields stand for.
-/

set_option autoImplicit false

namespace ApiContract.Code.Config

inductive Piece where
  | nothing
  | text (value : String)
  | flag (value : Bool)
  | type (value : TypeExpr)
  | expr (value : Expr)
  | stmt (value : Stmt)
  | decl (value : Decl)
  | member (value : ClassMember)
  | literal (value : Literal)
  | binaryOp (value : BinaryOp)
  | unaryOp (value : UnaryOp)
  | binding (value : Binding)
  | visibility (value : Visibility)
  | objectField (key : String) (value : Expr)
  | part (value : TemplatePart)
  | param (value : Param)
  | property (value : Property)
  | list (items : List Piece)

def Absent.piece? : Absent → Option Piece
  | .required => none
  | .nothing => some .nothing
  | .empty => some (.list [])
  | .no => some (.flag false)
  | .yes => some (.flag true)
  | .const => some (.binding .const)
  | .public_ => some (.visibility .public_)

def binaryOps : List BinaryOp := [
  .strictEq, .strictNe, .eq, .ne, .lt, .le, .gt, .ge, .add, .sub, .mul, .div, .rem, .and, .or,
  .coalesce, .instanceOf, .isIn]

def unaryOps : List UnaryOp := [.not, .neg, .typeOf]

def bindings : List Binding := [.const, .let_]

def Visibility.word : Visibility → String
  | .public_ => "public"
  | .private_ => "private"
  | .protected_ => "protected"

def visibilities : List Visibility := [.public_, .private_, .protected_]

def Shape.words? : Shape → Option (List (String × Piece))
  | .binaryOp => some (binaryOps.map fun op => (op.symbol, .binaryOp op))
  | .unaryOp => some (unaryOps.map fun op => (op.word, .unaryOp op))
  | .binding => some (bindings.map fun b => (b.word, .binding b))
  | .visibility => some (visibilities.map fun v => (Visibility.word v, .visibility v))
  | _ => none

namespace Piece

def text? : Piece → Option String
  | .text value => some value
  | _ => none

def type? : Piece → Option TypeExpr
  | .type value => some value
  | _ => none

def expr? : Piece → Option Expr
  | .expr value => some value
  | _ => none

def stmt? : Piece → Option Stmt
  | .stmt value => some value
  | _ => none

def member? : Piece → Option ClassMember
  | .member value => some value
  | _ => none

def objectField? : Piece → Option (String × Expr)
  | .objectField key value => some (key, value)
  | _ => none

def part? : Piece → Option TemplatePart
  | .part value => some value
  | _ => none

def param? : Piece → Option Param
  | .param value => some value
  | _ => none

def property? : Piece → Option Property
  | .property value => some value
  | _ => none

-- The values of some pieces, all of one shape.
def all {α : Type} (pick : Piece → Option α) : List Piece → Option (List α)
  | [] => some []
  | piece :: rest =>
      match pick piece with
      | none => none
      | some value => (all pick rest).map (value :: ·)

def stmts? : Piece → Option (List Stmt)
  | .list items => all stmt? items
  | _ => none

-- The value of a piece, if it is there at all.
def optional {α : Type} (pick : Piece → Option α) : Piece → Option (Option α)
  | .nothing => some none
  | piece => (pick piece).map some

end Piece

open Piece (all optional text? type? expr? stmt? stmts? member? objectField? part? param? property?)

-- The fragment that a record of fields stands for; there is one whenever every value has the shape
-- of its field.
def Form.build : Form → List Piece → Option Piece
  | .ident, [.text name] => some (.expr (.ident name))
  | .literal, [.literal value] => some (.expr (.literal value))
  | .call, [.expr callee, .list args] => do
      some (.expr (.call callee (← all expr? args)))
  | .construct, [.expr callee, .list args] => do
      some (.expr (.construct callee (← all expr? args)))
  | .member, [.expr target, .text name, .flag isOptional] =>
      some (.expr (.member target name isOptional))
  | .index, [.expr target, .expr key] => some (.expr (.index target key))
  | .binary, [.expr left, .binaryOp op, .expr right] => some (.expr (.binary left op right))
  | .unary, [.unaryOp op, .expr operand] => some (.expr (.unary op operand))
  | .await, [.expr operand] => some (.expr (.await operand))
  | .object, [.list items] => do some (.expr (.object (← all objectField? items)))
  | .array, [.list items] => do some (.expr (.array (← all expr? items)))
  | .template, [.list items] => do some (.expr (.template (← all part? items)))
  | .arrow, [.list items, .expr body, .flag isAsync] => do
      some (.expr (.arrow (← all param? items) body isAsync))
  | .cast, [.expr operand, .type type] => some (.expr (.cast operand type))
  | .conditional, [.expr test, .expr whenTrue, .expr whenFalse] =>
      some (.expr (.conditional test whenTrue whenFalse))
  | .expression, [.expr value] => some (.stmt (.expression value))
  | .throw, [.expr value] => some (.stmt (.throw value))
  | .return_, [value] => do some (.stmt (.return_ (← optional expr? value)))
  | .declare, [.binding binding, .text name, type, init] => do
      some (.stmt (.declare binding name (← optional type? type) (← optional expr? init)))
  | .branch, [.expr test, .list whenTrue, whenFalse] => do
      some (.stmt (.branch test (← all stmt? whenTrue) (← optional stmts? whenFalse)))
  | .forOf, [.binding binding, .text name, .expr iterable, .list body] => do
      some (.stmt (.forOf binding name iterable (← all stmt? body)))
  | .comment, [.text text] => some (.stmt (.comment text))
  | .import_, [.list names, .text path, .flag typeOnly] => do
      some (.decl (.import_ (← all text? names) path typeOnly))
  | .interface, [.text name, .flag isExported, .list parents, .list items, doc] => do
      some (.decl (.interface name isExported (← all text? parents) (← all property? items)
        (← optional text? doc)))
  | .typeAlias, [.text name, .flag isExported, .type type, doc] => do
      some (.decl (.typeAlias name isExported type (← optional text? doc)))
  | .const, [.text name, .flag isExported, type, .expr init, doc] => do
      some (.decl (.const name isExported (← optional type? type) init (← optional text? doc)))
  | .function,
      [.text name, .flag isExported, .flag isAsync, .list items, returns, .list body, doc] => do
      some (.decl (.function name isExported isAsync (← all param? items)
        (← optional type? returns) (← all stmt? body) (← optional text? doc)))
  | .class_, [.text name, .flag isExported, parent, .list items, doc] => do
      some (.decl (.class_ name isExported (← optional text? parent) (← all member? items)
        (← optional text? doc)))
  | .field, [.text name, type, .visibility visibility, .flag isReadonly, init] => do
      some (.member (.field name (← optional type? type) visibility isReadonly
        (← optional expr? init)))
  | .constructor_, [.list items, .list body] => do
      some (.member (.constructor_ (← all param? items) (← all stmt? body)))
  | .method,
      [.text name, .visibility visibility, .flag isAsync, .list items, returns, .list body, doc] => do
      some (.member (.method name visibility isAsync (← all param? items)
        (← optional type? returns) (← all stmt? body) (← optional text? doc)))
  | .arrayOf, [.type element] => some (.type (.arrayOf element))
  | .union, [.list items] => do some (.type (.union (← all type? items)))
  | .generic, [.text name, .list items] => do some (.type (.generic name (← all type? items)))
  | .literalType, [.text value] => some (.type (.literal value))
  | .objectField, [.text key, .expr value] => some (.objectField key value)
  | .param, [.text name, type, .flag isOptional, default] => do
      some (.param (.mk name (← optional type? type) isOptional (← optional expr? default)))
  | .property, [.text name, .type type, .flag isOptional, .flag isReadonly, doc] => do
      some (.property ⟨name, type, isOptional, isReadonly, ← optional text? doc⟩)
  | _, _ => none

end ApiContract.Code.Config
