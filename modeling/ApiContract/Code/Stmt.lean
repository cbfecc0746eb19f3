import ApiContract.Code.Expr
import ApiContract.Code.Layout

/-!
Statements of generated code and their text. A statement is written at level zero; the block around
it moves it in.
-/

set_option autoImplicit false

namespace ApiContract.Code

inductive Binding where
  | const
  | let_
deriving DecidableEq

def Binding.word : Binding → String
  | .const => "const"
  | .let_ => "let"

inductive Stmt where
  | expression (value : Expr)
  | throw (value : Expr)
  | return_ (value : Option Expr)
  | declare (binding : Binding) (name : String) (type : Option TypeExpr) (init : Option Expr)
  | branch (test : Expr) (whenTrue : List Stmt) (whenFalse : Option (List Stmt))
  | forOf (binding : Binding) (name : String) (iterable : Expr) (body : List Stmt)
  | comment (text : String)

def typeSuffix : Option TypeExpr → String
  | some t => ": " ++ t.render
  | none => ""

def initSuffix : Option Expr → String
  | some value => " = " ++ value.render
  | none => ""

def commentLines (text : String) : String :=
  if text.isEmpty then "//"
  else
    Text.join "\n" ((Text.lines text.toList).map fun line =>
      if line.isEmpty then "//" else "// " ++ String.ofList line)

namespace Stmt

mutual

def render : Stmt → String
  | .expression value => value.render ++ ";"
  | .throw value => "throw " ++ value.render ++ ";"
  | .return_ none => "return;"
  | .return_ (some value) => "return " ++ value.render ++ ";"
  | .declare binding name type init =>
      binding.word ++ " " ++ name ++ typeSuffix type ++ initSuffix init ++ ";"
  | .branch test whenTrue whenFalse =>
      "if (" ++ test.render ++ ") " ++ block whenTrue ++
        (match whenFalse with
         | none => ""
         | some body => " else " ++ otherwise body)
  | .forOf binding name iterable body =>
      "for (" ++ binding.word ++ " " ++ name ++ " of " ++ iterable.render ++ ") " ++ block body
  | .comment text => commentLines text

def otherwise : List Stmt → String
  | [] => "\x7b\x7d"
  | [.branch test whenTrue whenFalse] =>
      "if (" ++ test.render ++ ") " ++ block whenTrue ++
        (match whenFalse with
         | none => ""
         | some body => " else " ++ otherwise body)
  | s :: rest => "\x7b\n" ++ stack 1 (render s :: renderAll rest) ++ "\n\x7d"

def block : List Stmt → String
  | [] => "\x7b\x7d"
  | s :: rest => "\x7b\n" ++ stack 1 (render s :: renderAll rest) ++ "\n\x7d"

def renderAll : List Stmt → List String
  | [] => []
  | s :: rest => render s :: renderAll rest

end

end Stmt

end ApiContract.Code
