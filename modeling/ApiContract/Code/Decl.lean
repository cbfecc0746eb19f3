import ApiContract.Code.Stmt
import ApiContract.Text.Blank

/-!
Top-level declarations of generated code, the members of classes, and their text.
-/

set_option autoImplicit false

namespace ApiContract.Code

inductive Visibility where
  | public_
  | private_
  | protected_
deriving DecidableEq

-- The word in front of a member; public is what a member is without a word.
def Visibility.lead : Visibility → String
  | .public_ => ""
  | .private_ => "private "
  | .protected_ => "protected "

structure Property where
  name : String
  type : TypeExpr
  optional : Bool := false
  readonly : Bool := false
  doc : Option String := none

inductive ClassMember where
  | field (name : String) (type : Option TypeExpr) (visibility : Visibility) (readonly : Bool)
      (init : Option Expr)
  | constructor_ (params : List Param) (body : List Stmt)
  | method (name : String) (visibility : Visibility) (isAsync : Bool) (params : List Param)
      (returns : Option TypeExpr) (body : List Stmt) (doc : Option String)

inductive Decl where
  | import_ (names : List String) («from» : String) (typeOnly : Bool)
  | interface (name : String) (isExported : Bool) (parents : List String)
      (properties : List Property) (doc : Option String)
  | typeAlias (name : String) (isExported : Bool) (type : TypeExpr) (doc : Option String)
  | const (name : String) (isExported : Bool) (type : Option TypeExpr) (init : Expr)
      (doc : Option String)
  | function (name : String) (isExported : Bool) (isAsync : Bool) (params : List Param)
      (returns : Option TypeExpr) (body : List Stmt) (doc : Option String)
  | class_ (name : String) (isExported : Bool) (parent : Option String)
      (members : List ClassMember) (doc : Option String)

def docLine (line : List Char) : String :=
  let kept := Text.trim line
  if kept.isEmpty then " *\n" else " * " ++ String.ofList kept ++ "\n"

def docText : Option String → String
  | none => ""
  | some text =>
      match Text.lines (Text.trim text.toList) with
      | [] => ""
      | [only] => "/** " ++ String.ofList (Text.trim only) ++ " */\n"
      | many => "/**\n" ++ String.join (many.map docLine) ++ " */\n"

def exportLead (isExported : Bool) : String :=
  if isExported then "export " else ""

def asyncLead (isAsync : Bool) : String :=
  if isAsync then "async " else ""

def paramList (params : List Param) : String :=
  "(" ++ Text.join ", " (Expr.renderParams params) ++ ")"

def Property.render (p : Property) : String :=
  docText p.doc ++ (if p.readonly then "readonly " else "") ++ p.name ++
    (if p.optional then "?" else "") ++ ": " ++ p.type.render ++ ";"

def ClassMember.render : ClassMember → String
  | .field name type visibility readonly init =>
      visibility.lead ++ (if readonly then "readonly " else "") ++ name ++ typeSuffix type ++
        initSuffix init ++ ";"
  | .constructor_ params body => "constructor" ++ paramList params ++ " " ++ Stmt.block body
  | .method name visibility isAsync params returns body doc =>
      docText doc ++ visibility.lead ++ asyncLead isAsync ++ name ++ paramList params ++
        typeSuffix returns ++ " " ++ Stmt.block body

def Decl.render : Decl → String
  | .import_ [] path _ => "import \"" ++ path ++ "\";"
  | .import_ (name :: rest) path typeOnly =>
      (if typeOnly then "import type" else "import") ++ " \x7b " ++
        Text.join ", " (name :: rest) ++ " \x7d from \"" ++ path ++ "\";"
  | .interface name isExported parents properties doc =>
      docText doc ++ exportLead isExported ++ "interface " ++ name ++
        (if parents.isEmpty then "" else " extends " ++ Text.join ", " parents) ++ " " ++
        braced (stack 1 (properties.map Property.render)) properties.isEmpty
  | .typeAlias name isExported type doc =>
      docText doc ++ exportLead isExported ++ "type " ++ name ++ " = " ++ type.render ++ ";"
  | .const name isExported type init doc =>
      docText doc ++ exportLead isExported ++ "const " ++ name ++ typeSuffix type ++
        initSuffix (some init) ++ ";"
  | .function name isExported isAsync params returns body doc =>
      docText doc ++ exportLead isExported ++ asyncLead isAsync ++ "function " ++ name ++
        paramList params ++ typeSuffix returns ++ " " ++ Stmt.block body
  | .class_ name isExported parent members doc =>
      docText doc ++ exportLead isExported ++ "class " ++ name ++
        (match parent with
         | some base => " extends " ++ base
         | none => "") ++ " " ++
        braced (stackApart 1 (members.map ClassMember.render)) members.isEmpty

end ApiContract.Code
