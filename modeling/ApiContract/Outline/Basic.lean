import ApiContract.Outline.CanonicalType
import ApiContract.Text.Lines

/-!
The outline of a module of code: its declarations with the members that matter to its users.
-/

set_option autoImplicit false

namespace ApiContract.Outline

inductive DeclKind where
  | typeAlias
  | interface
  | class_
deriving DecidableEq

def DeclKind.keyword : DeclKind → String
  | .typeAlias => "type"
  | .interface => "interface"
  | .class_ => "class"

structure Property where
  name : String
  type : Option String
  optional : Bool
deriving DecidableEq

structure Param where
  name : String
  type : Option String
  optional : Bool
deriving DecidableEq

structure Method where
  name : String
  params : List Param
  returns : Option String
  -- Method and address of the first request in the body.
  endpoint : Option String
deriving DecidableEq

structure Declaration where
  name : String
  kind : DeclKind
  aliased : Option String
  properties : List Property
  methods : List Method
deriving DecidableEq

-- Where code could not be read, counted from one; columns are bytes.
structure SyntaxError where
  line : Nat
  column : Nat
deriving DecidableEq

structure Module where
  declarations : List Declaration
  syntaxErrors : List SyntaxError
deriving DecidableEq

def Module.declaration? (m : Module) (name : String) : Option Declaration :=
  m.declarations.find? fun d => d.name == name

def Declaration.property? (d : Declaration) (name : String) : Option Property :=
  d.properties.find? fun p => p.name == name

def Declaration.method? (d : Declaration) (name : String) : Option Method :=
  d.methods.find? fun m => m.name == name

def Declaration.describe (d : Declaration) : String :=
  d.kind.keyword ++ " " ++ d.name ++
    (match d.aliased with
     | some type => " = " ++ type
     | none => "")

def signature (name : String) (optional : Bool) (type : Option String) : String :=
  name ++ (if optional then "?" else "") ++
    (match type with
     | some t => ": " ++ t
     | none => "")

def Property.describe (p : Property) : String :=
  signature p.name p.optional p.type

def Param.describe (p : Param) : String :=
  signature p.name p.optional p.type

def Method.describe (m : Method) : String :=
  m.name ++ "(" ++ Text.join ", " (m.params.map Param.describe) ++ ")" ++
    (match m.returns with
     | some t => ": " ++ t
     | none => "")

end ApiContract.Outline
