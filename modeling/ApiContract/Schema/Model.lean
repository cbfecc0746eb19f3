import ApiContract.Name
import ApiContract.Schema.Path

/-!
Schemas: the entities and operations of one module.
-/

set_option autoImplicit false

namespace ApiContract.Schema

structure Field where
  name : String
  type : String
  required : Bool := true
  nullable : Bool := false
  list : Bool := false
  values : Option (List String) := none
  description : Option String := none
deriving DecidableEq

inductive Cardinality where
  | one
  | many
deriving DecidableEq

def Cardinality.word : Cardinality → String
  | .one => "one"
  | .many => "many"

structure Relation where
  name : String
  target : String
  cardinality : Cardinality := .one
deriving DecidableEq

structure Entity where
  name : String
  description : Option String := none
  fields : List Field := []
  relations : List Relation := []
deriving DecidableEq

inductive HttpMethod where
  | get
  | post
  | put
  | patch
  | delete
deriving DecidableEq

def HttpMethod.word : HttpMethod → String
  | .get => "GET"
  | .post => "POST"
  | .put => "PUT"
  | .patch => "PATCH"
  | .delete => "DELETE"

def HttpMethod.allowsBody : HttpMethod → Bool
  | .get | .delete => false
  | _ => true

structure PathParam where
  name : String
  type : String := "string"
deriving DecidableEq

structure RequestShape where
  entity : String
  -- The fields of the entity that are sent; all of them when absent.
  fields : Option (List String) := none
  partial_ : Bool := false
deriving DecidableEq

structure ResponseShape where
  entity : Option String := none
  list : Bool := false
deriving DecidableEq

structure Operation where
  name : String
  method : HttpMethod
  path : String
  params : List PathParam := []
  request : Option RequestShape := none
  response : Option ResponseShape := none
  description : Option String := none
deriving DecidableEq

structure Models where
  entities : List Entity := []
deriving DecidableEq

structure Api where
  basePath : Option String := none
  operations : List Operation := []
deriving DecidableEq

structure Module where
  name : String
  entities : List Entity
  basePath : Option String
  operations : List Operation
deriving DecidableEq

def Entity.field? (e : Entity) (name : String) : Option Field :=
  e.fields.find? fun f => f.name == name

def Entity.aliasName (e : Entity) (f : Field) : String :=
  e.name ++ Name.pascal f.name

def Operation.placeholders (op : Operation) : List String :=
  Schema.placeholders op.path

-- The declared type of a placeholder; it is a string when nothing is declared.
def Operation.paramType (op : Operation) (name : String) : String :=
  ((op.params.find? fun p => p.name == name).map PathParam.type).getD "string"

def Operation.requestType (op : Operation) : String :=
  Name.pascal op.name ++ "Request"

def Module.entity? (m : Module) (name : String) : Option Entity :=
  m.entities.find? fun e => e.name == name

-- Puts an item at the place of the item of the same name, or at the end.
def putNamed {α : Type} (name : α → String) (item : α) : List α → List α
  | [] => [item]
  | other :: rest =>
      if name other = name item then item :: rest else other :: putNamed name item rest

-- The items with one of each name: the last one, at the place of the first.
def collectNamed {α : Type} (name : α → String) (items : List α) : List α :=
  items.foldl (fun kept item => putNamed name item kept) []

end ApiContract.Schema
