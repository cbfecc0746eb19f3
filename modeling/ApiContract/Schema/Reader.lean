import ApiContract.Schema.Model
import ApiContract.Yaml.Decode

/-!
Reading the two files of a schema: that of the entities and that of the operations.
-/

set_option autoImplicit false

namespace ApiContract.Schema

open Record (require)
open Yaml (Decode Layout Reader readFlag readList readOptional readRecord readText readWord)

structure FieldSlots where
  name : Option String := none
  type : Option String := none
  required : Bool := true
  nullable : Bool := false
  list : Bool := false
  values : Option (List String) := none
  description : Option String := none

def fieldLayout : Layout FieldSlots where
  title := "struct Field"
  names := ["name", "type", "required", "nullable", "list", "values", "description"]
  empty := {}
  put s name path node :=
    match name with
    | "name" => do return { s with name := some (← readText path node) }
    | "type" => do return { s with type := some (← readText path node) }
    | "required" => do return { s with required := ← readFlag path node }
    | "nullable" => do return { s with nullable := ← readFlag path node }
    | "list" => do return { s with list := ← readFlag path node }
    | "values" => do return { s with values := ← readOptional (readList readText) path node }
    | _ => do return { s with description := ← readOptional readText path node }

def readField : Reader Field :=
  readRecord fieldLayout fun s => do
    return ⟨← require "name" s.name, ← require "type" s.type, s.required, s.nullable, s.list,
      s.values, s.description⟩

structure RelationSlots where
  name : Option String := none
  target : Option String := none
  cardinality : Cardinality := .one

def relationLayout : Layout RelationSlots where
  title := "struct Relation"
  names := ["name", "target", "cardinality"]
  empty := {}
  put s name path node :=
    match name with
    | "name" => do return { s with name := some (← readText path node) }
    | "target" => do return { s with target := some (← readText path node) }
    | _ => do
        let words := [Cardinality.one, .many].map fun c => (c.word, c)
        return { s with cardinality := ← readWord words path node }

def readRelation : Reader Relation :=
  readRecord relationLayout fun s => do
    return ⟨← require "name" s.name, ← require "target" s.target, s.cardinality⟩

structure EntitySlots where
  name : Option String := none
  description : Option String := none
  fields : List Field := []
  relations : List Relation := []

def entityLayout : Layout EntitySlots where
  title := "struct Entity"
  names := ["name", "description", "fields", "relations"]
  empty := {}
  put s name path node :=
    match name with
    | "name" => do return { s with name := some (← readText path node) }
    | "description" => do return { s with description := ← readOptional readText path node }
    | "fields" => do return { s with fields := ← readList readField path node }
    | _ => do return { s with relations := ← readList readRelation path node }

def readEntity : Reader Entity :=
  readRecord entityLayout fun s => do
    return ⟨← require "name" s.name, s.description, s.fields, s.relations⟩

structure PathParamSlots where
  name : Option String := none
  type : String := "string"

def pathParamLayout : Layout PathParamSlots where
  title := "struct PathParam"
  names := ["name", "type"]
  empty := {}
  put s name path node :=
    match name with
    | "name" => do return { s with name := some (← readText path node) }
    | _ => do return { s with type := ← readText path node }

def readPathParam : Reader PathParam :=
  readRecord pathParamLayout fun s => do return ⟨← require "name" s.name, s.type⟩

structure RequestSlots where
  entity : Option String := none
  fields : Option (List String) := none
  partial_ : Bool := false

def requestLayout : Layout RequestSlots where
  title := "struct RequestShape"
  names := ["entity", "fields", "partial"]
  empty := {}
  put s name path node :=
    match name with
    | "entity" => do return { s with entity := some (← readText path node) }
    | "fields" => do return { s with fields := ← readOptional (readList readText) path node }
    | _ => do return { s with partial_ := ← readFlag path node }

def readRequest : Reader RequestShape :=
  readRecord requestLayout fun s => do
    return ⟨← require "entity" s.entity, s.fields, s.partial_⟩

def responseLayout : Layout ResponseShape where
  title := "struct ResponseShape"
  names := ["entity", "list"]
  empty := {}
  put s name path node :=
    match name with
    | "entity" => do return { s with entity := ← readOptional readText path node }
    | _ => do return { s with list := ← readFlag path node }

def readResponse : Reader ResponseShape :=
  readRecord responseLayout fun s => .ok s

structure OperationSlots where
  name : Option String := none
  method : Option HttpMethod := none
  path : Option String := none
  params : List PathParam := []
  request : Option RequestShape := none
  response : Option ResponseShape := none
  description : Option String := none

def httpMethods : List (String × HttpMethod) :=
  [HttpMethod.get, .post, .put, .patch, .delete].map fun method => (method.word, method)

def operationLayout : Layout OperationSlots where
  title := "struct Operation"
  names := ["name", "method", "path", "params", "request", "response", "description"]
  empty := {}
  put s name path node :=
    match name with
    | "name" => do return { s with name := some (← readText path node) }
    | "method" => do return { s with method := some (← readWord httpMethods path node) }
    | "path" => do return { s with path := some (← readText path node) }
    | "params" => do return { s with params := ← readList readPathParam path node }
    | "request" => do return { s with request := ← readOptional readRequest path node }
    | "response" => do return { s with response := ← readOptional readResponse path node }
    | _ => do return { s with description := ← readOptional readText path node }

def readOperation : Reader Operation :=
  readRecord operationLayout fun s => do
    return ⟨← require "name" s.name, ← require "method" s.method, ← require "path" s.path,
      s.params, s.request, s.response, s.description⟩

def modelsLayout : Layout Models where
  title := "struct ModelsFile"
  names := ["entities"]
  empty := {}
  put s _ path node := do return { s with entities := ← readList readEntity path node }

def Models.ofYaml (text : String) : Except Yaml.Error Models :=
  Yaml.readDocument (readRecord modelsLayout fun s => .ok s) {} text

def apiLayout : Layout Api where
  title := "struct ApiFile"
  names := ["base_path", "operations"]
  empty := {}
  put s name path node :=
    match name with
    | "base_path" => do return { s with basePath := ← readOptional readText path node }
    | _ => do return { s with operations := ← readList readOperation path node }

def Api.ofYaml (text : String) : Except Yaml.Error Api :=
  Yaml.readDocument (readRecord apiLayout fun s => .ok s) {} text

end ApiContract.Schema
