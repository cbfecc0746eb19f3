import ApiContract.Code.Decl
import ApiContract.Emit.Kind
import ApiContract.Schema.Model
import ApiContract.TypeMap

/-!
The types of a module: a type for the values of each enum field, an interface for each entity, and
one for each request body.
-/

set_option autoImplicit false

namespace ApiContract.Emit

open Code (Decl TypeExpr)
open Schema (Entity Module Operation RequestShape)

def elementType (types : TypeMap) (m : Module) (e : Entity) (f : Schema.Field) :
    Except EmitError TypeExpr :=
  if f.type = "enum" then .ok (.named (e.aliasName f))
  else
    match types.resolve f.type with
    | some type => .ok type
    | none => .error (.unsupportedType m.name (e.name ++ "." ++ f.name) f.type)

def fieldType (types : TypeMap) (m : Module) (e : Entity) (f : Schema.Field) :
    Except EmitError TypeExpr :=
  (elementType types m e f).map fun element =>
    let type := if f.list then .arrayOf element else element
    if f.nullable then type.nullable else type

def fieldProperty (types : TypeMap) (m : Module) (e : Entity) (optional : Bool)
    (f : Schema.Field) : Except EmitError Code.Property :=
  (fieldType types m e f).map fun type =>
    { name := f.name, type := type, optional := optional, doc := f.description }

def enumAlias? (e : Entity) (f : Schema.Field) : Option Decl :=
  f.values.map fun values =>
    .typeAlias (e.aliasName f) true (.union (values.map TypeExpr.literal)) none

def relationProperty (r : Schema.Relation) : Code.Property :=
  let type :=
    match r.cardinality with
    | .one => TypeExpr.named r.target
    | .many => .arrayOf (.named r.target)
  { name := r.name, type := type, optional := true }

def entityInterface (types : TypeMap) (m : Module) (e : Entity) : Except EmitError Decl :=
  (mapAll (fun f => fieldProperty types m e (!f.required) f) e.fields).map fun properties =>
    .interface e.name true [] (properties ++ e.relations.map relationProperty) e.description

def sentFields (e : Entity) (request : RequestShape) : List Schema.Field :=
  match request.fields with
  | some names => names.filterMap e.field?
  | none => e.fields

def requestInterface (types : TypeMap) (m : Module) (op : Operation) (request : RequestShape) :
    Except EmitError Decl :=
  match m.entity? request.entity with
  | none => .error (.unknownEntity op.name request.entity)
  | some e =>
      (mapAll (fun f => fieldProperty types m e (request.partial_ || !f.required) f)
        (sentFields e request)).map fun properties =>
        .interface op.requestType true [] properties
          (some ("Request body for \x60" ++ op.name ++ "\x60"))

def entityDecls (types : TypeMap) (m : Module) (e : Entity) : Except EmitError (List Decl) :=
  (entityInterface types m e).map fun interface => e.fields.filterMap (enumAlias? e) ++ [interface]

def requestDecls (types : TypeMap) (m : Module) (op : Operation) : Except EmitError (List Decl) :=
  match op.request with
  | none => .ok []
  | some request => (requestInterface types m op request).map fun interface => [interface]

def typeDecls (types : TypeMap) (m : Module) : Except EmitError (List Decl) :=
  match mapAll (entityDecls types m) m.entities with
  | .error e => .error e
  | .ok entities =>
      (mapAll (requestDecls types m) m.operations).map fun requests =>
        entities.flatten ++ requests.flatten

end ApiContract.Emit
