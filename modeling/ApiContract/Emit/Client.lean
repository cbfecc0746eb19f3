import ApiContract.Code.Decl
import ApiContract.Emit.Kind
import ApiContract.Schema.Model
import ApiContract.TypeMap

/-!
The client of a module: a class with one method for each operation, which sends the request.
-/

set_option autoImplicit false

namespace ApiContract.Emit

open Code (ClassMember Decl Expr Param Stmt TemplatePart TypeExpr)
open Schema (Module Operation Segment)

def className (module : String) : String :=
  Name.pascal module ++ "Client"

-- What an operation gives back; nothing when its response has no entity.
def responseType (op : Operation) : TypeExpr :=
  match op.response with
  | some ⟨some entity, false⟩ => .named entity
  | some ⟨some entity, true⟩ => .arrayOf (.named entity)
  | _ => .named "void"

def call (callee : String) (args : List Expr) : Expr :=
  .call (.ident callee) args

-- A piece of a path in the address: a placeholder stands for its argument, encoded.
def addressPart : Segment → TemplatePart
  | .text text => .text text
  | .hole name => .hole (call "encodeURIComponent" [call "String" [.ident name]])

def address (base : Option String) (path : String) : Expr :=
  .template (.hole (.member (.ident "this") "baseUrl" false) ::
    (Schema.segments base path).map addressPart)

def param (name : String) (type : TypeExpr) : Param :=
  .mk name (some type) false none

def placeholderParam (types : TypeMap) (m : Module) (op : Operation) (name : String) :
    Except EmitError Param :=
  match types.resolve (op.paramType name) with
  | some type => .ok (param name type)
  | none => .error (.unsupportedType m.name (op.name ++ "." ++ name) (op.paramType name))

def bodyParams (op : Operation) : List Param :=
  if op.request.isSome then [param "body" (.named op.requestType)] else []

def methodParams (types : TypeMap) (m : Module) (op : Operation) : Except EmitError (List Param) :=
  (mapAll (placeholderParam types m op) op.placeholders).map (· ++ bodyParams op)

def text (value : String) : Expr :=
  .literal (.text value)

def requestOptions (op : Operation) : Expr :=
  .object (("method", text op.method.word) ::
    if op.request.isSome then
      [("headers", .object [("Content-Type", text "application/json")]),
       ("body", .call (.member (.ident "JSON") "stringify" false) [.ident "body"])]
    else [])

def failure (op : Operation) : Expr :=
  .construct (.ident "Error")
    [.template [.text (op.name ++ " failed with status "),
      .hole (.member (.ident "response") "status" false)]]

def isVoid : TypeExpr → Bool
  | .named name => name == "void"
  | _ => false

def answer (op : Operation) : List Stmt :=
  if isVoid (responseType op) then []
  else
    [.return_ (some (.cast (.await (.call (.member (.ident "response") "json" false) []))
      (responseType op)))]

def methodBody (m : Module) (op : Operation) : List Stmt :=
  [.declare .const "response" none
     (some (.await (call "fetch" [address m.basePath op.path, requestOptions op]))),
   .branch (.unary .not (.member (.ident "response") "ok" false)) [.throw (failure op)] none] ++
    answer op

def methodDoc (op : Operation) : String :=
  op.description.getD (op.method.word ++ " " ++ op.path)

def method (types : TypeMap) (m : Module) (op : Operation) : Except EmitError ClassMember :=
  (methodParams types m op).map fun params =>
    .method op.name .public_ true params (some (responseType op).promise) (methodBody m op)
      (some (methodDoc op))

def usedTypes (op : Operation) : List String :=
  (if op.request.isSome then [op.requestType] else []) ++
    (op.response.bind Schema.ResponseShape.entity).toList

def distinct : List String → List String
  | [] => []
  | name :: rest => name :: (distinct rest).filter (· != name)

def importedTypes (m : Module) : List String :=
  distinct (m.operations.flatMap usedTypes)

def importDecls (m : Module) : List Decl :=
  match importedTypes m with
  | [] => []
  | names => [.import_ names "./types" true]

def clientClass (types : TypeMap) (m : Module) : Except EmitError Decl :=
  (mapAll (method types m) m.operations).map fun methods =>
    .class_ (className m.name) true none
      ([.field "baseUrl" (some (.named "string")) .private_ true none,
        .constructor_ [param "baseUrl" (.named "string")]
          [.expression (.raw "this.baseUrl = baseUrl")]] ++ methods)
      (some ("HTTP client for the " ++ m.name ++ " module"))

end ApiContract.Emit
