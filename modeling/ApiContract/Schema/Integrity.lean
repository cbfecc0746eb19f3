import ApiContract.Schema.Model

/-!
The rules that the names in a module keep, so that the code made from it has no clashing and no
dangling names. All broken rules are reported, in the order of the schema.
-/

set_option autoImplicit false

namespace ApiContract.Schema

inductive Rule where
  | duplicateName
  | invalidName
  | reservedName
  | undefinedRelationTarget (target : String)
  | undefinedEntity (entity : String)
  | unknownRequestField (entity : String) (field : String)
  | enumWithoutValues
  | valuesWithoutEnum
  | paramNotInPath (param : String)
  | bodyNotAllowed (method : String)
deriving DecidableEq

structure Violation where
  subject : String
  rule : Rule
deriving DecidableEq

def Rule.message : Rule → String
  | .duplicateName => "duplicate name"
  | .invalidName => "not a valid identifier"
  | .reservedName => "reserved in generated code"
  | .undefinedRelationTarget target => "relation target '" ++ target ++ "' is not defined"
  | .undefinedEntity entity => "entity '" ++ entity ++ "' is not defined"
  | .unknownRequestField entity field => "'" ++ field ++ "' is not a field of '" ++ entity ++ "'"
  | .enumWithoutValues => "enum field has no values"
  | .valuesWithoutEnum => "values given for a non-enum field"
  | .paramNotInPath param => "param '" ++ param ++ "' does not appear in the path"
  | .bodyNotAllowed method => method ++ " cannot carry a request body"

def Violation.message (v : Violation) : String :=
  v.subject ++ ": " ++ v.rule.message

def clientMembers : List String := ["constructor", "baseUrl"]

def methodLocals : List String :=
  ["response", "fetch", "encodeURIComponent", "String", "JSON", "Error"]

def subjectOf (owner : String) (name : String) : String :=
  if owner.isEmpty then name else owner ++ "." ++ name

def violationIf (broken : Bool) (subject : String) (rule : Rule) : List Violation :=
  if broken then [⟨subject, rule⟩] else []

def checkNames (owner : String) (seen : List String) : List String → List Violation
  | [] => []
  | name :: rest =>
      violationIf (!Name.isIdentifier name) (subjectOf owner name) .invalidName ++
        violationIf (seen.contains name) (subjectOf owner name) .duplicateName ++
        checkNames owner (name :: seen) rest

structure Checked where
  violations : List Violation
  taken : List String

def Field.hasValues (f : Field) : Bool :=
  match f.values with
  | some (_ :: _) => true
  | _ => false

-- Values are for enum fields only, which need them; and the type that lists them needs a name of
-- its own.
def checkField (e : Entity) (taken : List String) (f : Field) : Checked :=
  if f.type = "enum" then
    let aliasName := e.aliasName f
    ⟨violationIf (!f.hasValues) (e.name ++ "." ++ f.name) .enumWithoutValues ++
      violationIf (taken.contains aliasName) aliasName .duplicateName, aliasName :: taken⟩
  else ⟨violationIf f.values.isSome (e.name ++ "." ++ f.name) .valuesWithoutEnum, taken⟩

def checkEach {α : Type} (check : List String → α → Checked) : List String → List α → Checked
  | taken, [] => ⟨[], taken⟩
  | taken, item :: rest =>
      let first := check taken item
      let others := checkEach check first.taken rest
      ⟨first.violations ++ others.violations, others.taken⟩

def checkRelation (entities : List String) (e : Entity) (r : Relation) : List Violation :=
  violationIf (!entities.contains r.target) (e.name ++ "." ++ r.name)
    (.undefinedRelationTarget r.target)

-- Fields and relations share one set of names, since both become properties.
def checkEntity (entities : List String) (taken : List String) (e : Entity) : Checked :=
  let fields := checkEach (checkField e) taken e.fields
  ⟨violationIf (Name.isReservedType e.name) e.name .reservedName ++
    checkNames e.name [] (e.fields.map Field.name ++ e.relations.map Relation.name) ++
    fields.violations ++ e.relations.flatMap (checkRelation entities e), fields.taken⟩

-- Placeholders become parameters, so they must not hide what the method's body refers to.
def checkPlaceholders (op : Operation) (seen : List String) : List String → List Violation
  | [] => []
  | name :: rest =>
      let subject := op.name ++ "." ++ name
      let reserved := Name.isReservedWord name || methodLocals.contains name ||
        (name == "body" && op.request.isSome)
      (if !Name.isIdentifier name then [⟨subject, .invalidName⟩]
       else violationIf reserved subject .reservedName) ++
        violationIf (seen.contains name) subject .duplicateName ++
        checkPlaceholders op (name :: seen) rest

def checkRequestFields (op : Operation) (e : Entity) (names : List String) : List Violation :=
  names.flatMap fun name =>
    violationIf (e.field? name).isNone (op.name ++ ".request") (.unknownRequestField e.name name)

def checkRequestEntity (models : Models) (op : Operation) (request : RequestShape) :
    List Violation :=
  match models.entities.find? fun e => e.name == request.entity with
  | none => [⟨op.name ++ ".request", .undefinedEntity request.entity⟩]
  | some e => checkRequestFields op e (request.fields.getD [])

-- The type of a request body needs a name of its own; of several operations of one name only the
-- first one counts.
def checkRequest (models : Models) (isFirst : Bool) (taken : List String) (op : Operation) :
    Checked :=
  match op.request with
  | none => ⟨[], taken⟩
  | some request =>
      let type := op.requestType
      ⟨violationIf (isFirst && taken.contains type) type .duplicateName ++
        violationIf (!op.method.allowsBody) op.name (.bodyNotAllowed op.method.word) ++
        checkRequestEntity models op request, if isFirst then type :: taken else taken⟩

def checkResponse (entities : List String) (op : Operation) : List Violation :=
  match op.response.bind ResponseShape.entity with
  | none => []
  | some entity =>
      violationIf (!entities.contains entity) (op.name ++ ".response") (.undefinedEntity entity)

def checkOperation (models : Models) (isFirst : Bool) (taken : List String) (op : Operation) :
    Checked :=
  let entities := models.entities.map Entity.name
  let inPath := op.placeholders
  let request := checkRequest models isFirst taken op
  ⟨violationIf (clientMembers.contains op.name) op.name .reservedName ++
    checkNames op.name [] (op.params.map PathParam.name) ++
    op.params.flatMap (fun p =>
      violationIf (!inPath.contains p.name) op.name (.paramNotInPath p.name)) ++
    checkPlaceholders op [] inPath ++ request.violations ++ checkResponse entities op,
    request.taken⟩

def checkOperations (models : Models) (seen : List String) (taken : List String) :
    List Operation → List Violation
  | [] => []
  | op :: rest =>
      let first := checkOperation models (!seen.contains op.name) taken op
      first.violations ++ checkOperations models (op.name :: seen) first.taken rest

def validate (models : Models) (api : Api) : List Violation :=
  let entities := models.entities.map Entity.name
  let checked := checkEach (checkEntity entities) entities models.entities
  checkNames "" [] entities ++ checked.violations ++
    checkNames "" [] (api.operations.map Operation.name) ++
    checkOperations models [] checked.taken api.operations

end ApiContract.Schema
