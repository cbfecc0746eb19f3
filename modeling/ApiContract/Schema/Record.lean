import ApiContract.Json.Basic
import ApiContract.Schema.Integrity

/-!
Schemas and broken rules as JSON values. What is not said is left out.
-/

set_option autoImplicit false

namespace ApiContract.Schema

open Json (optional flag nonEmpty texts)

def Field.toJson (f : Field) : Json :=
  .object ([("name", .text f.name), ("type", .text f.type)] ++
    (if f.required then [] else [("required", .bool false)]) ++ flag "nullable" f.nullable ++
    flag "list" f.list ++ optional "values" (f.values.map texts) ++
    optional "description" (f.description.map Json.text))

def Relation.toJson (r : Relation) : Json :=
  .object [("name", .text r.name), ("target", .text r.target),
    ("cardinality", .text r.cardinality.word)]

def Entity.toJson (e : Entity) : Json :=
  .object ([("name", .text e.name)] ++ optional "description" (e.description.map Json.text) ++
    [("fields", .array (e.fields.map Field.toJson))] ++
    nonEmpty "relations" (e.relations.map Relation.toJson))

def PathParam.toJson (p : PathParam) : Json :=
  .object [("name", .text p.name), ("type", .text p.type)]

def RequestShape.toJson (r : RequestShape) : Json :=
  .object ([("entity", .text r.entity)] ++ optional "fields" (r.fields.map texts) ++
    flag "partial" r.partial_)

def ResponseShape.toJson (r : ResponseShape) : Json :=
  .object (optional "entity" (r.entity.map Json.text) ++ flag "list" r.list)

def Operation.toJson (op : Operation) : Json :=
  .object ([("name", .text op.name), ("method", .text op.method.word), ("path", .text op.path)] ++
    nonEmpty "params" (op.params.map PathParam.toJson) ++
    optional "request" (op.request.map RequestShape.toJson) ++
    optional "response" (op.response.map ResponseShape.toJson) ++
    optional "description" (op.description.map Json.text))

def Models.toJson (m : Models) : Json :=
  .object [("entities", .array (m.entities.map Entity.toJson))]

def Api.toJson (a : Api) : Json :=
  .object (optional "base_path" (a.basePath.map Json.text) ++
    [("operations", .array (a.operations.map Operation.toJson))])

def Module.toJson (m : Module) : Json :=
  .object ([("name", .text m.name),
    ("entities", .object (m.entities.map fun e => (e.name, e.toJson)))] ++
    optional "base_path" (m.basePath.map Json.text) ++
    [("operations", .object (m.operations.map fun op => (op.name, op.toJson)))])

def Rule.toJson : Rule → Json
  | .duplicateName => .object [("rule", .text "duplicate_name")]
  | .invalidName => .object [("rule", .text "invalid_name")]
  | .reservedName => .object [("rule", .text "reserved_name")]
  | .undefinedRelationTarget target =>
      .object [("rule", .text "undefined_relation_target"), ("target", .text target)]
  | .undefinedEntity entity => .object [("rule", .text "undefined_entity"), ("entity", .text entity)]
  | .unknownRequestField entity field =>
      .object [("rule", .text "unknown_request_field"), ("entity", .text entity),
        ("field", .text field)]
  | .enumWithoutValues => .object [("rule", .text "enum_without_values")]
  | .valuesWithoutEnum => .object [("rule", .text "values_without_enum")]
  | .paramNotInPath param =>
      .object [("rule", .text "param_not_in_path"), ("param", .text param)]
  | .bodyNotAllowed method =>
      .object [("rule", .text "body_not_allowed"), ("method", .text method)]

def Violation.toJson (v : Violation) : Json :=
  .object [("subject", .text v.subject), ("rule", v.rule.toJson)]

end ApiContract.Schema
