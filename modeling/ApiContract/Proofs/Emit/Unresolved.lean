import ApiContract.Proofs.Emit.TypeNames

/-!
The types that the fields and the placeholders of a module need: they are looked up in the order of
the schema, and the first one that stands for nothing is the only error in making declarations.
-/

set_option autoImplicit false

namespace ApiContract

namespace TypeMap

-- What a project can come to: the standard types and any it adds or registers later.
inductive Built : TypeMap → Prop
  | withTypes (extra : List (String × String)) : Built (withTypes extra)
  | register (types : TypeMap) (name : String) (type : Code.TypeExpr) (built : Built types) :
      Built (types.register name type)

theorem register_keeps (types : TypeMap) (name : String) (type : Code.TypeExpr) (known : String)
    (found : types.contains known = true) : (types.register name type).contains known = true := by
  rw [contains, resolve, register]
  by_cases same : known = name
  · rw [same, lookup_put_same]
    rfl
  · rw [lookup_put_other name known type types.entries same]
    exact found

theorem built_keeps_standard (types : TypeMap) (built : Built types) (known : String)
    (found : standard.contains known = true) : types.contains known = true := by
  induction built with
  | withTypes extra =>
      suffices keeps : ∀ start : TypeMap, start.contains known = true →
          (extra.foldl (fun types entry => types.register entry.1 (.named entry.2))
            start).contains known = true from keeps standard found
      induction extra with
      | nil => exact fun start has => has
      | cons entry rest ih => exact fun start has => ih _ (register_keeps start _ _ known has)
  | register types name type _ ih => exact register_keeps types name type known ih

end TypeMap

namespace Emit

open Schema (Entity Field Module Operation RequestShape)

-- A place in a schema that needs the type of a name, and how errors tell of it.
structure TypeUse where
  subject : String
  type : String
deriving DecidableEq

def fieldUse? (e : Entity) (f : Field) : Option TypeUse :=
  if f.type = "enum" then none else some ⟨e.name ++ "." ++ f.name, f.type⟩

def entityUses (e : Entity) : List TypeUse :=
  e.fields.filterMap (fieldUse? e)

def fieldUses (m : Module) : List TypeUse :=
  m.entities.flatMap entityUses

def placeholderUse? (op : Operation) (name : String) : Option TypeUse :=
  (op.params.find? fun p => p.name == name).map fun p => ⟨op.name ++ "." ++ name, p.type⟩

def operationUses (op : Operation) : List TypeUse :=
  op.placeholders.filterMap (placeholderUse? op)

def placeholderUses (m : Module) : List TypeUse :=
  m.operations.flatMap operationUses

section Refusal

variable (types : TypeMap) (m : Module)

def isUnresolved (use : TypeUse) : Bool :=
  !types.contains use.type

def refusal (use : TypeUse) : EmitError :=
  .unsupportedType m.name use.subject use.type

def firstRefusal? (uses : List TypeUse) : Option EmitError :=
  (uses.find? (isUnresolved types)).map (refusal m)

theorem first_refusal_none_iff (uses : List TypeUse) :
    firstRefusal? types m uses = none ↔ ∀ use ∈ uses, types.contains use.type = true := by
  simp [firstRefusal?, isUnresolved]

theorem first_refusal_flat_map {α : Type} (uses : α → List TypeUse) (items : List α) :
    firstRefusal? types m (items.flatMap uses) =
      items.findSome? fun item => firstRefusal? types m (uses item) := by
  rw [firstRefusal?, List.find?_flatMap, List.map_findSome?]
  rfl

theorem first_refusal_filter_map {α : Type} (use? : α → Option TypeUse) (items : List α) :
    firstRefusal? types m (items.filterMap use?) =
      items.findSome? fun item => firstRefusal? types m (use? item).toList := by
  rw [List.filterMap_eq_flatMap_toList]
  exact first_refusal_flat_map types m _ items

theorem field_property_error (e : Entity) (optional : Bool) (f : Field) :
    error? (fieldProperty types m e optional f) =
      firstRefusal? types m (fieldUse? e f).toList := by
  rw [fieldProperty, error_map, fieldType, error_map, elementType, fieldUse?]
  by_cases isEnum : f.type = "enum"
  · simp [isEnum, error?, firstRefusal?]
  · cases found : types.resolve f.type <;>
      simp [isEnum, error?, firstRefusal?, isUnresolved, TypeMap.contains, found, refusal]

theorem entity_decls_error (e : Entity) :
    error? (entityDecls types m e) = firstRefusal? types m (entityUses e) := by
  rw [entityDecls, error_map, entityInterface, error_map, map_all_error, entityUses,
    first_refusal_filter_map]
  simp only [field_property_error]

theorem request_entity_found (accepted : Schema.Accepted m) (op : Operation)
    (member : op ∈ m.operations) (request : RequestShape) (carried : op.request = some request) :
    ∃ e ∈ m.entities, m.entity? request.entity = some e := by
  have formed := (Schema.accepted_iff m).mp accepted
  have sound := (formed.operations_sound op member).request_sound request carried
  obtain ⟨e, defined, named, -⟩ := sound.entity_defined
  exact ⟨e, defined, (Schema.find_named_some Entity.name m.entities formed.entities_distinct
    request.entity e).mpr ⟨defined, named⟩⟩

-- A request sends fields of an entity, whose types are looked up for the entity already.
theorem request_decls_error (accepted : Schema.Accepted m) (op : Operation)
    (member : op ∈ m.operations)
    (resolved : ∀ use ∈ fieldUses m, types.contains use.type = true) :
    error? (requestDecls types m op) = none := by
  rw [requestDecls]
  cases carried : op.request with
  | none => rfl
  | some request =>
      obtain ⟨e, defined, found⟩ := request_entity_found m accepted op member request carried
      simp only [error_map, requestInterface, found, map_all_error, field_property_error,
        List.findSome?_eq_none_iff, first_refusal_none_iff]
      intro f sent use isUse
      refine resolved use (List.mem_flatMap.mpr ⟨e, defined, ?_⟩)
      exact List.mem_filterMap.mpr
        ⟨f, sent_from_entity e request f sent, Option.mem_toList.mp isUse⟩

theorem type_decls_error (accepted : Schema.Accepted m) :
    error? (typeDecls types m) = firstRefusal? types m (fieldUses m) := by
  have entities : error? (mapAll (entityDecls types m) m.entities) =
      firstRefusal? types m (fieldUses m) := by
    rw [map_all_error, fieldUses, first_refusal_flat_map]
    simp only [entity_decls_error]
  rw [typeDecls]
  cases made : mapAll (entityDecls types m) m.entities with
  | error e =>
      rw [← entities, made]
      rfl
  | ok decls =>
      have none : firstRefusal? types m (fieldUses m) = none := by
        rw [← entities, made]
        rfl
      have resolved := (first_refusal_none_iff types m _).mp none
      simp only [error_map, map_all_error, none, List.findSome?_eq_none_iff]
      exact fun op member => request_decls_error types m accepted op member resolved

theorem placeholder_param_error (built : types.Built) (op : Operation) (name : String) :
    error? (placeholderParam types m op name) =
      firstRefusal? types m (placeholderUse? op name).toList := by
  rw [placeholderParam, placeholderUse?, Operation.paramType]
  cases op.params.find? fun p => p.name == name with
  | none =>
      have text := types.built_keeps_standard built "string" (by decide)
      obtain ⟨type, found⟩ := Option.isSome_iff_exists.mp text
      simp [found, error?, firstRefusal?]
  | some p =>
      cases found : types.resolve p.type <;>
        simp [error?, firstRefusal?, isUnresolved, TypeMap.contains, found, refusal]

theorem method_error (built : types.Built) (op : Operation) :
    error? (method types m op) = firstRefusal? types m (operationUses op) := by
  rw [method, error_map, methodParams, error_map, map_all_error, operationUses,
    first_refusal_filter_map]
  simp only [placeholder_param_error types m built]

theorem client_class_error (built : types.Built) :
    error? (clientClass types m) = firstRefusal? types m (placeholderUses m) := by
  rw [clientClass, error_map, map_all_error, placeholderUses, first_refusal_flat_map]
  simp only [method_error types m built]

end Refusal

end Emit

end ApiContract
