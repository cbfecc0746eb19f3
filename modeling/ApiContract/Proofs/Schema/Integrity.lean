import ApiContract.Proofs.Schema.Named
import ApiContract.Schema.Integrity

/-!
What a module has to be for no rule to be broken, said without the checks, and that the checks
find nothing exactly then.
-/

set_option autoImplicit false

namespace ApiContract.Schema

structure FieldSound (f : Field) : Prop where
  enum_has_values : f.type = "enum" → ∃ first others, f.values = some (first :: others)
  others_have_none : f.type ≠ "enum" → f.values = none

def Defines (models : Models) (name : String) : Prop :=
  ∃ e ∈ models.entities, e.name = name

def memberNames (e : Entity) : List String :=
  e.fields.map Field.name ++ e.relations.map Relation.name

structure EntitySound (models : Models) (e : Entity) : Prop where
  not_reserved : Name.isReservedType e.name = false
  members_named : ∀ name ∈ memberNames e, Name.isIdentifier name = true
  members_distinct : (memberNames e).Nodup
  fields_sound : ∀ f ∈ e.fields, FieldSound f
  targets_defined : ∀ r ∈ e.relations, Defines models r.target

structure PlaceholderSound (op : Operation) (name : String) : Prop where
  named : Name.isIdentifier name = true
  not_reserved : Name.isReservedWord name = false
  not_local : name ∉ methodLocals
  not_body : op.request.isSome = true → name ≠ "body"

def FieldsOf (e : Entity) (names : List String) : Prop :=
  ∀ name ∈ names, ∃ f ∈ e.fields, f.name = name

structure RequestSound (models : Models) (op : Operation) (request : RequestShape) : Prop where
  body_allowed : op.method.allowsBody = true
  entity_defined : ∃ e ∈ models.entities, e.name = request.entity ∧
    ∀ names, request.fields = some names → FieldsOf e names

structure OperationSound (models : Models) (op : Operation) : Prop where
  not_member : op.name ∉ clientMembers
  params_named : ∀ p ∈ op.params, Name.isIdentifier p.name = true
  params_distinct : (op.params.map PathParam.name).Nodup
  params_in_path : ∀ p ∈ op.params, p.name ∈ op.placeholders
  placeholders_sound : ∀ name ∈ op.placeholders, PlaceholderSound op name
  placeholders_distinct : op.placeholders.Nodup
  request_sound : ∀ request, op.request = some request → RequestSound models op request
  response_defined : ∀ response entity, op.response = some response →
    response.entity = some entity → Defines models entity

def enumAliases (e : Entity) : List String :=
  (e.fields.filter fun f => f.type == "enum").map e.aliasName

def requestTypes (operations : List Operation) : List String :=
  (operations.filter fun op => op.request.isSome).map Operation.requestType

-- All names that share one scope in the types of a module.
def typeNames (models : Models) (api : Api) : List String :=
  models.entities.map Entity.name ++ models.entities.flatMap enumAliases ++
    requestTypes api.operations

structure WellFormed (models : Models) (api : Api) : Prop where
  entities_named : ∀ e ∈ models.entities, Name.isIdentifier e.name = true
  entities_distinct : (models.entities.map Entity.name).Nodup
  entities_sound : ∀ e ∈ models.entities, EntitySound models e
  types_distinct : (typeNames models api).Nodup
  operations_named : ∀ op ∈ api.operations, Name.isIdentifier op.name = true
  operations_distinct : (api.operations.map Operation.name).Nodup
  operations_sound : ∀ op ∈ api.operations, OperationSound models op

-- Names that may be added to those that are taken.
def Fresh (taken names : List String) : Prop :=
  names.Nodup ∧ ∀ name ∈ names, name ∉ taken

theorem fresh_nil (taken : List String) : Fresh taken [] :=
  ⟨List.nodup_nil, by simp⟩

theorem fresh_one (taken : List String) (name : String) : Fresh taken [name] ↔ name ∉ taken := by
  simp [Fresh]

theorem fresh_append (taken first others : List String) :
    Fresh taken (first ++ others) ↔ Fresh taken first ∧ Fresh (first.reverse ++ taken) others := by
  simp only [Fresh, List.nodup_append, List.mem_append, List.mem_reverse]
  constructor
  · rintro ⟨⟨firstDistinct, othersDistinct, apart⟩, free⟩
    refine ⟨⟨firstDistinct, fun name member => free name (.inl member)⟩, othersDistinct, ?_⟩
    rintro name member (before | before)
    · exact apart name before name member rfl
    · exact free name (.inr member) before
  · rintro ⟨⟨firstDistinct, firstFree⟩, othersDistinct, othersFree⟩
    refine ⟨⟨firstDistinct, othersDistinct, ?_⟩, ?_⟩
    · rintro name before other member rfl
      exact othersFree name member (.inl before)
    · rintro name (member | member)
      · exact firstFree name member
      · exact fun before => othersFree name member (.inr before)

theorem violation_if_none (broken : Bool) (subject : String) (rule : Rule) :
    violationIf broken subject rule = [] ↔ broken = false := by
  cases broken <;> simp [violationIf]

theorem check_names_none (owner : String) (seen names : List String) :
    checkNames owner seen names = [] ↔
      (∀ name ∈ names, Name.isIdentifier name = true) ∧ Fresh seen names := by
  induction names generalizing seen with
  | nil => simp [checkNames, fresh_nil]
  | cons name rest ih =>
      have split := fresh_append seen [name] rest
      simp only [List.singleton_append, List.reverse_singleton, fresh_one] at split
      simp only [checkNames, List.append_eq_nil_iff, violation_if_none, ih, split,
        List.forall_mem_cons, Bool.not_eq_false', List.contains_eq_mem, decide_eq_false_iff_not]
      exact ⟨fun h => ⟨⟨h.1.1, h.2.1⟩, h.1.2, h.2.2⟩, fun h => ⟨⟨h.1.1, h.2.1⟩, h.1.2, h.2.2⟩⟩

section Each

variable {α : Type} (check : List String → α → Checked) (names : α → List String)
  (good : α → Prop)

-- A check that takes the names of its item can be judged item by item, from what it says of one
-- item and any names taken before.
structure Judges : Prop where
  clean_iff : ∀ taken item,
    (check taken item).violations = [] ↔ good item ∧ Fresh taken (names item)
  takes : ∀ taken item, (check taken item).taken = (names item).reverse ++ taken

variable {check names good}

theorem check_each_takes (judges : Judges check names good) (taken : List String)
    (items : List α) :
    (checkEach check taken items).taken = (items.flatMap names).reverse ++ taken := by
  induction items generalizing taken with
  | nil => rfl
  | cons item rest ih => simp [checkEach, ih, judges.takes]

theorem check_each_clean_iff (judges : Judges check names good) (taken : List String)
    (items : List α) :
    (checkEach check taken items).violations = [] ↔
      (∀ item ∈ items, good item) ∧ Fresh taken (items.flatMap names) := by
  induction items generalizing taken with
  | nil => simp [checkEach, fresh_nil]
  | cons item rest ih =>
      simp only [checkEach, List.append_eq_nil_iff, judges.clean_iff, judges.takes, ih,
        List.forall_mem_cons, List.flatMap_cons, fresh_append]
      constructor
      · rintro ⟨⟨sound, fresh⟩, others, later⟩
        exact ⟨⟨sound, others⟩, fresh, later⟩
      · rintro ⟨⟨sound, others⟩, fresh, later⟩
        exact ⟨⟨sound, fresh⟩, others, later⟩

end Each

theorem has_values_iff (f : Field) :
    f.hasValues = true ↔ ∃ first others, f.values = some (first :: others) := by
  rw [Field.hasValues]
  split
  · rename_i first others present
    simp [present]
  · rename_i absent
    constructor
    · intro impossible
      cases impossible
    · rintro ⟨first, others, present⟩
      exact absurd present (absent first others)

def fieldAliases (e : Entity) (f : Field) : List String :=
  if f.type = "enum" then [e.aliasName f] else []

theorem enum_aliases_eq (e : Entity) : enumAliases e = e.fields.flatMap (fieldAliases e) := by
  rw [enumAliases]
  induction e.fields with
  | nil => rfl
  | cons f rest ih =>
      by_cases isEnum : f.type = "enum" <;> simp [fieldAliases, isEnum, ih]

theorem check_field_judges (e : Entity) : Judges (checkField e) (fieldAliases e) FieldSound where
  clean_iff taken f := by
    by_cases isEnum : f.type = "enum"
    · have sound : FieldSound f ↔ f.hasValues = true := by
        rw [has_values_iff]
        exact ⟨fun sound => sound.enum_has_values isEnum,
          fun present => ⟨fun _ => present, fun other => absurd isEnum other⟩⟩
      simp [checkField, fieldAliases, isEnum, violation_if_none, fresh_one, sound]
    · have sound : FieldSound f ↔ f.values = none :=
        ⟨fun sound => sound.others_have_none isEnum,
          fun absent => ⟨fun enum => absurd enum isEnum, fun _ => absent⟩⟩
      simp [checkField, fieldAliases, isEnum, violation_if_none, fresh_nil, sound]
  takes taken f := by
    by_cases isEnum : f.type = "enum" <;> simp [checkField, fieldAliases, isEnum]

theorem defines_iff (models : Models) (name : String) :
    (models.entities.map Entity.name).contains name = true ↔ Defines models name := by
  simp [Defines]

theorem check_relation_none (models : Models) (e : Entity) (r : Relation) :
    checkRelation (models.entities.map Entity.name) e r = [] ↔ Defines models r.target := by
  rw [checkRelation, violation_if_none, ← defines_iff]
  simp

theorem check_entity_judges (models : Models) :
    Judges (checkEntity (models.entities.map Entity.name)) enumAliases (EntitySound models) where
  clean_iff taken e := by
    have fields := check_each_clean_iff (check_field_judges e) taken e.fields
    simp only [checkEntity, List.append_eq_nil_iff, violation_if_none, check_names_none,
      List.flatMap_eq_nil_iff, check_relation_none, fields, ← enum_aliases_eq]
    constructor
    · rintro ⟨⟨⟨notReserved, named, distinct, -⟩, sound, fresh⟩, targets⟩
      exact ⟨⟨notReserved, named, distinct, sound, targets⟩, fresh⟩
    · rintro ⟨sound, fresh⟩
      exact ⟨⟨⟨sound.not_reserved, sound.members_named, sound.members_distinct, by simp⟩,
        sound.fields_sound, fresh⟩, sound.targets_defined⟩
  takes taken e := by
    rw [checkEntity, check_each_takes (check_field_judges e), ← enum_aliases_eq]

theorem placeholder_sound_iff (op : Operation) (name : String) :
    ((if !Name.isIdentifier name then [⟨op.name ++ "." ++ name, .invalidName⟩]
      else violationIf (Name.isReservedWord name || methodLocals.contains name ||
        (name == "body" && op.request.isSome)) (op.name ++ "." ++ name) .reservedName) :
      List Violation) = [] ↔ PlaceholderSound op name := by
  cases named : Name.isIdentifier name with
  | false =>
      constructor
      · intro impossible
        cases impossible
      · intro sound
        exact absurd sound.named (by simp [named])
  | true =>
      simp only [Bool.not_true, Bool.false_eq_true, if_false, violation_if_none,
        Bool.or_eq_false_iff, Bool.and_eq_false_iff, List.contains_eq_mem,
        decide_eq_false_iff_not, beq_eq_false_iff_ne]
      constructor
      · rintro ⟨⟨notReserved, notLocal⟩, notBody⟩
        refine ⟨named, notReserved, notLocal, fun carries => ?_⟩
        rcases notBody with different | without
        · exact different
        · rw [carries] at without
          cases without
      · intro sound
        refine ⟨⟨sound.not_reserved, sound.not_local⟩, ?_⟩
        cases carries : op.request.isSome with
        | false => exact .inr rfl
        | true => exact .inl (sound.not_body carries)

theorem check_placeholders_none (op : Operation) (seen names : List String) :
    checkPlaceholders op seen names = [] ↔
      (∀ name ∈ names, PlaceholderSound op name) ∧ Fresh seen names := by
  induction names generalizing seen with
  | nil => simp [checkPlaceholders, fresh_nil]
  | cons name rest ih =>
      have split := fresh_append seen [name] rest
      simp only [List.singleton_append, List.reverse_singleton, fresh_one] at split
      have free : seen.contains name = false ↔ name ∉ seen := by simp
      simp only [checkPlaceholders, List.append_eq_nil_iff, placeholder_sound_iff,
        violation_if_none, ih, split, free, List.forall_mem_cons]
      constructor
      · rintro ⟨⟨sound, free⟩, others, fresh⟩
        exact ⟨⟨sound, others⟩, free, fresh⟩
      · rintro ⟨⟨sound, others⟩, free, fresh⟩
        exact ⟨⟨sound, free⟩, others, fresh⟩

theorem check_request_fields_none (op : Operation) (e : Entity) (names : List String) :
    checkRequestFields op e names = [] ↔ FieldsOf e names := by
  have known (name : String) : (e.field? name).isNone = false ↔ ∃ f ∈ e.fields, f.name = name := by
    rw [Entity.field?, ← Bool.not_eq_true, Option.isNone_iff_eq_none,
      find_named_none Field.name e.fields name]
    simp
  simp only [checkRequestFields, List.flatMap_eq_nil_iff, violation_if_none, known, FieldsOf]

theorem check_request_entity_none (models : Models)
    (distinct : (models.entities.map Entity.name).Nodup) (op : Operation)
    (request : RequestShape) :
    checkRequestEntity models op request = [] ↔
      ∃ e ∈ models.entities, e.name = request.entity ∧
        ∀ names, request.fields = some names → FieldsOf e names := by
  rw [checkRequestEntity]
  split
  · rename_i missing
    rw [find_named_none Entity.name] at missing
    constructor
    · intro impossible
      cases impossible
    · rintro ⟨e, member, named, -⟩
      exact absurd (List.mem_map.mpr ⟨e, member, named⟩) missing
  · rename_i found hit
    rw [check_request_fields_none]
    have listed (e : Entity) : FieldsOf e (request.fields.getD []) ↔
        ∀ names, request.fields = some names → FieldsOf e names := by
      cases request.fields with
      | none => simp [FieldsOf]
      | some names => simp
    rw [listed]
    constructor
    · intro fields
      have ⟨member, named⟩ := (find_named_some Entity.name _ distinct _ _).mp hit
      exact ⟨found, member, named, fields⟩
    · rintro ⟨e, member, named, fields⟩
      have same : models.entities.find? (fun e => e.name == request.entity) = some e :=
        (find_named_some Entity.name _ distinct _ _).mpr ⟨member, named⟩
      rw [hit, Option.some.injEq] at same
      exact same ▸ fields

def requestNames (op : Operation) : List String :=
  if op.request.isSome then [op.requestType] else []

theorem request_types_eq (operations : List Operation) :
    requestTypes operations = operations.flatMap requestNames := by
  rw [requestTypes]
  induction operations with
  | nil => rfl
  | cons op rest ih =>
      by_cases carries : op.request.isSome = true <;> simp [requestNames, carries, ih]

theorem check_request_clean_iff (models : Models)
    (distinct : (models.entities.map Entity.name).Nodup) (taken : List String) (op : Operation) :
    (checkRequest models true taken op).violations = [] ↔
      (∀ request, op.request = some request → RequestSound models op request) ∧
        Fresh taken (requestNames op) := by
  cases carried : op.request with
  | none => simp [checkRequest, requestNames, carried, fresh_nil]
  | some request =>
      simp only [checkRequest, requestNames, carried, List.append_eq_nil_iff, violation_if_none,
        check_request_entity_none models distinct, Option.isSome_some, if_true, fresh_one,
        Bool.true_and, List.contains_eq_mem, decide_eq_false_iff_not, Bool.not_eq_false',
        Option.some.injEq, forall_eq']
      constructor
      · rintro ⟨⟨free, allowed⟩, defined⟩
        exact ⟨⟨allowed, defined⟩, free⟩
      · rintro ⟨sound, free⟩
        exact ⟨⟨free, sound.body_allowed⟩, sound.entity_defined⟩

theorem check_request_takes (models : Models) (taken : List String) (op : Operation) :
    (checkRequest models true taken op).taken = (requestNames op).reverse ++ taken := by
  cases carried : op.request with
  | none => simp [checkRequest, requestNames, carried]
  | some request => simp [checkRequest, requestNames, carried]

theorem check_response_none (models : Models) (op : Operation) :
    checkResponse (models.entities.map Entity.name) op = [] ↔
      ∀ response entity, op.response = some response → response.entity = some entity →
        Defines models entity := by
  rw [checkResponse]
  cases given : op.response.bind ResponseShape.entity with
  | none =>
      constructor
      · intro _ response entity answered named
        simp [answered, named] at given
      · intro _
        rfl
  | some entity =>
      obtain ⟨response, answered, named⟩ := Option.bind_eq_some_iff.mp given
      simp only [violation_if_none, Bool.not_eq_false', defines_iff]
      constructor
      · intro defined other name otherAnswered otherNamed
        simp only [answered, Option.some.injEq] at otherAnswered
        subst otherAnswered
        simp only [named, Option.some.injEq] at otherNamed
        exact otherNamed ▸ defined
      · intro defined
        exact defined response entity answered named

theorem params_in_path_iff (op : Operation) :
    (op.params.flatMap fun p =>
      violationIf (!op.placeholders.contains p.name) op.name (.paramNotInPath p.name)) = [] ↔
      ∀ p ∈ op.params, p.name ∈ op.placeholders := by
  simp [List.flatMap_eq_nil_iff, violation_if_none]

theorem check_operation_judges (models : Models)
    (distinct : (models.entities.map Entity.name).Nodup) :
    Judges (checkOperation models true) requestNames (OperationSound models) where
  clean_iff taken op := by
    have notMember : clientMembers.contains op.name = false ↔ op.name ∉ clientMembers := by simp
    simp only [checkOperation, List.append_eq_nil_iff, violation_if_none, check_names_none,
      params_in_path_iff, check_placeholders_none, check_request_clean_iff models distinct,
      check_response_none, notMember, List.forall_mem_map]
    constructor
    · rintro ⟨⟨⟨⟨⟨member, named, paramsDistinct, -⟩, inPath⟩, sound, placesDistinct, -⟩,
        request, fresh⟩, response⟩
      exact ⟨⟨member, named, paramsDistinct, inPath, sound, placesDistinct, request, response⟩,
        fresh⟩
    · rintro ⟨sound, fresh⟩
      exact ⟨⟨⟨⟨⟨sound.not_member, sound.params_named, sound.params_distinct, by simp⟩,
        sound.params_in_path⟩, sound.placeholders_sound, sound.placeholders_distinct, by simp⟩,
        sound.request_sound, fresh⟩, sound.response_defined⟩
  takes taken op := check_request_takes models taken op

-- Of operations with names of their own, each is the first of its name, so the names seen before
-- make no difference.
theorem check_operations_distinct (models : Models) (seen taken : List String)
    (operations : List Operation) (fresh : Fresh seen (operations.map Operation.name)) :
    checkOperations models seen taken operations =
      (checkEach (checkOperation models true) taken operations).violations := by
  induction operations generalizing seen taken with
  | nil => rfl
  | cons op rest ih =>
      have split := fresh_append seen [op.name] (rest.map Operation.name)
      simp only [List.singleton_append, List.reverse_singleton, fresh_one] at split
      have ⟨first, later⟩ := split.mp fresh
      have isFirst : (!seen.contains op.name) = true := by simpa using first
      simp only [checkOperations, checkEach, isFirst, ih _ _ later]

theorem types_distinct_iff (models : Models) (api : Api) :
    (typeNames models api).Nodup ↔
      (models.entities.map Entity.name).Nodup ∧
        Fresh (models.entities.map Entity.name) (models.entities.flatMap enumAliases) ∧
        Fresh ((models.entities.flatMap enumAliases).reverse ++ models.entities.map Entity.name)
          (requestTypes api.operations) := by
  have whole (names : List String) : names.Nodup ↔ Fresh [] names := by simp [Fresh]
  rw [whole, typeNames, List.append_assoc, fresh_append, fresh_append, ← whole]
  simp only [Fresh, List.mem_append, List.mem_reverse, List.not_mem_nil, or_false]

-- The names of operations are still checked in two places here: for repetition by themselves, and
-- with the names seen before when the operations are checked.
theorem validate_none_iff (models : Models) (api : Api) :
    validate models api = [] ↔
      ((∀ e ∈ models.entities, Name.isIdentifier e.name = true) ∧
        Fresh [] (models.entities.map Entity.name)) ∧
      ((∀ e ∈ models.entities, EntitySound models e) ∧
        Fresh (models.entities.map Entity.name) (models.entities.flatMap enumAliases)) ∧
      ((∀ op ∈ api.operations, Name.isIdentifier op.name = true) ∧
        Fresh [] (api.operations.map Operation.name)) ∧
      checkOperations models []
        ((models.entities.flatMap enumAliases).reverse ++ models.entities.map Entity.name)
        api.operations = [] := by
  have entitiesTake := check_each_takes (check_entity_judges models)
    (models.entities.map Entity.name) models.entities
  simp only [validate, List.append_eq_nil_iff, check_names_none, entitiesTake,
    check_each_clean_iff (check_entity_judges models), List.forall_mem_map, and_assoc]

theorem check_operations_none_iff (models : Models)
    (entitiesDistinct : (models.entities.map Entity.name).Nodup) (taken : List String)
    (operations : List Operation) (fresh : Fresh [] (operations.map Operation.name)) :
    checkOperations models [] taken operations = [] ↔
      (∀ op ∈ operations, OperationSound models op) ∧ Fresh taken (requestTypes operations) := by
  rw [check_operations_distinct models [] taken operations fresh,
    check_each_clean_iff (check_operation_judges models entitiesDistinct), request_types_eq]

theorem well_formed_of_validate (models : Models) (api : Api) (clean : validate models api = []) :
    WellFormed models api := by
  obtain ⟨⟨entitiesNamed, entitiesDistinct, -⟩, ⟨entitiesSound, aliasesFresh⟩,
    ⟨operationsNamed, operationsFresh⟩, operations⟩ := (validate_none_iff models api).mp clean
  have ⟨operationsSound, requestsFresh⟩ :=
    (check_operations_none_iff models entitiesDistinct _ _ operationsFresh).mp operations
  exact {
    entities_named := entitiesNamed
    entities_distinct := entitiesDistinct
    entities_sound := entitiesSound
    types_distinct := (types_distinct_iff models api).mpr
      ⟨entitiesDistinct, aliasesFresh, requestsFresh⟩
    operations_named := operationsNamed
    operations_distinct := operationsFresh.1
    operations_sound := operationsSound }

theorem validate_of_well_formed (models : Models) (api : Api) (formed : WellFormed models api) :
    validate models api = [] := by
  have ⟨entitiesDistinct, aliasesFresh, requestsFresh⟩ :=
    (types_distinct_iff models api).mp formed.types_distinct
  have operationsFresh : Fresh [] (api.operations.map Operation.name) :=
    ⟨formed.operations_distinct, by simp⟩
  have operations :=
    (check_operations_none_iff models entitiesDistinct _ _ operationsFresh).mpr
      ⟨formed.operations_sound, requestsFresh⟩
  exact (validate_none_iff models api).mpr
    ⟨⟨formed.entities_named, entitiesDistinct, by simp⟩, ⟨formed.entities_sound, aliasesFresh⟩,
      ⟨formed.operations_named, operationsFresh⟩, operations⟩

theorem validate_empty_iff_well_formed (models : Models) (api : Api) :
    validate models api = [] ↔ WellFormed models api :=
  ⟨well_formed_of_validate models api, validate_of_well_formed models api⟩

end ApiContract.Schema
