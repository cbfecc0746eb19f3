import ApiContract.Proofs.Json.Compact
import ApiContract.Schema.Record

/-!
The JSON value of a schema determines the schema. Each part of a record is found under its name, and
what is left out is told from all that can be written in its place.
-/

set_option autoImplicit false

namespace ApiContract.Json

theorem field_append (key : String) (front back : List (String × Json)) :
    field? key (front ++ back) = (field? key front).or (field? key back) := by
  induction front with
  | nil => rfl
  | cons field rest ih =>
      by_cases same : field.1 = key <;> simp [field?, same, ih]

theorem field_optional (key name : String) (value : Option Json) :
    field? key (optional name value) = if name = key then value else none := by
  cases value <;> simp [optional, field?]

theorem field_non_empty (key name : String) (items : List Json) :
    field? key (nonEmpty name items) =
      if name = key ∧ items ≠ [] then some (.array items) else none := by
  cases items <;> simp [nonEmpty, field?]

theorem field_flag (key name : String) (value : Bool) :
    field? key (flag name value) = if name = key ∧ value = true then some (.bool true) else none := by
  cases value <;> simp [flag, field?]

theorem field_unless (key name : String) (value : Bool) (json : Json) :
    field? key (if value = true then [] else [(name, json)]) =
      if name = key ∧ value = false then some json else none := by
  cases value <;> simp [field?]

theorem flag_injective (json : Json) (wanted value other : Bool)
    (same : (if value = wanted then some json else none) = if other = wanted then some json else none) :
    value = other := by
  by_cases hit : value = wanted
  · by_cases otherHit : other = wanted
    · rw [hit, otherHit]
    · simp [hit, otherHit] at same
  · by_cases otherHit : other = wanted
    · simp [hit, otherHit] at same
    · rw [Bool.eq_not_of_ne hit, Bool.eq_not_of_ne otherHit]

theorem items_injective (items others : List Json)
    (same : (if items ≠ [] then some (Json.array items) else none) =
      if others ≠ [] then some (Json.array others) else none) : items = others := by
  by_cases empty : items = []
  · by_cases otherEmpty : others = []
    · rw [empty, otherEmpty]
    · simp [empty, otherEmpty] at same
  · by_cases otherEmpty : others = []
    · simp [empty, otherEmpty] at same
    · simpa [empty, otherEmpty] using same

theorem texts_injective : Function.Injective texts := by
  intro values others same
  exact List.map_injective_iff.mpr (fun _ _ => text.inj) (array.inj same)

theorem optional_text_injective : Function.Injective (Option.map text) :=
  Option.map_injective fun _ _ => text.inj

theorem optional_texts_injective : Function.Injective (Option.map texts) :=
  Option.map_injective texts_injective

theorem numberless_append (front back : List (String × Json)) :
    FieldsNumberless (front ++ back) ↔ FieldsNumberless front ∧ FieldsNumberless back := by
  simp only [fields_numberless_iff, List.forall_mem_append]

theorem numberless_optional (name : String) (value : Option Json) :
    FieldsNumberless (optional name value) ↔ ∀ v ∈ value, Numberless v := by
  cases value <;> simp [optional, FieldsNumberless]

theorem numberless_non_empty (name : String) (items : List Json) :
    FieldsNumberless (nonEmpty name items) ↔ AllNumberless items := by
  cases items <;> simp [nonEmpty, FieldsNumberless, Numberless, AllNumberless]

theorem numberless_flag (name : String) (value : Bool) : FieldsNumberless (flag name value) := by
  cases value <;> simp [flag, FieldsNumberless, Numberless]

theorem numberless_unless (name : String) (value written : Bool) :
    FieldsNumberless (if value = true then [] else [(name, .bool written)]) := by
  cases value <;> simp [FieldsNumberless, Numberless]

theorem numberless_texts (values : List String) : Numberless (texts values) := by
  simp [texts, Numberless, all_numberless_iff]

theorem numberless_map {α : Type} (value : α → Json) (each : ∀ a, Numberless (value a))
    (items : List α) : AllNumberless (items.map value) := by
  simp [all_numberless_iff, each]

theorem numberless_value {α : Type} (value : α → Json) (each : ∀ a, Numberless (value a))
    (item : Option α) : ∀ v ∈ item.map value, Numberless v := by
  simp [each]

end ApiContract.Json

namespace ApiContract.Schema

open Json (FieldsNumberless Numberless field? field_append field_flag field_non_empty field_optional
  field_unless flag_injective items_injective numberless_append numberless_flag numberless_map
  numberless_non_empty numberless_optional numberless_texts numberless_unless numberless_value
  optional_text_injective optional_texts_injective)

-- What is found under a name in two records with one value.
theorem found_same (fields others : List (String × Json))
    (same : Json.object fields = .object others) (key : String) :
    field? key fields = field? key others :=
  congrArg (field? key) (Json.object.inj same)

theorem cardinality_told : Function.Injective Cardinality.word := by
  intro c d same
  cases c <;> cases d <;> simp [Cardinality.word] at same ⊢

theorem method_told : Function.Injective HttpMethod.word := by
  intro m n same
  cases m <;> cases n <;> simp [HttpMethod.word] at same ⊢

theorem field_told : Function.Injective Field.toJson := by
  intro f g same
  have found := found_same _ _ same
  simp only [field_append, field_optional, field_flag, field_unless] at found
  have name : f.name = g.name := by simpa [field?] using found "name"
  have type : f.type = g.type := by simpa [field?] using found "type"
  have required : f.required = g.required :=
    flag_injective (.bool false) false _ _ (by simpa [field?] using found "required")
  have nullable : f.nullable = g.nullable :=
    flag_injective (.bool true) true _ _ (by simpa [field?] using found "nullable")
  have list : f.list = g.list :=
    flag_injective (.bool true) true _ _ (by simpa [field?] using found "list")
  have values : f.values = g.values :=
    optional_texts_injective (by simpa [field?] using found "values")
  have description : f.description = g.description :=
    optional_text_injective (by simpa [field?] using found "description")
  cases f
  cases g
  simp_all

theorem relation_told : Function.Injective Relation.toJson := by
  intro r q same
  have found := found_same _ _ same
  have name : r.name = q.name := by simpa [field?] using found "name"
  have target : r.target = q.target := by simpa [field?] using found "target"
  have cardinality : r.cardinality = q.cardinality :=
    cardinality_told (by simpa [field?] using found "cardinality")
  cases r
  cases q
  simp_all

theorem entity_told : Function.Injective Entity.toJson := by
  intro e d same
  have found := found_same _ _ same
  simp only [field_append, field_optional, field_non_empty] at found
  have name : e.name = d.name := by simpa [field?] using found "name"
  have description : e.description = d.description :=
    optional_text_injective (by simpa [field?] using found "description")
  have fields : e.fields = d.fields :=
    List.map_injective_iff.mpr field_told (by simpa [field?] using found "fields")
  have relations : e.relations = d.relations :=
    List.map_injective_iff.mpr relation_told
      (items_injective _ _ (by simpa [field?] using found "relations"))
  cases e
  cases d
  simp_all

theorem path_param_told : Function.Injective PathParam.toJson := by
  intro p q same
  have found := found_same _ _ same
  have name : p.name = q.name := by simpa [field?] using found "name"
  have type : p.type = q.type := by simpa [field?] using found "type"
  cases p
  cases q
  simp_all

theorem request_told : Function.Injective RequestShape.toJson := by
  intro r q same
  have found := found_same _ _ same
  simp only [field_append, field_optional, field_flag] at found
  have entity : r.entity = q.entity := by simpa [field?] using found "entity"
  have fields : r.fields = q.fields :=
    optional_texts_injective (by simpa [field?] using found "fields")
  have partial_ : r.partial_ = q.partial_ :=
    flag_injective (.bool true) true _ _ (by simpa [field?] using found "partial")
  cases r
  cases q
  simp_all

theorem response_told : Function.Injective ResponseShape.toJson := by
  intro r q same
  have found := found_same _ _ same
  simp only [field_append, field_optional, field_flag] at found
  have entity : r.entity = q.entity :=
    optional_text_injective (by simpa using found "entity")
  have list : r.list = q.list :=
    flag_injective (.bool true) true _ _ (by simpa using found "list")
  cases r
  cases q
  simp_all

theorem operation_told : Function.Injective Operation.toJson := by
  intro op other same
  have found := found_same _ _ same
  simp only [field_append, field_optional, field_non_empty] at found
  have name : op.name = other.name := by simpa [field?] using found "name"
  have method : op.method = other.method := method_told (by simpa [field?] using found "method")
  have path : op.path = other.path := by simpa [field?] using found "path"
  have params : op.params = other.params :=
    List.map_injective_iff.mpr path_param_told
      (items_injective _ _ (by simpa [field?] using found "params"))
  have request : op.request = other.request :=
    Option.map_injective request_told (by simpa [field?] using found "request")
  have response : op.response = other.response :=
    Option.map_injective response_told (by simpa [field?] using found "response")
  have description : op.description = other.description :=
    optional_text_injective (by simpa [field?] using found "description")
  cases op
  cases other
  simp_all

-- An item under its own name is told by its value alone.
theorem named_told {α : Type} (name : α → String) (value : α → Json)
    (told : Function.Injective value) : Function.Injective fun a => (name a, value a) :=
  fun _ _ same => told (Prod.mk.inj same).2

theorem module_told : Function.Injective Module.toJson := by
  intro m n same
  have found := found_same _ _ same
  simp only [field_append, field_optional] at found
  have name : m.name = n.name := by simpa [field?] using found "name"
  have basePath : m.basePath = n.basePath :=
    optional_text_injective (by simpa [field?] using found "base_path")
  have entities : m.entities = n.entities :=
    List.map_injective_iff.mpr (named_told Entity.name Entity.toJson entity_told)
      (by simpa [field?] using found "entities")
  have operations : m.operations = n.operations :=
    List.map_injective_iff.mpr (named_told Operation.name Operation.toJson operation_told)
      (by simpa [field?] using found "operations")
  cases m
  cases n
  simp_all

theorem optional_text_numberless (value : Option String) :
    ∀ v ∈ value.map Json.text, Numberless v :=
  numberless_value Json.text (fun _ => trivial) value

theorem field_numberless (f : Field) : Numberless f.toJson := by
  simp only [Field.toJson, Numberless, FieldsNumberless, numberless_append, numberless_optional,
    numberless_flag, numberless_unless, and_true, true_and]
  exact ⟨numberless_value Json.texts numberless_texts f.values,
    optional_text_numberless f.description⟩

theorem relation_numberless (r : Relation) : Numberless r.toJson := by
  simp only [Relation.toJson, Numberless, FieldsNumberless, and_true]

theorem entity_numberless (e : Entity) : Numberless e.toJson := by
  simp only [Entity.toJson, Numberless, FieldsNumberless, numberless_append, numberless_optional,
    numberless_non_empty, and_true, true_and]
  exact ⟨⟨optional_text_numberless e.description, numberless_map _ field_numberless e.fields⟩,
    numberless_map _ relation_numberless e.relations⟩

theorem path_param_numberless (p : PathParam) : Numberless p.toJson := by
  simp only [PathParam.toJson, Numberless, FieldsNumberless, and_true]

theorem request_numberless (r : RequestShape) : Numberless r.toJson := by
  simp only [RequestShape.toJson, Numberless, FieldsNumberless, numberless_append,
    numberless_optional, numberless_flag, and_true, true_and]
  exact numberless_value Json.texts numberless_texts r.fields

theorem response_numberless (r : ResponseShape) : Numberless r.toJson := by
  simp only [ResponseShape.toJson, Numberless, numberless_append, numberless_optional,
    numberless_flag, and_true]
  exact optional_text_numberless r.entity

theorem operation_numberless (op : Operation) : Numberless op.toJson := by
  simp only [Operation.toJson, Numberless, FieldsNumberless, numberless_append,
    numberless_optional, numberless_non_empty, and_true, true_and]
  exact ⟨⟨⟨numberless_map _ path_param_numberless op.params,
    numberless_value _ request_numberless op.request⟩,
    numberless_value _ response_numberless op.response⟩,
    optional_text_numberless op.description⟩

theorem named_numberless {α : Type} (name : α → String) (value : α → Json)
    (each : ∀ a, Numberless (value a)) (items : List α) :
    FieldsNumberless (items.map fun a => (name a, value a)) := by
  simp [Json.fields_numberless_iff, each]

theorem module_numberless (m : Module) : Numberless m.toJson := by
  simp only [Module.toJson, Numberless, FieldsNumberless, numberless_append, numberless_optional,
    and_true, true_and]
  exact ⟨⟨named_numberless _ _ entity_numberless m.entities, optional_text_numberless m.basePath⟩,
    named_numberless _ _ operation_numberless m.operations⟩

theorem module_text_injective : Function.Injective fun m : Module => m.toJson.compact := by
  intro m n same
  exact module_told (Json.compact_injective _ _ (module_numberless m) (module_numberless n) same)

end ApiContract.Schema
