import ApiContract.Emit.Types
import ApiContract.Proofs.Code.FileItems
import ApiContract.Proofs.Emit.MapAll
import ApiContract.Proofs.Emit.PlainModules
import ApiContract.Proofs.Emit.TypeNames

/-!
The types of a module as items, which declare the entities and the requests of the module.
-/

set_option autoImplicit false

namespace ApiContract.Emit

open Code (Decl IsPlainName IsTypeName PlainProperty PlainType StandsFor TypeExpr WrittenAs)
open Schema (Accepted Entity Field Module Operation)

theorem alias_name_type (e : Entity) (plain : PlainEntity e) (f : Field) (member : f ∈ e.fields) :
    Name.NamesType (e.aliasName f) :=
  Name.type_append _ _ (Name.upper_name_type _ plain.named)
    (Name.lower_pascal_type _ (member_lower _ (plain.fields_named f member))).parts

theorem element_type (m : Module) (e : Entity) (plain : PlainEntity e) (f : Field)
    (member : f ∈ e.fields) (element : TypeExpr)
    (succeeds : elementType TypeMap.standard m e f = .ok element) :
    ∃ text, element = .named text ∧ IsTypeName text ∧
      text = if f.type = "enum" then e.aliasName f else standardText f.type := by
  rw [elementType] at succeeds
  split at succeeds
  · rename_i isEnum
    cases succeeds
    exact ⟨_, rfl, type_name _ (alias_name_type e plain f member), by rw [if_pos isEnum]⟩
  · rename_i other
    split at succeeds
    · rename_i type resolved
      cases succeeds
      obtain ⟨text, named, rfl, spelled⟩ := standard_resolved f.type element resolved
      exact ⟨named, rfl, spelled, by rw [if_neg other, text]; rfl⟩
    · cases succeeds

theorem field_type (m : Module) (e : Entity) (plain : PlainEntity e) (f : Field)
    (member : f ∈ e.fields) (type : TypeExpr)
    (succeeds : fieldType TypeMap.standard m e f = .ok type) :
    PlainType type ∧ type.render = fieldText e f := by
  obtain ⟨element, resolved, rfl⟩ := (map_ok_iff _ _ _).mp succeeds
  obtain ⟨text, rfl, spelled, same⟩ := element_type m e plain f member element resolved
  have null : IsTypeName "null" := by decide
  have joined (text : String) : text ++ " | " ++ "null" = text ++ " | null" := by
    rw [← String.toList_inj]
    simp
  rw [fieldText, ← same]
  cases f.list <;> cases f.nullable <;>
    simp [TypeExpr.nullable, TypeExpr.null, TypeExpr.render, TypeExpr.renderAll, Text.join,
      PlainType, Code.PlainTypes, TypeExpr.isUnion, spelled, null, joined]

theorem field_property (m : Module) (e : Entity) (plain : PlainEntity e) (f : Field)
    (member : f ∈ e.fields) (optional : Bool) (p : Code.Property)
    (succeeds : fieldProperty TypeMap.standard m e optional f = .ok p) :
    PlainProperty p ∧ Code.outlineOf p = fieldOutline e optional f := by
  obtain ⟨type, resolved, rfl⟩ := (map_ok_iff _ _ _).mp succeeds
  obtain ⟨typed, text⟩ := field_type m e plain f member type resolved
  exact ⟨⟨plain.fields_bare f member, rfl, member_plain _ (plain.fields_named f member), typed⟩, by
    rw [Code.outlineOf, text, fieldOutline]⟩

theorem field_properties (m : Module) (e : Entity) (plain : PlainEntity e)
    (optional : Field → Bool) (fields : List Field) (own : ∀ f ∈ fields, f ∈ e.fields)
    (properties : List Code.Property)
    (made : mapAll (fun f => fieldProperty TypeMap.standard m e (optional f) f) fields =
      .ok properties) :
    (∀ p ∈ properties, PlainProperty p) ∧
      properties.map Code.outlineOf = fields.map fun f => fieldOutline e (optional f) f := by
  constructor
  · intro p member
    obtain ⟨f, inFields, one⟩ := map_all_source _ _ _ made p member
    exact (field_property m e plain f (own f inFields) (optional f) p one).1
  · exact map_all_map _ _ _ fields
      (fun f member p one => (field_property m e plain f (own f member) (optional f) p one).2) _ made

theorem relation_property (m : Module) (plain : PlainModule m) (e : Entity)
    (member : e ∈ m.entities) (r : Schema.Relation) (own : r ∈ e.relations)
    (defined : Schema.Defines ⟨m.entities⟩ r.target) :
    PlainProperty (relationProperty r) ∧
      Code.outlineOf (relationProperty r) = relationOutline r := by
  have target := plain_type_name _ (defined_type m plain r.target defined)
  have named := member_plain _ ((plain.entities_plain e member).relations_named r own)
  have typed : PlainType (relationProperty r).type := by
    cases cardinality : r.cardinality <;>
      simpa [relationProperty, cardinality, PlainType] using target
  refine ⟨⟨rfl, rfl, named, typed⟩, ?_⟩
  cases cardinality : r.cardinality <;>
    simp [Code.outlineOf, relationProperty, relationOutline, cardinality, TypeExpr.render]

-- What the declarations of types stand for.
def typesFound : Decl → List Outline.Declaration
  | .typeAlias name _ type _ => [Code.aliasOutline name type]
  | .interface name _ _ properties _ => [Code.interfaceOutline name properties]
  | _ => []

theorem alias_stands (name : String) (type : TypeExpr) (named : IsPlainName name)
    (typed : PlainType type) :
    StandsFor (.typeAlias name true type none) [Code.aliasOutline name type] := by
  refine fun lead gap => ⟨Code.aliasItems lead name type, by simp [Code.aliasItems], ?_,
    fun next => ?_, ?_⟩
  · simpa using Code.alias_items_chars lead name type typed
  · exact Code.alias_items_fit lead name type next gap named.1 typed
  · exact Code.alias_declares lead name type gap named typed

theorem interface_stands (name : String) (properties : List Code.Property)
    (named : IsPlainName name) (plain : ∀ p ∈ properties, PlainProperty p) :
    StandsFor (.interface name true [] properties none)
      [Code.interfaceOutline name properties] :=
  fun lead gap => ⟨Code.interfaceItems lead name properties, by simp [Code.interfaceItems],
    by simpa using Code.interface_items_chars lead name properties plain,
    fun next => Code.interface_items_fit lead name properties next gap named.1 plain,
    Code.interface_declares lead name properties gap named plain⟩

-- The union of the values of an enum field.
theorem values_render (values : List String) :
    (TypeExpr.union (values.map TypeExpr.literal)).render =
      Text.join " | " (values.map Code.quoted) := by
  have each : TypeExpr.renderAll (values.map TypeExpr.literal) = values.map Code.quoted := by
    induction values with
    | nil => rfl
    | cons value rest ih => rw [List.map_cons, TypeExpr.renderAll, ih]; rfl
  rw [TypeExpr.render, each]

theorem values_type (values : List String) (nonempty : values ≠ [])
    (plain : ∀ value ∈ values, isPlainValue value = true) :
    PlainType (.union (values.map TypeExpr.literal)) := by
  refine ⟨by simpa using nonempty, by simp [TypeExpr.isUnion], ?_⟩
  clear nonempty
  induction values with
  | nil => trivial
  | cons value rest ih =>
      obtain ⟨own, later⟩ := List.forall_mem_cons.mp plain
      exact ⟨value_plain value own, ih later⟩

theorem alias_found (e : Entity) (f : Field) :
    (enumAlias? e f).toList.flatMap typesFound = (aliasOutline? e f).toList := by
  cases values : f.values with
  | none => simp [enumAlias?, aliasOutline?, values]
  | some vs =>
      simp [enumAlias?, aliasOutline?, values, typesFound, Code.aliasOutline, values_render]

theorem aliases_found (e : Entity) (fields : List Field) :
    (fields.filterMap (enumAlias? e)).flatMap typesFound = fields.filterMap (aliasOutline? e) := by
  induction fields with
  | nil => rfl
  | cons f rest ih =>
      have own := alias_found e f
      cases made : enumAlias? e f <;> cases outline : aliasOutline? e f <;>
        simp_all

theorem aliases_stand (e : Entity) (plain : PlainEntity e)
    (sound : ∀ f ∈ e.fields, Schema.FieldSound f) :
    ∀ d ∈ e.fields.filterMap (enumAlias? e), StandsFor d (typesFound d) := by
  intro d member
  obtain ⟨f, own, made⟩ := List.mem_filterMap.mp member
  obtain ⟨values, present, rfl⟩ := Option.map_eq_some_iff.mp made
  have isEnum : f.type = "enum" := by
    by_contra other
    rw [(sound f own).others_have_none other] at present
    cases present
  obtain ⟨first, others, listed⟩ := (sound f own).enum_has_values isEnum
  have nonempty : values ≠ [] := by
    rw [listed] at present
    cases present
    simp
  exact alias_stands _ _ (type_plain _ (alias_name_type e plain f own))
    (values_type values nonempty (plain.values_plain f own values present))

theorem entity_decls_stand (m : Module) (accepted : Accepted m) (plain : PlainModule m) (e : Entity)
    (member : e ∈ m.entities) (decls : List Decl)
    (succeeds : entityDecls TypeMap.standard m e = .ok decls) :
    (∀ d ∈ decls, StandsFor d (typesFound d)) ∧
      decls.flatMap typesFound = e.fields.filterMap (aliasOutline? e) ++ [entityOutline e] := by
  have sound := ((Schema.accepted_iff m).mp accepted).entities_sound e member
  have own := plain.entities_plain e member
  obtain ⟨interface, made, rfl⟩ := (map_ok_iff _ _ _).mp succeeds
  obtain ⟨properties, placed, rfl⟩ := (map_ok_iff _ _ _).mp made
  obtain ⟨plainFields, fieldOutlines⟩ := field_properties m e own _ e.fields (fun _ => id) properties
    placed
  have relations (r : Schema.Relation) (related : r ∈ e.relations) :=
    relation_property m plain e member r related (sound.targets_defined r related)
  have plainAll : ∀ p ∈ properties ++ e.relations.map relationProperty, PlainProperty p :=
    List.forall_mem_append.mpr ⟨plainFields, List.forall_mem_map.mpr fun r related =>
      (relations r related).1⟩
  have relationOutlines : (e.relations.map relationProperty).map Code.outlineOf =
      e.relations.map relationOutline := by
    rw [List.map_map]
    exact List.map_congr_left fun r related => (relations r related).2
  rw [own.no_description]
  constructor
  · refine List.forall_mem_append.mpr ⟨aliases_stand e own sound.fields_sound, ?_⟩
    simpa [typesFound] using interface_stands e.name _
      (type_plain _ (Name.upper_name_type _ own.named)) plainAll
  · rw [List.flatMap_append, aliases_found]
    simp [typesFound, Code.interfaceOutline, entityOutline, fieldOutlines, relationOutlines]

theorem request_doc_line (op : Operation) (named : Name.isIdentifier op.name = true) : ∃ doc,
    Code.docText (some ("Request body for \x60" ++ op.name ++ "\x60")) = doc ++ "\n" ∧
      Script.IsGap doc.toList := by
  have unbroken := Code.identifier_unbroken op.name named
  have free := Schema.part_ne op.name named '*' (by decide)
  obtain ⟨doc, text, -, gap⟩ := Code.doc_line ("Request body for \x60" ++ op.name ++ "\x60")
    (by simpa using unbroken) (by simpa using free) 'R' (by simp) (by decide)
  exact ⟨doc, text, gap⟩

theorem request_properties (e : Entity) (request : Schema.RequestShape) :
    requestProperties e request =
      (sentFields e request).map fun f => fieldOutline e (request.partial_ || !f.required) f := rfl

-- The interface of a request declares the fields that are sent.
theorem request_decls_stand (m : Module) (plain : PlainModule m) (op : Operation)
    (member : op ∈ m.operations) (decls : List Decl)
    (succeeds : requestDecls TypeMap.standard m op = .ok decls) :
    (∀ d ∈ decls, StandsFor d (typesFound d)) ∧
      decls.flatMap typesFound = (requestOutline? m op).toList := by
  rw [requestDecls] at succeeds
  split at succeeds
  · rename_i absent
    cases succeeds
    simp [requestOutline?, absent]
  · rename_i request sends
    obtain ⟨decl, made, rfl⟩ := (map_ok_iff _ _ _).mp succeeds
    rw [requestInterface] at made
    split at made
    · cases made
    · rename_i e found
      obtain ⟨properties, placed, rfl⟩ := (map_ok_iff _ _ _).mp made
      have own := plain.entities_plain e (List.mem_of_find?_eq_some found)
      obtain ⟨plainFields, outlines⟩ := field_properties m e own _ _ (sent_from_entity e request)
        properties placed
      have type := request_type m plain op member
      have named := member_plain _ (plain.operations_plain op member).named
      obtain ⟨doc, docText, docGap⟩ := request_doc_line op named.1
      have written := Code.interface_doc op.requestType properties
        (some ("Request body for \x60" ++ op.name ++ "\x60"))
      rw [docText] at written
      have stands := Code.stands_behind_doc _ doc _ _ docGap written
        (interface_stands op.requestType properties type plainFields)
      constructor
      · simpa [typesFound] using stands
      · simp [typesFound, Code.interfaceOutline, requestOutline?, request_properties, sends, found,
          outlines]

-- Lists of declarations, made one after the other, stand as the lists they are made of.
theorem decls_stand {α : Type} (make : α → Except EmitError (List Decl))
    (outline : α → List Outline.Declaration) (items : List α)
    (each : ∀ a ∈ items, ∀ decls, make a = .ok decls →
      (∀ d ∈ decls, StandsFor d (typesFound d)) ∧ decls.flatMap typesFound = outline a)
    (made : List (List Decl)) (succeeds : mapAll make items = .ok made) :
    (∀ d ∈ made.flatten, StandsFor d (typesFound d)) ∧
      made.flatten.flatMap typesFound = items.flatMap outline := by
  constructor
  · intro d member
    obtain ⟨decls, inMade, own⟩ := List.mem_flatten.mp member
    obtain ⟨a, inItems, one⟩ := map_all_source _ _ _ succeeds decls inMade
    exact (each a inItems decls one).1 d own
  · have found := map_all_map make (·.flatMap typesFound) outline items
      (fun a member decls one => (each a member decls one).2) made succeeds
    rw [List.flatMap_def, List.map_flatten, List.flatten_flatten, List.map_map, List.flatMap_def,
      ← found]
    rfl

theorem type_decls_stand (m : Module) (accepted : Accepted m) (plain : PlainModule m)
    (decls : List Decl) (succeeds : typeDecls TypeMap.standard m = .ok decls) :
    (∀ d ∈ decls, StandsFor d (typesFound d)) ∧ decls.flatMap typesFound = typesOutline m := by
  obtain ⟨entities, requests, made, sent, rfl⟩ := type_decls_ok TypeMap.standard m decls succeeds
  obtain ⟨entitiesStand, entitiesFound⟩ := decls_stand _ _ m.entities
    (fun e member decls one => entity_decls_stand m accepted plain e member decls one) entities made
  obtain ⟨requestsStand, requestsFound⟩ := decls_stand _ _ m.operations
    (fun op member decls one => request_decls_stand m plain op member decls one) requests sent
  refine ⟨List.forall_mem_append.mpr ⟨entitiesStand, requestsStand⟩, ?_⟩
  rw [List.flatMap_append, entitiesFound, requestsFound, typesOutline,
    List.filterMap_eq_flatMap_toList]

end ApiContract.Emit
