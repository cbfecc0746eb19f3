import ApiContract.Emit.Output
import ApiContract.Proofs.Emit.MapAll
import ApiContract.Proofs.Schema.Accepted
import Mathlib.Data.List.Perm.Basic

/-!
The names of types in the files of a module: none is declared twice, and every name that the schema
puts into a type is declared, in the file itself or in the one that a client imports from.
-/

set_option autoImplicit false

namespace ApiContract.Emit

open Code (ClassMember Decl Param Property TypeExpr)
open Schema (Entity Field Module Operation Relation RequestShape)

mutual

def mentions : TypeExpr → List String
  | .named name => [name]
  | .arrayOf element => mentions element
  | .union members => mentionsAny members
  | .generic name args => name :: mentionsAny args
  | .literal _ => []

def mentionsAny : List TypeExpr → List String
  | [] => []
  | type :: rest => mentions type ++ mentionsAny rest

end

def declared : Decl → List String
  | .import_ _ _ _ => []
  | .interface name _ _ _ _ => [name]
  | .typeAlias name _ _ _ => [name]
  | .const name _ _ _ _ => [name]
  | .function name _ _ _ _ _ _ => [name]
  | .class_ name _ _ _ _ => [name]

def declaredNames (decls : List Decl) : List String :=
  decls.flatMap declared

def imported : Decl → List String
  | .import_ names _ _ => names
  | _ => []

def importedNames (decls : List Decl) : List String :=
  decls.flatMap imported

theorem mentions_any_append (first others : List TypeExpr) :
    mentionsAny (first ++ others) = mentionsAny first ++ mentionsAny others := by
  induction first with
  | nil => rfl
  | cons type rest ih => simp [mentionsAny, ih]

theorem mentions_nullable (type : TypeExpr) (name : String) (member : name ∈ mentions type) :
    name ∈ mentions type.nullable := by
  cases type with
  | union members =>
      simp only [TypeExpr.nullable]
      split
      · exact member
      · simp only [mentions, mentions_any_append, List.mem_append]
        exact .inl member
  | _ => exact List.mem_append_left _ member

theorem nullable_mentions (type : TypeExpr) (name : String)
    (member : name ∈ mentions type.nullable) : name = "null" ∨ name ∈ mentions type := by
  cases type with
  | union members =>
      simp only [TypeExpr.nullable] at member
      split at member
      · exact .inr member
      · simp only [mentions, mentions_any_append, List.mem_append] at member
        rcases member with before | last
        · exact .inr before
        · exact .inl (by simpa [TypeExpr.null, mentionsAny, mentions] using last)
  | _ =>
      simp only [TypeExpr.nullable, TypeExpr.null, mentions, mentionsAny, List.append_nil,
        List.mem_append] at member
      rcases member with before | last
      · exact .inr before
      · exact .inl (by simpa using last)

-- What a property of an interface made from an entity may name: an enum field names its alias, a
-- relation its target, and any other field what the project registered for its type.
inductive PropertySound (types : TypeMap) (e : Entity) (scope : List String) (p : Property) : Prop
  | enum (f : Field) (member : f ∈ e.fields) (named : p.name = f.name) (isEnum : f.type = "enum")
      (mentioned : e.aliasName f ∈ mentions p.type)
      (bound : ∀ name ∈ mentions p.type, name = "null" ∨ name ∈ scope)
  | registered (f : Field) (type : TypeExpr) (member : f ∈ e.fields) (named : p.name = f.name)
      (other : f.type ≠ "enum") (resolved : types.resolve f.type = some type)
      (bound : ∀ name ∈ mentions p.type, name = "null" ∨ name ∈ mentions type)
  | relation (r : Relation) (member : r ∈ e.relations) (named : p.name = r.name)
      (mentioned : r.target ∈ mentions p.type) (bound : ∀ name ∈ mentions p.type, name ∈ scope)

theorem field_type_ok (types : TypeMap) (m : Module) (e : Entity) (f : Field) (type : TypeExpr)
    (succeeds : fieldType types m e f = .ok type) :
    ∃ element, elementType types m e f = .ok element ∧
      (∀ name ∈ mentions element, name ∈ mentions type) ∧
      ∀ name ∈ mentions type, name = "null" ∨ name ∈ mentions element := by
  obtain ⟨element, resolved, rfl⟩ := (map_ok_iff _ _ _).mp succeeds
  have listed : mentions (if f.list then TypeExpr.arrayOf element else element) =
      mentions element := by
    split <;> rfl
  refine ⟨element, resolved, fun name member => ?_, fun name member => ?_⟩
  · dsimp only
    rw [← listed] at member
    split
    · exact mentions_nullable _ name member
    · exact member
  · dsimp only at member
    rw [← listed]
    split at member
    · exact nullable_mentions _ name member
    · exact .inr member

theorem field_property_sound (types : TypeMap) (m : Module) (e : Entity) (scope : List String)
    (aliases : ∀ f ∈ e.fields, f.type = "enum" → e.aliasName f ∈ scope) (optional : Bool)
    (f : Field) (member : f ∈ e.fields) (p : Property)
    (succeeds : fieldProperty types m e optional f = .ok p) : PropertySound types e scope p := by
  obtain ⟨type, typed, rfl⟩ := (map_ok_iff _ _ _).mp succeeds
  obtain ⟨element, resolved, kept, bound⟩ := field_type_ok types m e f type typed
  rw [elementType] at resolved
  split at resolved
  · rename_i isEnum
    cases resolved
    refine .enum f member rfl isEnum (kept _ (by simp [mentions])) fun name inType => ?_
    rcases bound name inType with null | found
    · exact .inl null
    · have same : name = e.aliasName f := by simpa [mentions] using found
      exact .inr (same ▸ aliases f member isEnum)
  · rename_i other
    split at resolved
    · rename_i type found
      cases resolved
      exact .registered f _ member rfl other found bound
    · cases resolved

theorem relation_property_sound (types : TypeMap) (e : Entity) (scope : List String)
    (targets : ∀ r ∈ e.relations, r.target ∈ scope) (r : Relation) (member : r ∈ e.relations) :
    PropertySound types e scope (relationProperty r) := by
  have only : mentions (relationProperty r).type = [r.target] := by
    rw [relationProperty]
    cases r.cardinality <;> rfl
  refine .relation r member rfl (by simp [only]) fun name inType => ?_
  rw [only, List.mem_singleton] at inType
  exact inType ▸ targets r member
theorem declared_names_append (first others : List Decl) :
    declaredNames (first ++ others) = declaredNames first ++ declaredNames others := by
  simp [declaredNames]

theorem declared_names_flatten (lists : List (List Decl)) :
    declaredNames lists.flatten = (lists.map declaredNames).flatten := by
  induction lists with
  | nil => rfl
  | cons decls rest ih => simp [declared_names_append, ih]

theorem enum_alias_declares (e : Entity) (f : Field) (sound : Schema.FieldSound f) :
    declaredNames (enumAlias? e f).toList = Schema.fieldAliases e f := by
  rw [enumAlias?, Schema.fieldAliases]
  by_cases isEnum : f.type = "enum"
  · obtain ⟨first, others, values⟩ := sound.enum_has_values isEnum
    simp [values, isEnum, declaredNames, declared]
  · have values := sound.others_have_none isEnum
    simp [values, isEnum, declaredNames]

theorem enum_aliases_declare (e : Entity) (sound : ∀ f ∈ e.fields, Schema.FieldSound f) :
    declaredNames (e.fields.filterMap (enumAlias? e)) = Schema.enumAliases e := by
  rw [Schema.enum_aliases_eq]
  generalize e.fields = fields at sound
  induction fields with
  | nil => rfl
  | cons f rest ih =>
      have ⟨first, later⟩ := List.forall_mem_cons.mp sound
      have split : (f :: rest).filterMap (enumAlias? e) =
          (enumAlias? e f).toList ++ rest.filterMap (enumAlias? e) := by
        rw [List.filterMap_cons]
        cases enumAlias? e f <;> rfl
      rw [split, declared_names_append, enum_alias_declares e f first, ih later,
        List.flatMap_cons]

theorem entity_interface_ok (types : TypeMap) (m : Module) (e : Entity) (decl : Decl)
    (succeeds : entityInterface types m e = .ok decl) :
    ∃ properties, decl =
        .interface e.name true [] (properties ++ e.relations.map relationProperty) e.description ∧
      ∀ p ∈ properties, ∃ f ∈ e.fields, fieldProperty types m e (!f.required) f = .ok p := by
  obtain ⟨properties, made, rfl⟩ := (map_ok_iff _ _ _).mp succeeds
  exact ⟨properties, rfl, map_all_source _ e.fields properties made⟩

theorem entity_decls_declare (types : TypeMap) (m : Module) (e : Entity)
    (sound : ∀ f ∈ e.fields, Schema.FieldSound f) (decls : List Decl)
    (succeeds : entityDecls types m e = .ok decls) :
    declaredNames decls = Schema.enumAliases e ++ [e.name] := by
  obtain ⟨decl, made, rfl⟩ := (map_ok_iff _ _ _).mp succeeds
  obtain ⟨properties, rfl, -⟩ := entity_interface_ok types m e decl made
  rw [declared_names_append, enum_aliases_declare e sound]
  rfl

theorem sent_from_entity (e : Entity) (request : RequestShape) :
    ∀ f ∈ sentFields e request, f ∈ e.fields := by
  intro f sent
  rw [sentFields] at sent
  split at sent
  · obtain ⟨name, -, hit⟩ := List.mem_filterMap.mp sent
    exact List.mem_of_find?_eq_some hit
  · exact sent

theorem request_interface_ok (types : TypeMap) (m : Module) (op : Operation)
    (request : RequestShape) (decl : Decl)
    (succeeds : requestInterface types m op request = .ok decl) :
    ∃ e ∈ m.entities, ∃ properties doc, decl = .interface op.requestType true [] properties doc ∧
      ∀ p ∈ properties, ∃ optional, ∃ f ∈ e.fields, fieldProperty types m e optional f = .ok p := by
  rw [requestInterface] at succeeds
  split at succeeds
  · cases succeeds
  · rename_i e found
    obtain ⟨properties, made, rfl⟩ := (map_ok_iff _ _ _).mp succeeds
    refine ⟨e, List.mem_of_find?_eq_some found, properties, _, rfl, fun p member => ?_⟩
    obtain ⟨f, sent, gives⟩ := map_all_source _ _ properties made p member
    exact ⟨_, f, sent_from_entity e request f sent, gives⟩

theorem request_decls_declare (types : TypeMap) (m : Module) (op : Operation) (decls : List Decl)
    (succeeds : requestDecls types m op = .ok decls) :
    declaredNames decls = Schema.requestNames op := by
  rw [requestDecls] at succeeds
  rw [Schema.requestNames]
  cases carried : op.request with
  | none =>
      rw [carried] at succeeds
      cases succeeds
      rfl
  | some request =>
      rw [carried] at succeeds
      obtain ⟨decl, made, rfl⟩ := (map_ok_iff _ _ _).mp succeeds
      obtain ⟨e, -, properties, doc, rfl, -⟩ := request_interface_ok types m op request decl made
      rfl

theorem type_decls_ok (types : TypeMap) (m : Module) (decls : List Decl)
    (succeeds : typeDecls types m = .ok decls) :
    ∃ entities requests, mapAll (entityDecls types m) m.entities = .ok entities ∧
      mapAll (requestDecls types m) m.operations = .ok requests ∧
      decls = entities.flatten ++ requests.flatten := by
  rw [typeDecls] at succeeds
  split at succeeds
  · cases succeeds
  · rename_i entities made
    obtain ⟨requests, sent, rfl⟩ := (map_ok_iff _ _ _).mp succeeds
    exact ⟨entities, requests, made, sent, rfl⟩

def fileScope (m : Module) : List String :=
  Schema.typeNames ⟨m.entities⟩ ⟨m.basePath, m.operations⟩

theorem type_decls_declare (types : TypeMap) (m : Module) (accepted : Schema.Accepted m)
    (decls : List Decl) (succeeds : typeDecls types m = .ok decls) :
    (declaredNames decls).Perm (fileScope m) := by
  have formed := (Schema.accepted_iff m).mp accepted
  obtain ⟨entities, requests, made, sent, rfl⟩ := type_decls_ok types m decls succeeds
  have entityNames : entities.map declaredNames =
      m.entities.map fun e => Schema.enumAliases e ++ [e.name] :=
    map_all_map _ declaredNames _ m.entities (fun e member ds made =>
      entity_decls_declare types m e (formed.entities_sound e member).fields_sound ds made)
      entities made
  have requestNames : requests.map declaredNames = m.operations.map Schema.requestNames :=
    map_all_map _ declaredNames _ m.operations
      (fun op _ ds sent => request_decls_declare types m op ds sent) requests sent
  rw [declared_names_append, declared_names_flatten, declared_names_flatten, entityNames,
    requestNames, ← List.flatMap_def, ← List.flatMap_def, ← Schema.request_types_eq]
  refine List.Perm.append_right _ ?_
  have split := (List.flatMap_append_perm m.entities Schema.enumAliases fun e => [e.name]).symm
  refine split.trans (List.perm_append_comm.trans ?_)
  rw [← List.map_eq_flatMap]

structure TypesSound (types : TypeMap) (m : Module) (decls : List Decl) : Prop where
  declares_schema : (declaredNames decls).Perm (fileScope m)
  names_distinct : (declaredNames decls).Nodup
  aliases_declared : ∀ e ∈ m.entities, ∀ f ∈ e.fields, f.type = "enum" →
    e.aliasName f ∈ declaredNames decls
  targets_declared : ∀ e ∈ m.entities, ∀ r ∈ e.relations, r.target ∈ declaredNames decls
  properties_sound : ∀ name exported parents properties doc,
    .interface name exported parents properties doc ∈ decls →
      ∃ e ∈ m.entities, ∀ p ∈ properties, PropertySound types e (declaredNames decls) p

theorem entity_in_scope (m : Module) (name : String)
    (defined : Schema.Defines ⟨m.entities⟩ name) : name ∈ fileScope m := by
  obtain ⟨e, member, rfl⟩ := defined
  exact List.mem_append_left _ (List.mem_append_left _ (List.mem_map_of_mem member))

theorem alias_in_scope (m : Module) (e : Entity) (member : e ∈ m.entities) (f : Field)
    (field : f ∈ e.fields) (isEnum : f.type = "enum") : e.aliasName f ∈ fileScope m := by
  apply List.mem_append_left
  apply List.mem_append_right
  refine List.mem_flatMap.mpr ⟨e, member, List.mem_map_of_mem ?_⟩
  simp [field, isEnum]

theorem request_in_scope (m : Module) (op : Operation) (member : op ∈ m.operations)
    (carries : op.request.isSome = true) : op.requestType ∈ fileScope m := by
  apply List.mem_append_right
  exact List.mem_map_of_mem (List.mem_filter.mpr ⟨member, carries⟩)

-- An alias is no interface, so the interfaces come from entities and from requests alone.
theorem interface_source (types : TypeMap) (m : Module) (decls : List Decl)
    (succeeds : typeDecls types m = .ok decls) (name : String) (exported : Bool)
    (parents : List String) (properties : List Property) (doc : Option String)
    (member : .interface name exported parents properties doc ∈ decls) :
    ∃ e ∈ m.entities, ∀ p ∈ properties,
      (∃ optional, ∃ f ∈ e.fields, fieldProperty types m e optional f = .ok p) ∨
        ∃ r ∈ e.relations, p = relationProperty r := by
  obtain ⟨entities, requests, made, sent, rfl⟩ := type_decls_ok types m decls succeeds
  rcases List.mem_append.mp member with ofEntity | ofRequest
  · obtain ⟨list, inEntities, inList⟩ := List.mem_flatten.mp ofEntity
    obtain ⟨e, inModule, gives⟩ := map_all_source _ _ entities made list inEntities
    obtain ⟨decl, interfaceMade, rfl⟩ := (map_ok_iff _ _ _).mp gives
    obtain ⟨own, rfl, fromFields⟩ := entity_interface_ok types m e decl interfaceMade
    rcases List.mem_append.mp inList with ofAlias | itself
    · obtain ⟨f, -, isAlias⟩ := List.mem_filterMap.mp ofAlias
      obtain ⟨values, -, impossible⟩ := Option.map_eq_some_iff.mp isAlias
      cases impossible
    · cases List.mem_singleton.mp itself
      refine ⟨e, inModule, fun p inProperties => ?_⟩
      rcases List.mem_append.mp inProperties with ofField | ofRelation
      · obtain ⟨f, field, gives⟩ := fromFields p ofField
        exact .inl ⟨_, f, field, gives⟩
      · obtain ⟨r, inRelations, same⟩ := List.mem_map.mp ofRelation
        exact .inr ⟨r, inRelations, same.symm⟩
  · obtain ⟨list, inRequests, inList⟩ := List.mem_flatten.mp ofRequest
    obtain ⟨op, -, gives⟩ := map_all_source _ _ requests sent list inRequests
    rw [requestDecls] at gives
    split at gives
    · cases gives
      cases inList
    · rename_i request carried
      obtain ⟨decl, interfaceMade, rfl⟩ := (map_ok_iff _ _ _).mp gives
      obtain ⟨e, inModule, own, ownDoc, rfl, fromFields⟩ :=
        request_interface_ok types m op request decl interfaceMade
      cases List.mem_singleton.mp inList
      exact ⟨e, inModule, fun p inProperties => .inl (fromFields p inProperties)⟩

theorem type_decls_sound (types : TypeMap) (m : Module) (accepted : Schema.Accepted m)
    (decls : List Decl) (succeeds : typeDecls types m = .ok decls) :
    TypesSound types m decls := by
  have formed := (Schema.accepted_iff m).mp accepted
  have declares := type_decls_declare types m accepted decls succeeds
  have aliases : ∀ e ∈ m.entities, ∀ f ∈ e.fields, f.type = "enum" →
      e.aliasName f ∈ declaredNames decls := fun e member f field isEnum =>
    declares.mem_iff.mpr (alias_in_scope m e member f field isEnum)
  have targets : ∀ e ∈ m.entities, ∀ r ∈ e.relations, r.target ∈ declaredNames decls :=
    fun e member r relation => declares.mem_iff.mpr
      (entity_in_scope m r.target ((formed.entities_sound e member).targets_defined r relation))
  refine ⟨declares, declares.nodup_iff.mpr formed.types_distinct, aliases, targets, ?_⟩
  intro name exported parents properties doc member
  obtain ⟨e, inModule, sources⟩ :=
    interface_source types m decls succeeds name exported parents properties doc member
  refine ⟨e, inModule, fun p inProperties => ?_⟩
  rcases sources p inProperties with ⟨optional, f, field, gives⟩ | ⟨r, relation, rfl⟩
  · exact field_property_sound types m e _ (aliases e inModule) optional f field p gives
  · exact relation_property_sound types e _ (targets e inModule) r relation

end ApiContract.Emit
