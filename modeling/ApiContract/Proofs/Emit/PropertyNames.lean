import ApiContract.Proofs.Emit.Output
import ApiContract.Proofs.Emit.TypeNames

/-!
The names of properties in the interfaces of a module. Those of an entity are kept apart by the
schema; those of a request body are the names that the request lists, so they are apart exactly when
no name is listed twice.
-/

set_option autoImplicit false

namespace ApiContract.Emit

open Code (Decl Property SourceFile)
open Schema (Entity Field Module Operation RequestShape)

def propertyNames : Decl → List String
  | .interface _ _ _ properties _ => properties.map Property.name
  | _ => []

def SendsOnce (op : Operation) : Prop :=
  ∀ request, op.request = some request → ∀ names, request.fields = some names → names.Nodup

section Made

variable (types : TypeMap) (m : Module)

theorem field_property_named (e : Entity) (optional : Bool) (f : Field) (p : Property)
    (succeeds : fieldProperty types m e optional f = .ok p) : p.name = f.name := by
  obtain ⟨type, -, rfl⟩ := (map_ok_iff _ _ _).mp succeeds
  rfl

theorem field_properties_named (e : Entity) (optional : Field → Bool) (fields : List Field)
    (properties : List Property)
    (made : mapAll (fun f => fieldProperty types m e (optional f) f) fields = .ok properties) :
    properties.map Property.name = fields.map Field.name := by
  apply map_all_map _ _ _ fields _ properties made
  intro f _ p succeeds
  exact field_property_named types m e (optional f) f p succeeds

theorem alias_no_properties (e : Entity) (f : Field) (d : Decl)
    (made : enumAlias? e f = some d) : propertyNames d = [] := by
  obtain ⟨values, -, rfl⟩ := Option.map_eq_some_iff.mp made
  rfl

theorem entity_properties_distinct (e : Entity) (distinct : (Schema.memberNames e).Nodup)
    (decls : List Decl) (succeeds : entityDecls types m e = .ok decls) :
    ∀ d ∈ decls, (propertyNames d).Nodup := by
  obtain ⟨interface, made, rfl⟩ := (map_ok_iff _ _ _).mp succeeds
  obtain ⟨properties, typed, rfl⟩ := (map_ok_iff _ _ _).mp made
  intro d member
  rcases List.mem_append.mp member with ofAlias | itself
  · obtain ⟨f, -, isAlias⟩ := List.mem_filterMap.mp ofAlias
    rw [alias_no_properties e f d isAlias]
    exact List.nodup_nil
  · rw [List.mem_singleton.mp itself, propertyNames, List.map_append, List.map_map,
      field_properties_named types m e (fun f => !f.required) e.fields properties typed]
    exact distinct

theorem sent_names (e : Entity) (names : List String) (known : Schema.FieldsOf e names) :
    (names.filterMap e.field?).map Field.name = names := by
  induction names with
  | nil => rfl
  | cons name rest ih =>
      obtain ⟨f, field, named⟩ := known name List.mem_cons_self
      have later : Schema.FieldsOf e rest := fun other member =>
        known other (List.mem_cons_of_mem name member)
      cases hit : e.field? name with
      | none =>
          have absent := (Schema.find_named_none Field.name e.fields name).mp hit
          exact absurd (named ▸ List.mem_map_of_mem field) absent
      | some found =>
          have same : found.name = name := by simpa using List.find?_some hit
          rw [List.filterMap_cons_some hit, List.map_cons, ih later, same]

-- Of a request without a list the fields of the entity are sent, which are apart.
theorem sent_distinct_iff (e : Entity) (distinct : (e.fields.map Field.name).Nodup)
    (request : RequestShape)
    (known : ∀ names, request.fields = some names → Schema.FieldsOf e names) :
    ((sentFields e request).map Field.name).Nodup ↔
      ∀ names, request.fields = some names → names.Nodup := by
  rw [sentFields]
  cases listed : request.fields with
  | none => simpa using distinct
  | some names => simp [sent_names e names (known names listed)]

theorem request_properties_distinct_iff (accepted : Schema.Accepted m) (op : Operation)
    (member : op ∈ m.operations) (request : RequestShape) (carried : op.request = some request)
    (d : Decl) (succeeds : requestInterface types m op request = .ok d) :
    declared d = [op.requestType] ∧ ((propertyNames d).Nodup ↔ SendsOnce op) := by
  have formed := (Schema.accepted_iff m).mp accepted
  have sound := (formed.operations_sound op member).request_sound request carried
  obtain ⟨e, inModule, named, known⟩ := sound.entity_defined
  have found : m.entity? request.entity = some e :=
    (Schema.find_named_some Entity.name _ formed.entities_distinct _ e).mpr ⟨inModule, named⟩
  rw [requestInterface, found] at succeeds
  obtain ⟨properties, typed, rfl⟩ := (map_ok_iff _ _ _).mp succeeds
  refine ⟨rfl, ?_⟩
  have apart := (formed.entities_sound e inModule).members_distinct
  rw [propertyNames, field_properties_named types m e _ (sentFields e request) properties typed,
    sent_distinct_iff e (List.nodup_append.mp apart).1 request known]
  simp [SendsOnce, carried]

end Made

-- A property that is repeated is always one of a request that lists a field twice.
theorem repeated_property_source (s : Settings) (m : Module) (accepted : Schema.Accepted m)
    (file : SourceFile) (succeeds : source? s m .types = .ok (some file)) (d : Decl)
    (member : d ∈ file.items) :
    (propertyNames d).Nodup ∨
      ∃ op ∈ m.operations, declared d = [op.requestType] ∧ ¬ SendsOnce op := by
  have formed := (Schema.accepted_iff m).mp accepted
  obtain ⟨entities, requests, made, sent, same⟩ :=
    type_decls_ok s.types m file.items (types_source_ok s m file succeeds)
  rw [same] at member
  rcases List.mem_append.mp member with ofEntity | ofRequest
  · obtain ⟨list, inEntities, inList⟩ := List.mem_flatten.mp ofEntity
    obtain ⟨e, inModule, gives⟩ := map_all_source _ _ entities made list inEntities
    have distinct := (formed.entities_sound e inModule).members_distinct
    exact .inl (entity_properties_distinct s.types m e distinct list gives d inList)
  · obtain ⟨list, inRequests, inList⟩ := List.mem_flatten.mp ofRequest
    obtain ⟨op, inModule, gives⟩ := map_all_source _ _ requests sent list inRequests
    rw [requestDecls] at gives
    split at gives
    · cases gives
      cases inList
    · rename_i request carried
      obtain ⟨interface, built, rfl⟩ := (map_ok_iff _ _ _).mp gives
      rw [List.mem_singleton.mp inList]
      obtain ⟨named, distinct⟩ :=
        request_properties_distinct_iff s.types m accepted op inModule request carried _ built
      by_cases once : SendsOnce op
      · exact .inl (distinct.mpr once)
      · exact .inr ⟨op, inModule, named, once⟩

theorem request_interface_present (s : Settings) (m : Module) (file : SourceFile)
    (succeeds : source? s m .types = .ok (some file)) (op : Operation)
    (member : op ∈ m.operations) (request : RequestShape) (carried : op.request = some request) :
    ∃ d ∈ file.items, requestInterface s.types m op request = .ok d := by
  obtain ⟨entities, requests, -, sent, same⟩ :=
    type_decls_ok s.types m file.items (types_source_ok s m file succeeds)
  obtain ⟨list, inRequests, gives⟩ := map_all_made _ _ requests sent op member
  rw [requestDecls, carried] at gives
  obtain ⟨d, built, rfl⟩ := (map_ok_iff _ _ _).mp gives
  refine ⟨d, ?_, built⟩
  rw [same]
  apply List.mem_append_right
  exact List.mem_flatten.mpr ⟨[d], inRequests, List.mem_singleton.mpr rfl⟩

theorem properties_distinct_iff_fields_sent_once (s : Settings) (m : Module)
    (accepted : Schema.Accepted m) (file : SourceFile)
    (succeeds : source? s m .types = .ok (some file)) :
    (∀ d ∈ file.items, (propertyNames d).Nodup ∨
        ∃ op ∈ m.operations, declared d = [op.requestType] ∧ ¬ SendsOnce op) ∧
      ((∀ d ∈ file.items, (propertyNames d).Nodup) ↔ ∀ op ∈ m.operations, SendsOnce op) := by
  have sources := repeated_property_source s m accepted file succeeds
  refine ⟨sources, fun distinct op member request carried => ?_, fun once d member => ?_⟩
  · obtain ⟨d, inFile, built⟩ :=
      request_interface_present s m file succeeds op member request carried
    obtain ⟨-, sentOnce⟩ :=
      request_properties_distinct_iff s.types m accepted op member request carried d built
    exact sentOnce.mp (distinct d inFile) request carried
  · rcases sources d member with distinct | ⟨op, inModule, -, twice⟩
    · exact distinct
    · exact absurd (once op inModule) twice

def userModels : Schema.Models where
  entities :=
    [{ name := "User",
       fields := [{ name := "id", type := "uuid" }, { name := "nickname", type := "string" }],
       relations := [{ name := "friends", target := "User", cardinality := .many }] }]

def sending (names : List String) : Operation :=
  { name := "updateUser", method := .patch, path := "/users",
    request := some { entity := "User", fields := some names, partial_ := true } }

def usersSending (names : List String) : Module :=
  ⟨"users-api", userModels.entities, none, [sending names]⟩

theorem nickname_sent_once :
    Schema.Accepted (usersSending ["nickname", "id"]) ∧
      ∃ file, source? ⟨TypeMap.standard, false⟩ (usersSending ["nickname", "id"]) .types =
          .ok (some file) ∧
        (∀ op ∈ (usersSending ["nickname", "id"]).operations, SendsOnce op) ∧
        file.items.map propertyNames = [["id", "nickname", "friends"], ["nickname", "id"]] ∧
        ∀ d ∈ file.items, (propertyNames d).Nodup := by
  have accepted : Schema.Accepted (usersSending ["nickname", "id"]) :=
    ⟨"users-api", userModels, { operations := [sending ["nickname", "id"]] }, rfl⟩
  obtain ⟨file, made, listed⟩ : ∃ file, source? ⟨TypeMap.standard, false⟩
      (usersSending ["nickname", "id"]) .types = .ok (some file) ∧
        file.items.map propertyNames = [["id", "nickname", "friends"], ["nickname", "id"]] :=
    ⟨_, rfl, rfl⟩
  have once : ∀ op ∈ (usersSending ["nickname", "id"]).operations, SendsOnce op := by
    intro op member request carried names given
    cases List.mem_singleton.mp member
    cases carried
    cases given
    decide
  have distinct := (properties_distinct_iff_fields_sent_once _ _ accepted file made).2.mpr once
  exact ⟨accepted, file, made, once, listed, distinct⟩

theorem field_listed_twice_is_repeated :
    Schema.build "users-api" userModels { operations := [sending ["id", "id"]] } =
        .ok (usersSending ["id", "id"]) ∧
      ∃ file, source? ⟨TypeMap.standard, false⟩ (usersSending ["id", "id"]) .types =
          .ok (some file) ∧
        ∃ d ∈ file.items, declared d = ["UpdateUserRequest"] ∧ propertyNames d = ["id", "id"] ∧
          ¬ (propertyNames d).Nodup :=
  ⟨rfl, _, rfl, _, .tail _ (.head _), by decide +kernel, rfl, by decide +kernel⟩

end ApiContract.Emit
