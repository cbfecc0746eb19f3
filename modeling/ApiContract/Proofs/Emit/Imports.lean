import ApiContract.Proofs.Emit.Output
import ApiContract.Proofs.Emit.TypeNames

/-!
What a client imports: exactly the types of request bodies and responses in the signatures of its
methods, each once, and all of them declared in the file that is imported from.
-/

set_option autoImplicit false

namespace ApiContract.Emit

open Code (ClassMember Decl Param SourceFile TypeExpr)
open Schema (Module Operation)

-- A type that an operation takes from the schema: that of its body, or the entity it answers with.
inductive RefersTo (op : Operation) (name : String) : Prop
  | request (carries : op.request.isSome = true) (named : name = op.requestType)
  | response (shape : Schema.ResponseShape) (answers : op.response = some shape)
      (entity : shape.entity = some name)

def classMembers : Decl → List ClassMember
  | .class_ _ _ _ members _ => members
  | _ => []

def membersOf (decls : List Decl) : List ClassMember :=
  decls.flatMap classMembers

def IsMethod (name : String) : ClassMember → Prop
  | .method own _ _ _ _ _ _ => own = name
  | _ => False

def paramMentions : Param → List String
  | .mk _ type _ _ => type.toList.flatMap mentions

def signatureNames : ClassMember → List String
  | .method _ _ _ params returns _ _ =>
      params.flatMap paramMentions ++ returns.toList.flatMap mentions
  | _ => []

theorem mem_distinct (name : String) (names : List String) :
    name ∈ distinct names ↔ name ∈ names := by
  induction names with
  | nil => simp [distinct]
  | cons first rest ih =>
      simp only [distinct, List.mem_cons, List.mem_filter, ih, bne_iff_ne]
      by_cases same : name = first
      · simp [same]
      · simp [same]

theorem distinct_nodup (names : List String) : (distinct names).Nodup := by
  induction names with
  | nil => exact List.nodup_nil
  | cons first rest ih =>
      refine List.nodup_cons.mpr ⟨fun again => ?_, ih.filter _⟩
      simpa using (List.mem_filter.mp again).2

theorem imported_names_eq (m : Module) : importedNames (importDecls m) = importedTypes m := by
  rw [importDecls]
  cases importedTypes m with
  | nil => rfl
  | cons name rest => simp [importedNames, imported]

theorem used_types_iff (op : Operation) (name : String) :
    name ∈ usedTypes op ↔ RefersTo op name := by
  simp only [usedTypes, List.mem_append, Option.mem_toList, Option.bind_eq_some_iff]
  constructor
  · rintro (body | ⟨response, answers, entity⟩)
    · split at body
      · rename_i carries
        exact .request carries (List.mem_singleton.mp body)
      · cases body
    · exact .response response answers entity
  · rintro (⟨carries, rfl⟩ | ⟨response, answers, entity⟩)
    · exact .inl (by simp [carries])
    · exact .inr ⟨response, answers, entity⟩

theorem mem_imported_names (m : Module) (name : String) :
    name ∈ importedNames (importDecls m) ↔ ∃ op ∈ m.operations, RefersTo op name := by
  simp only [imported_names_eq, importedTypes, mem_distinct, List.mem_flatMap, used_types_iff]

theorem response_type_mentions (op : Operation) (response : Schema.ResponseShape) (entity : String)
    (answers : op.response = some response) (named : response.entity = some entity) :
    mentions (responseType op) = [entity] := by
  obtain ⟨_, list⟩ := response
  cases named
  cases list <;> simp [responseType, answers, mentions]

theorem method_signature (types : TypeMap) (m : Module) (op : Operation) (made : ClassMember)
    (succeeds : method types m op = .ok made) :
    IsMethod op.name made ∧ ∃ placed, mapAll (placeholderParam types m op) op.placeholders =
        .ok placed ∧
      signatureNames made = placed.flatMap paramMentions ++
        ((bodyParams op).flatMap paramMentions ++ "Promise" :: mentions (responseType op)) := by
  obtain ⟨params, built, rfl⟩ := (map_ok_iff _ _ _).mp succeeds
  obtain ⟨placed, resolved, rfl⟩ := (map_ok_iff _ _ _).mp built
  refine ⟨rfl, placed, resolved, ?_⟩
  simp [signatureNames, TypeExpr.promise, mentions, mentionsAny]

theorem method_mentions_used (types : TypeMap) (m : Module) (op : Operation) (made : ClassMember)
    (succeeds : method types m op = .ok made) (name : String) (used : RefersTo op name) :
    name ∈ signatureNames made := by
  obtain ⟨-, placed, -, names⟩ := method_signature types m op made succeeds
  rw [names]
  apply List.mem_append_right
  rcases used with ⟨carries, rfl⟩ | ⟨response, answers, entity⟩
  · apply List.mem_append_left
    simp [bodyParams, carries, param, paramMentions, mentions]
  · apply List.mem_append_right
    simp [response_type_mentions op response name answers entity]

-- The other way round: besides what it refers to, an operation's signature names the promise it
-- answers with and what the project registered for its placeholders.
theorem method_mentions_only (types : TypeMap) (m : Module) (op : Operation) (made : ClassMember)
    (succeeds : method types m op = .ok made) (name : String) (member : name ∈ signatureNames made) :
    RefersTo op name ∨ name = "Promise" ∨ name = "void" ∨
      ∃ placeholder ∈ op.placeholders, ∃ type,
        types.resolve (op.paramType placeholder) = some type ∧ name ∈ mentions type := by
  obtain ⟨-, placed, resolved, names⟩ := method_signature types m op made succeeds
  rw [names, List.mem_append, List.mem_append, List.mem_cons] at member
  rcases member with ofPlaceholder | ofBody | promise | ofResponse
  · obtain ⟨made, inPlaced, mentioned⟩ := List.mem_flatMap.mp ofPlaceholder
    obtain ⟨placeholder, inPath, gives⟩ := map_all_source _ _ placed resolved made inPlaced
    rw [placeholderParam] at gives
    split at gives
    · rename_i type found
      cases gives
      exact .inr (.inr (.inr
        ⟨placeholder, inPath, type, found, by simpa [param, paramMentions] using mentioned⟩))
    · cases gives
  · rw [bodyParams] at ofBody
    split at ofBody
    · rename_i carries
      exact .inl (.request carries (by simpa [param, paramMentions, mentions] using ofBody))
    · cases ofBody
  · exact .inr (.inl promise)
  · rcases response : op.response with _ | ⟨_ | entity, list⟩
    · exact .inr (.inr (.inl (by simpa [responseType, response, mentions] using ofResponse)))
    · exact .inr (.inr (.inl (by simpa [responseType, response, mentions] using ofResponse)))
    · rw [response_type_mentions op _ entity response rfl, List.mem_singleton] at ofResponse
      exact .inl (.response _ response (by rw [ofResponse]))

structure ClientSound (types : TypeMap) (m : Module) (client : SourceFile) : Prop where
  from_types : ∀ decl ∈ client.imports, ∃ names, names ≠ [] ∧
    decl = .import_ names "./types" true
  imports_distinct : (importedNames client.imports).Nodup
  imports_exact : ∀ name, name ∈ importedNames client.imports ↔
    ∃ op ∈ m.operations, RefersTo op name ∧
      ∃ made ∈ membersOf client.items, IsMethod op.name made ∧ name ∈ signatureNames made
  signatures_bound : ∀ op ∈ m.operations, ∃ made ∈ membersOf client.items, IsMethod op.name made ∧
    ∀ name ∈ signatureNames made,
      name ∈ importedNames client.imports ∨ name = "Promise" ∨ name = "void" ∨
        ∃ placeholder ∈ op.placeholders, ∃ type,
          types.resolve (op.paramType placeholder) = some type ∧ name ∈ mentions type

theorem import_decls_from_types (m : Module) :
    ∀ decl ∈ importDecls m, ∃ names, names ≠ [] ∧ decl = .import_ names "./types" true := by
  intro decl member
  rw [importDecls] at member
  split at member
  · cases member
  · rename_i nonempty
    exact ⟨_, nonempty, List.mem_singleton.mp member⟩

theorem client_class_ok (types : TypeMap) (m : Module) (decl : Decl)
    (succeeds : clientClass types m = .ok decl) (op : Operation) (member : op ∈ m.operations) :
    ∃ made ∈ membersOf [decl], method types m op = .ok made := by
  obtain ⟨methods, made, rfl⟩ := (map_ok_iff _ _ _).mp succeeds
  obtain ⟨own, inMethods, gives⟩ := map_all_made _ _ methods made op member
  exact ⟨own, by simp [membersOf, classMembers, inMethods], gives⟩

theorem client_sound (s : Settings) (m : Module) (client : SourceFile)
    (succeeds : source? s m .client = .ok (some client)) : ClientSound s.types m client := by
  simp only [source?] at succeeds
  split at succeeds
  · cases succeeds
  · obtain ⟨decl, built, same⟩ := (map_ok_iff _ _ _).mp succeeds
    cases same
    refine ⟨import_decls_from_types m, ?_, fun name => ?_, fun op member => ?_⟩
    · rw [imported_names_eq]
      exact distinct_nodup _
    · rw [mem_imported_names]
      constructor
      · rintro ⟨op, member, used⟩
        obtain ⟨made, inClass, gives⟩ := client_class_ok s.types m decl built op member
        exact ⟨op, member, used, made, inClass, (method_signature _ m op made gives).1,
          method_mentions_used _ m op made gives name used⟩
      · rintro ⟨op, member, used, -⟩
        exact ⟨op, member, used⟩
    · obtain ⟨made, inClass, gives⟩ := client_class_ok s.types m decl built op member
      refine ⟨made, inClass, (method_signature _ m op made gives).1, fun name inSignature => ?_⟩
      rcases method_mentions_only _ m op made gives name inSignature with used | other
      · exact .inl ((mem_imported_names m name).mpr ⟨op, member, used⟩)
      · exact .inr other

theorem refers_to_declared (m : Module) (accepted : Schema.Accepted m) (op : Operation)
    (member : op ∈ m.operations) (name : String) (used : RefersTo op name) :
    m.entities ≠ [] ∧ name ∈ fileScope m := by
  have sound := ((Schema.accepted_iff m).mp accepted).operations_sound op member
  rcases used with ⟨carries, rfl⟩ | ⟨response, answers, entity⟩
  · obtain ⟨request, carried⟩ := Option.isSome_iff_exists.mp carries
    obtain ⟨e, inModule, -⟩ := (sound.request_sound request carried).entity_defined
    exact ⟨List.ne_nil_of_mem inModule, request_in_scope m op member carries⟩
  · have defined := sound.response_defined response name answers entity
    have ⟨_, inModule, _⟩ := defined
    exact ⟨List.ne_nil_of_mem inModule, entity_in_scope m name defined⟩

theorem types_source_sound (s : Settings) (m : Module) (accepted : Schema.Accepted m)
    (file : SourceFile) (succeeds : source? s m .types = .ok (some file)) :
    TypesSound s.types m file.items :=
  type_decls_sound s.types m accepted file.items (types_source_ok s m file succeeds)

theorem types_source_some (s : Settings) (m : Module) (nonempty : m.entities ≠ [])
    (types : Option SourceFile) (succeeds : source? s m .types = .ok types) :
    ∃ file, types = some file := by
  simp only [source?] at succeeds
  split at succeeds
  · rename_i empty
    exact absurd (List.isEmpty_iff.mp empty) nonempty
  · obtain ⟨decls, -, same⟩ := (map_ok_iff _ _ _).mp succeeds
    exact ⟨_, same.symm⟩

theorem emitted_type_names_declared (s : Settings) (m : Module) (accepted : Schema.Accepted m)
    (files : List GeneratedFile) (emitted : (emitModule s m).1 = .ok files) :
    ∃ types client,
      files = (types.map (rendered m .types)).toList ++
        (client.map (rendered m .client)).toList ∧
      (∀ file, types = some file → TypesSound s.types m file.items) ∧
      (∀ file, client = some file → ClientSound s.types m file) ∧
      ∀ file, client = some file → file.imports ≠ [] → ∃ declaring, types = some declaring ∧
        ∀ name ∈ importedNames file.imports, name ∈ declaredNames declaring.items := by
  obtain ⟨types, client, typesMade, clientMade, same⟩ := (emit_module_ok s m files).mp emitted
  have typesSound : ∀ file, types = some file → TypesSound s.types m file.items := by
    rintro file rfl
    exact types_source_sound s m accepted file typesMade
  have clientSound : ∀ file, client = some file → ClientSound s.types m file := by
    rintro file rfl
    exact client_sound s m file clientMade
  refine ⟨types, client, same, typesSound, clientSound, fun file isClient imports => ?_⟩
  have sound := clientSound file isClient
  have declaredInScope : ∀ name ∈ importedNames file.imports,
      m.entities ≠ [] ∧ name ∈ fileScope m := by
    intro name member
    obtain ⟨op, inModule, used, -⟩ := (sound.imports_exact name).mp member
    exact refers_to_declared m accepted op inModule name used
  obtain ⟨name, member⟩ : ∃ name, name ∈ importedNames file.imports := by
    obtain ⟨decl, inImports⟩ := List.exists_mem_of_ne_nil _ imports
    obtain ⟨names, nonempty, rfl⟩ := sound.from_types decl inImports
    obtain ⟨name, member⟩ := List.exists_mem_of_ne_nil _ nonempty
    exact ⟨name, List.mem_flatMap.mpr ⟨_, inImports, member⟩⟩
  obtain ⟨declaring, isTypes⟩ :=
    types_source_some s m (declaredInScope name member).1 types typesMade
  refine ⟨declaring, isTypes, fun name member => ?_⟩
  exact (typesSound declaring isTypes).declares_schema.mem_iff.mpr (declaredInScope name member).2

def orders : Module where
  name := "orders-api"
  entities :=
    [{ name := "Item", fields := [{ name := "sku", type := "string" }] },
     { name := "Order",
       fields := [{ name := "status", type := "enum", values := some ["open", "paid"] }],
       relations := [{ name := "items", target := "Item", cardinality := .many }] }]
  basePath := none
  operations :=
    [{ name := "createOrder", method := .post, path := "/orders",
       request := some { entity := "Order" }, response := some { entity := some "Order" } }]

theorem orders_type_names_declared :
    Schema.Accepted orders ∧ ∃ files declaring client,
      (emitModule ⟨TypeMap.standard, true⟩ orders).1 = .ok files ∧
      files = [rendered orders .types declaring, rendered orders .client client] ∧
      (∀ name ∈ ["OrderStatus", "Item"], name ∈ declaredNames declaring.items) ∧
      (importedNames client.imports).Nodup ∧
      ∀ name ∈ importedNames client.imports, name ∈ declaredNames declaring.items := by
  have accepted : Schema.Accepted orders :=
    ⟨"orders-api", ⟨orders.entities⟩, ⟨none, orders.operations⟩, rfl⟩
  obtain ⟨types, typesMade⟩ : ∃ types, source? ⟨TypeMap.standard, true⟩ orders .types =
      .ok (some types) := ⟨_, rfl⟩
  obtain ⟨client, clientMade⟩ : ∃ client, source? ⟨TypeMap.standard, true⟩ orders .client =
      .ok (some client) := ⟨_, rfl⟩
  have emitted := (emit_module_ok ⟨TypeMap.standard, true⟩ orders _).mpr
    ⟨some types, some client, typesMade, clientMade, rfl⟩
  obtain ⟨declaring, importing, same, typesSound, clientSound, fromTypes⟩ :=
    emitted_type_names_declared ⟨TypeMap.standard, true⟩ orders accepted _ emitted
  have both := congrArg List.length same
  rcases declaring with _ | declaring <;> rcases importing with _ | importing <;>
    simp at both
  have types := typesSound declaring rfl
  have client := clientSound importing rfl
  refine ⟨accepted, _, declaring, importing, emitted, same, ?_, client.imports_distinct, ?_⟩
  · have status := types.aliases_declared _ (.tail _ (.head _)) _ (.head _) rfl
    have items := types.targets_declared _ (.tail _ (.head _)) _ (.head _)
    simpa using ⟨status, items⟩
  · by_cases none : importing.imports = []
    · simp [none, importedNames]
    · obtain ⟨_, isTypes, declares⟩ := fromTypes importing rfl none
      cases isTypes
      exact declares

end ApiContract.Emit
