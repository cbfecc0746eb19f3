import ApiContract.Proofs.Emit.Output
import ApiContract.Proofs.Emit.TypeNames
import ApiContract.Proofs.Name

/-!
Whether the names that a module declares can be names of types. None of them is reserved, and those of
entities and of the values of enum fields are identifiers; that of a request body is one exactly when
the name of its operation does not come to a digit behind its underscores.
-/

set_option autoImplicit false

namespace ApiContract.Emit

open Code (SourceFile)
open Schema (Entity Field Module Operation)

structure Usable (name : String) : Prop where
  identifier : Name.isIdentifier name = true
  not_reserved : Name.isReservedType name = false

theorem identifier_chars (name : String) (named : Name.isIdentifier name = true) :
    ∀ c ∈ name.toList, Name.isPart c = true := by
  obtain ⟨-, -, -, -, parts⟩ := Name.identifier_parts name named
  exact parts

theorem pascal_chars (name : String) (named : Name.isIdentifier name = true) :
    ∀ c ∈ (Name.pascal name).toList, Name.isPart c = true :=
  Name.pascal_parts name fun c member => .inl (identifier_chars name named c member)

-- What is put behind the name of the entity is nothing or begins with no lower case letter.
theorem alias_usable (e : Entity) (f : Field) (usable : Usable e.name)
    (named : Name.isIdentifier f.name = true) : Usable (e.aliasName f) := by
  refine ⟨Name.identifier_append _ _ usable.identifier (pascal_chars f.name named), ?_⟩
  rw [Entity.aliasName]
  rcases Name.pascal_spelled f.name (identifier_chars f.name named) with
    ⟨-, empty⟩ | ⟨c, rest, spelled, notLower, -⟩
  · rw [empty, String.append_empty]
    exact usable.not_reserved
  · exact Name.not_reserved _ c (by simp [spelled]) notLower

theorem request_type_free_name (op : Operation) : Name.isReservedType op.requestType = false :=
  Name.not_reserved _ 'R' (by simp [Operation.requestType]) rfl

theorem request_type_identifier_iff (op : Operation) (named : Name.isIdentifier op.name = true) :
    Name.isIdentifier op.requestType = true ↔ Name.digitLeads op.name = false := by
  rw [Operation.requestType]
  rcases Name.pascal_spelled op.name (identifier_chars op.name named) with
    ⟨plain, empty⟩ | ⟨c, rest, spelled, -, starts⟩
  · rw [empty, plain, String.empty_append]
    decide
  · have parts : ∀ d ∈ rest ++ "Request".toList, Name.isPart d = true := by
      have own := pascal_chars op.name named
      rw [spelled] at own
      have ending : "Request".toList.all Name.isPart = true := by decide
      exact List.forall_mem_append.mpr
        ⟨(List.forall_mem_cons.mp own).2, List.all_eq_true.mp ending⟩
    have whole : (Name.pascal op.name ++ "Request").toList = c :: (rest ++ "Request".toList) := by
      rw [String.toList_append, spelled, List.cons_append]
    rw [Name.isIdentifier, whole]
    simp only [starts, List.all_eq_true.mpr parts, Bool.and_true, Bool.not_eq_true']

theorem entity_usable (m : Module) (accepted : Schema.Accepted m) (e : Entity)
    (member : e ∈ m.entities) : Usable e.name := by
  have formed := (Schema.accepted_iff m).mp accepted
  exact ⟨formed.entities_named e member, (formed.entities_sound e member).not_reserved⟩

theorem aliases_usable (m : Module) (accepted : Schema.Accepted m) (e : Entity)
    (member : e ∈ m.entities) : ∀ name ∈ Schema.enumAliases e, Usable name := by
  intro name inAliases
  obtain ⟨f, isField, rfl⟩ := List.mem_map.mp inAliases
  have formed := (Schema.accepted_iff m).mp accepted
  have field : f.name ∈ Schema.memberNames e :=
    List.mem_append_left _ (List.mem_map_of_mem (List.mem_filter.mp isField).1)
  exact alias_usable e f (entity_usable m accepted e member)
    ((formed.entities_sound e member).members_named f.name field)

-- The names of a module, each usable or that of a request.
theorem scope_usable (m : Module) (accepted : Schema.Accepted m) (name : String)
    (member : name ∈ fileScope m) :
    Usable name ∨ ∃ op ∈ m.operations, op.request.isSome = true ∧ name = op.requestType := by
  rw [fileScope, Schema.typeNames, List.mem_append, List.mem_append] at member
  rcases member with (ofEntity | ofAlias) | ofRequest
  · obtain ⟨e, inModule, rfl⟩ := List.mem_map.mp ofEntity
    exact .inl (entity_usable m accepted e inModule)
  · obtain ⟨e, inModule, inAliases⟩ := List.mem_flatMap.mp ofAlias
    exact .inl (aliases_usable m accepted e inModule name inAliases)
  · obtain ⟨op, carries, rfl⟩ := List.mem_map.mp ofRequest
    exact .inr ⟨op, (List.mem_filter.mp carries).1, (List.mem_filter.mp carries).2, rfl⟩

theorem declared_names_usable_iff (s : Settings) (m : Module) (accepted : Schema.Accepted m)
    (file : SourceFile) (succeeds : source? s m .types = .ok (some file)) :
    (∀ name ∈ declaredNames file.items, Name.isReservedType name = false ∧
      (Name.isIdentifier name = true ∨ ∃ op ∈ m.operations, op.request.isSome = true ∧
        name = op.requestType ∧ Name.digitLeads op.name = true)) ∧
      ((∀ name ∈ declaredNames file.items, Usable name) ↔
        ∀ op ∈ m.operations, op.request.isSome = true → Name.digitLeads op.name = false) := by
  have formed := (Schema.accepted_iff m).mp accepted
  have declares :=
    type_decls_declare s.types m accepted file.items (types_source_ok s m file succeeds)
  have named (op : Operation) (member : op ∈ m.operations) :=
    request_type_identifier_iff op (formed.operations_named op member)
  refine ⟨fun name member => ?_, fun usable op member carries => ?_, fun plain name member => ?_⟩
  · rcases scope_usable m accepted name (declares.mem_iff.mp member) with
      usable | ⟨op, inModule, carries, rfl⟩
    · exact ⟨usable.not_reserved, .inl usable.identifier⟩
    · refine ⟨request_type_free_name op, ?_⟩
      cases leads : Name.digitLeads op.name with
      | false => exact .inl ((named op inModule).mpr leads)
      | true => exact .inr ⟨op, inModule, carries, rfl, leads⟩
  · have inFile := declares.mem_iff.mpr (request_in_scope m op member carries)
    exact (named op member).mp (usable op.requestType inFile).identifier
  · rcases scope_usable m accepted name (declares.mem_iff.mp member) with
      usable | ⟨op, inModule, carries, rfl⟩
    · exact usable
    · exact ⟨(named op inModule).mpr (plain op inModule carries), request_type_free_name op⟩

def itemModels : Schema.Models where
  entities :=
    [{ name := "$Item",
       fields := [{ name := "_1", type := "enum", values := some ["a", "b"] },
         { name := "_", type := "string" }] }]

def putting (name : String) : Operation :=
  { name := name, method := .put, path := "/items", request := some { entity := "$Item" } }

def itemsWith (name : String) : Module :=
  ⟨"items-api", itemModels.entities, none, [putting name]⟩

theorem underscored_names_usable :
    Schema.Accepted (itemsWith "__put_1") ∧
      ∃ file, source? ⟨TypeMap.standard, false⟩ (itemsWith "__put_1") .types = .ok (some file) ∧
        (∀ op ∈ (itemsWith "__put_1").operations, op.request.isSome = true →
          Name.digitLeads op.name = false) ∧
        declaredNames file.items = ["$Item1", "$Item", "Put1Request"] ∧
        ∀ name ∈ declaredNames file.items, Usable name := by
  have accepted : Schema.Accepted (itemsWith "__put_1") :=
    ⟨"items-api", itemModels, { operations := [putting "__put_1"] }, rfl⟩
  obtain ⟨file, made, listed⟩ : ∃ file, source? ⟨TypeMap.standard, false⟩ (itemsWith "__put_1")
      .types = .ok (some file) ∧
        declaredNames file.items = ["$Item1", "$Item", "Put1Request"] :=
    ⟨_, rfl, by decide +kernel⟩
  have plain : ∀ op ∈ (itemsWith "__put_1").operations, op.request.isSome = true →
      Name.digitLeads op.name = false := by
    intro op member _
    rw [List.mem_singleton.mp member]
    decide
  have usable := (declared_names_usable_iff _ _ accepted file made).2.mpr plain
  exact ⟨accepted, file, made, plain, listed, usable⟩

theorem digit_leads_request_type :
    Schema.build "items-api" itemModels { operations := [putting "_1"] } = .ok (itemsWith "_1") ∧
      ∃ file, source? ⟨TypeMap.standard, false⟩ (itemsWith "_1") .types = .ok (some file) ∧
        "1Request" ∈ declaredNames file.items ∧ Name.isIdentifier "1Request" = false :=
  ⟨rfl, _, rfl, by decide +kernel, by decide⟩

end ApiContract.Emit
