import ApiContract.Proofs.Emit.Imports

/-!
The names at the top of a client: what it imports and its class. They are kept apart, and the bodies
of its methods reach the globals that they name, exactly when no entity that an operation answers
with is named like the class or like one of those globals.
-/

set_option autoImplicit false

namespace ApiContract.Emit

open Code (Decl SourceFile)
open Schema (Module Operation)

-- What the bodies of methods name without binding it.
def bodyGlobals : List String :=
  ["fetch", "encodeURIComponent", "String", "JSON", "Error"]

-- Placeholders are kept from hiding the same names.
example : Schema.methodLocals = "response" :: bodyGlobals := rfl

def topNames (client : SourceFile) : List String :=
  importedNames client.imports ++ declaredNames client.items

def AnswersWith (op : Operation) (entity : String) : Prop :=
  ∃ shape, op.response = some shape ∧ shape.entity = some entity

structure ClientNamesApart (client : SourceFile) : Prop where
  top_distinct : (topNames client).Nodup
  globals_free : ∀ name ∈ importedNames client.imports, name ∉ bodyGlobals

def lastTwo (name : String) : List Char :=
  (name.toList.reverse.take 2).reverse

theorem request_type_ending (op : Operation) : lastTwo op.requestType = ['s', 't'] := by
  simp [lastTwo, Operation.requestType]

theorem class_name_ending (module : String) : lastTwo (className module) = ['n', 't'] := by
  simp [lastTwo, className]

theorem request_type_free (op : Operation) (module : String) :
    op.requestType ≠ className module ∧ op.requestType ∉ bodyGlobals := by
  have other : ∀ name ∈ bodyGlobals, lastTwo name ≠ ['s', 't'] := by decide
  constructor
  · intro same
    have endings := (request_type_ending op).symm.trans ((congrArg lastTwo same).trans
      (class_name_ending module))
    exact absurd endings (by decide)
  · exact fun member => other _ member (request_type_ending op)

theorem client_top (s : Settings) (m : Module) (client : SourceFile)
    (made : source? s m .client = .ok (some client)) :
    importedNames client.imports = importedTypes m ∧
      declaredNames client.items = [className m.name] := by
  simp only [source?] at made
  split at made
  · cases made
  · obtain ⟨decl, built, same⟩ := (map_ok_iff _ _ _).mp made
    obtain ⟨methods, -, rfl⟩ := (map_ok_iff _ _ _).mp built
    cases same
    exact ⟨imported_names_eq m, rfl⟩

-- The types of requests have an ending of their own, so only an entity can be in the way.
theorem imported_avoids_iff (m : Module) (avoided : String → Prop)
    (requests : ∀ op : Operation, avoided op.requestType) :
    (∀ name ∈ importedTypes m, avoided name) ↔
      ∀ op ∈ m.operations, ∀ entity, AnswersWith op entity → avoided entity := by
  simp only [importedTypes, mem_distinct, List.mem_flatMap, used_types_iff]
  constructor
  · rintro all op member entity ⟨shape, answers, named⟩
    exact all entity ⟨op, member, .response shape answers named⟩
  · rintro answers name ⟨op, member, ⟨-, rfl⟩ | ⟨shape, given, named⟩⟩
    · exact requests op
    · exact answers op member name ⟨shape, given, named⟩

theorem client_names_apart_iff (s : Settings) (m : Module) (client : SourceFile)
    (made : source? s m .client = .ok (some client)) :
    ClientNamesApart client ↔
      ∀ op ∈ m.operations, ∀ entity, AnswersWith op entity →
        entity ≠ className m.name ∧ entity ∉ bodyGlobals := by
  obtain ⟨imports, items⟩ := client_top s m client made
  rw [← imported_avoids_iff m _ fun op => request_type_free op m.name]
  constructor
  · rintro ⟨distinct, free⟩ name member
    rw [topNames, imports, items] at distinct
    rw [imports] at free
    exact ⟨(List.nodup_append.mp distinct).2.2 name member _ (List.mem_singleton.mpr rfl),
      free name member⟩
  · intro apart
    refine ⟨?_, ?_⟩
    · rw [topNames, imports, items]
      refine List.nodup_append.mpr ⟨distinct_nodup _, List.nodup_singleton _, ?_⟩
      intro name member other isClass
      rw [List.mem_singleton.mp isClass]
      exact (apart name member).1
    · rw [imports]
      exact fun name member => (apart name member).2

theorem orders_client_names_apart :
    ∃ client, source? ⟨TypeMap.standard, true⟩ orders .client = .ok (some client) ∧
      (∀ op ∈ orders.operations, ∀ entity, AnswersWith op entity →
        entity ≠ className orders.name ∧ entity ∉ bodyGlobals) ∧
      ClientNamesApart client := by
  obtain ⟨client, made⟩ : ∃ client, source? ⟨TypeMap.standard, true⟩ orders .client =
      .ok (some client) := ⟨_, rfl⟩
  have apart : ∀ op ∈ orders.operations, ∀ entity, AnswersWith op entity →
      entity ≠ className orders.name ∧ entity ∉ bodyGlobals := by
    intro op member entity answers
    rw [List.mem_singleton.mp member] at answers
    obtain ⟨shape, given, named⟩ := answers
    cases given
    cases named
    decide +kernel
  exact ⟨client, made, apart, (client_names_apart_iff _ orders client made).mpr apart⟩

-- Two entities that are accepted, one named like the class and one like the error that is thrown.
def nameTakers : Schema.Models where
  entities := [{ name := "UsersApiClient" }, { name := "Error" }]

def takenNames : Schema.Api where
  operations :=
    [{ name := "getClient", method := .get, path := "/client",
       response := some { entity := some "UsersApiClient" } },
     { name := "getError", method := .get, path := "/error",
       response := some { entity := some "Error" } }]

theorem entities_take_client_names :
    Schema.build "users-api" nameTakers takenNames =
        .ok ⟨"users-api", nameTakers.entities, none, takenNames.operations⟩ ∧
      ∃ client, source? ⟨TypeMap.standard, true⟩
          ⟨"users-api", nameTakers.entities, none, takenNames.operations⟩ .client =
            .ok (some client) ∧
        ¬ (topNames client).Nodup ∧
        "Error" ∈ importedNames client.imports ∧ "Error" ∈ bodyGlobals := by
  exact ⟨rfl, _, rfl, by decide +kernel, by decide +kernel, by decide⟩

end ApiContract.Emit
