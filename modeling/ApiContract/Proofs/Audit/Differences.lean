import ApiContract.Audit.Diff
import ApiContract.Proofs.Audit.Matching

/-!
When two outlines do not differ: the declarations and members of one are those of the other in some
order, as long as no name is repeated.
-/

set_option autoImplicit false

namespace ApiContract.Audit

open Outline (Declaration Method Module Property)

theorem diff_property_none (owner : String) (got : Declaration) (want : Property) :
    diffProperty owner got want = [] ↔ ∃ first, got.property? want.name = some first ∧
      want = first := by
  rw [diffProperty]
  cases got.property? want.name with
  | none => simp
  | some first => simp [eq_comm]

theorem diff_method_none (owner : String) (got : Declaration) (want : Method) :
    diffMethod owner got want = [] ↔ ∃ first, got.method? want.name = some first ∧
      want = first := by
  rw [diffMethod]
  cases got.method? want.name with
  | none => simp
  | some first => simp [eq_comm]

theorem extra_property_none (owner : String) (want : Declaration) (found : Property) :
    extraProperty owner want found = [] ↔ found.name ∈ want.properties.map Property.name := by
  rw [← find_is_some_iff, extraProperty, Declaration.property?]
  split <;> simp_all

theorem extra_method_none (owner : String) (want : Declaration) (found : Method) :
    extraMethod owner want found = [] ↔ found.name ∈ want.methods.map Method.name := by
  rw [← find_is_some_iff, extraMethod, Declaration.method?]
  split <;> simp_all

theorem diff_members_none (want got : Declaration) :
    diffMembers want got = [] ↔
      Answers Property.name Eq want.properties got.properties ∧
        Answers Method.name Eq want.methods got.methods := by
  simp only [diffMembers, List.append_eq_nil_iff, List.flatMap_eq_nil_iff, diff_property_none,
    extra_property_none, diff_method_none, extra_method_none]
  constructor
  · rintro ⟨⟨⟨properties, noProperty⟩, methods⟩, noMethod⟩
    exact ⟨⟨properties, noProperty⟩, ⟨methods, noMethod⟩⟩
  · rintro ⟨⟨properties, noProperty⟩, ⟨methods, noMethod⟩⟩
    exact ⟨⟨⟨properties, noProperty⟩, methods⟩, noMethod⟩

structure Agrees (want got : Declaration) : Prop where
  kind_eq : want.kind = got.kind
  aliased_eq : want.aliased = got.aliased
  properties_answered : Answers Property.name Eq want.properties got.properties
  methods_answered : Answers Method.name Eq want.methods got.methods

theorem diff_declaration_none (want got : Declaration) :
    diffDeclaration want got = [] ↔ Agrees want got := by
  rw [diffDeclaration, List.append_eq_nil_iff]
  constructor
  · rintro ⟨head, members⟩
    split at head
    · rename_i same
      rw [if_pos same.1, diff_members_none] at members
      exact ⟨same.1, same.2, members.1, members.2⟩
    · cases head
  · intro agrees
    rw [if_pos ⟨agrees.kind_eq, agrees.aliased_eq⟩, if_pos agrees.kind_eq, diff_members_none]
    exact ⟨rfl, agrees.properties_answered, agrees.methods_answered⟩

theorem diff_expected_none (actual : Module) (want : Declaration) :
    diffExpected actual want = [] ↔ ∃ first, actual.declaration? want.name = some first ∧
      Agrees want first := by
  rw [diffExpected]
  cases actual.declaration? want.name with
  | none => simp
  | some first => simp [diff_declaration_none]

theorem diff_extra_none (expected : Module) (got : Declaration) :
    diffExtra expected got = [] ↔ got.name ∈ expected.declarations.map Declaration.name := by
  rw [← find_is_some_iff, diffExtra, Module.declaration?]
  split <;> simp_all

theorem diff_none_iff_answers (module file : String) (expected actual : Module) :
    diff module file expected actual = [] ↔
      Answers Declaration.name Agrees expected.declarations actual.declarations := by
  simp only [diff, List.map_eq_nil_iff, differences, List.append_eq_nil_iff,
    List.flatMap_eq_nil_iff, diff_expected_none, diff_extra_none]
  constructor
  · rintro ⟨each, noExtra⟩
    exact ⟨each, noExtra⟩
  · intro answers
    exact ⟨answers.each_answered, answers.none_extra⟩

-- No name is repeated, neither among the declarations nor among the members of one.
structure NamesDistinct (m : Module) : Prop where
  declarations : (m.declarations.map Declaration.name).Nodup
  properties : ∀ d ∈ m.declarations, (d.properties.map Property.name).Nodup
  methods : ∀ d ∈ m.declarations, (d.methods.map Method.name).Nodup

structure SameDeclaration (want got : Declaration) : Prop where
  name_eq : want.name = got.name
  kind_eq : want.kind = got.kind
  aliased_eq : want.aliased = got.aliased
  properties_reordered : got.properties.Perm want.properties
  methods_reordered : got.methods.Perm want.methods

theorem agrees_iff_same (expected actual : Module) (wantsDistinct : NamesDistinct expected)
    (foundDistinct : NamesDistinct actual) (want got : Declaration)
    (wanted : want ∈ expected.declarations) (found : got ∈ actual.declarations) :
    want.name = got.name ∧ Agrees want got ↔ SameDeclaration want got := by
  have properties := answers_iff_perm Property.name want.properties got.properties
    (wantsDistinct.properties want wanted) (foundDistinct.properties got found)
  have methods := answers_iff_perm Method.name want.methods got.methods
    (wantsDistinct.methods want wanted) (foundDistinct.methods got found)
  constructor
  · rintro ⟨named, agrees⟩
    exact ⟨named, agrees.kind_eq, agrees.aliased_eq, properties.mp agrees.properties_answered,
      methods.mp agrees.methods_answered⟩
  · intro same
    exact ⟨same.name_eq, same.kind_eq, same.aliased_eq, properties.mpr same.properties_reordered,
      methods.mpr same.methods_reordered⟩

theorem diff_empty_iff_same_up_to_order (module file : String) (expected actual : Module)
    (wantsDistinct : NamesDistinct expected) (foundDistinct : NamesDistinct actual) :
    diff module file expected actual = [] ↔
      ∃ matched, actual.declarations.Perm matched ∧
        List.Forall₂ SameDeclaration expected.declarations matched := by
  rw [diff_none_iff_answers, answers_iff_reordered Declaration.name Agrees _ _
    wantsDistinct.declarations foundDistinct.declarations]
  refine exists_congr fun matched => and_congr_right fun reordered => ?_
  refine pairs_congr _ _ fun want wanted got member => ?_
  exact agrees_iff_same expected actual wantsDistinct foundDistinct want got wanted
    (reordered.mem_iff.mpr member)

def userInterface (properties : List Property) : Declaration :=
  ⟨"User", .interface, none, properties, []⟩

def idProperty : Property := ⟨"id", some "string", false⟩

def nameProperty : Property := ⟨"name", some "string | null", true⟩

def usersClient : Declaration where
  name := "UsersApiClient"
  kind := .class_
  aliased := none
  properties := []
  methods := [
    ⟨"getUser", [⟨"id", some "string", false⟩], some "Promise<User>", some "GET /users/$\x7bid\x7d"⟩]

theorem reordered_outline_has_no_difference :
    NamesDistinct ⟨[userInterface [idProperty, nameProperty], usersClient], []⟩ ∧
      NamesDistinct ⟨[usersClient, userInterface [nameProperty, idProperty]], []⟩ ∧
      diff "users-api" "users-api/types.ts"
        ⟨[userInterface [idProperty, nameProperty], usersClient], []⟩
        ⟨[usersClient, userInterface [nameProperty, idProperty]], []⟩ = [] := by
  have wants : NamesDistinct ⟨[userInterface [idProperty, nameProperty], usersClient], []⟩ :=
    ⟨by decide, by decide, by decide⟩
  have found : NamesDistinct ⟨[usersClient, userInterface [nameProperty, idProperty]], []⟩ :=
    ⟨by decide, by decide, by decide⟩
  refine ⟨wants, found, (diff_empty_iff_same_up_to_order _ _ _ _ wants found).mpr ?_⟩
  refine ⟨[userInterface [nameProperty, idProperty], usersClient], List.Perm.swap _ _ _, ?_⟩
  have user : SameDeclaration (userInterface [idProperty, nameProperty])
      (userInterface [nameProperty, idProperty]) :=
    ⟨rfl, rfl, rfl, List.Perm.swap _ _ _, List.Perm.refl _⟩
  have client : SameDeclaration usersClient usersClient :=
    ⟨rfl, rfl, rfl, List.Perm.refl _, List.Perm.refl _⟩
  exact .cons user (.cons client .nil)

end ApiContract.Audit
