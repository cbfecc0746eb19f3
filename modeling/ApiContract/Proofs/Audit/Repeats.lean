import ApiContract.Outline.Code
import ApiContract.Proofs.Audit.Differences
import ApiContract.Script.Reader

/-!
Names that are repeated in a file: the comparison sees the first item of a name only, so what the
later ones say goes unseen unless they repeat it.
-/

set_option autoImplicit false

namespace ApiContract.Audit

open Outline (Declaration Method Module Property)

-- All that is declared in a file is wanted: what the comparison is meant to make sure of.
structure CoveredBy (want got : Declaration) : Prop where
  name_eq : want.name = got.name
  kind_eq : want.kind = got.kind
  aliased_eq : want.aliased = got.aliased
  properties_wanted : ∀ p ∈ got.properties, p ∈ want.properties
  methods_wanted : ∀ m ∈ got.methods, m ∈ want.methods

def Covers (expected actual : Module) : Prop :=
  ∀ got ∈ actual.declarations, ∃ want ∈ expected.declarations, CoveredBy want got

-- A declaration says nothing that the first one of its name has not said, and neither do members
-- that repeat a name within it.
structure Repeats (first again : Declaration) : Prop where
  kind_eq : first.kind = again.kind
  aliased_eq : first.aliased = again.aliased
  properties_known : ∀ p ∈ again.properties, first.property? p.name = some p
  methods_known : ∀ m ∈ again.methods, first.method? m.name = some m

def RepeatsAgree (m : Module) : Prop :=
  ∀ got ∈ m.declarations, ∀ first, m.declaration? got.name = some first → Repeats first got

section Answered

variable {α : Type} {name : α → String} {wants found : List α}

theorem answer_of_known (answers : Answers name Eq wants found) (item : α)
    (known : found.find? (fun other => name other == name item) = some item) : item ∈ wants := by
  obtain ⟨member, -⟩ := named_of_find name found _ item known
  obtain ⟨want, wanted, same⟩ := List.mem_map.mp (answers.none_extra item member)
  obtain ⟨first, hit, rfl⟩ := answers.each_answered want wanted
  rw [same, known] at hit
  cases hit
  exact wanted

theorem known_of_wanted (answers : Answers name Eq wants found) (item : α) (wanted : item ∈ wants) :
    found.find? (fun other => name other == name item) = some item := by
  obtain ⟨first, hit, rfl⟩ := answers.each_answered item wanted
  exact hit

end Answered

theorem covered_iff_repeats (want first got : Declaration) (agrees : Agrees want first)
    (named : want.name = got.name) : CoveredBy want got ↔ Repeats first got := by
  constructor
  · intro covered
    refine ⟨agrees.kind_eq.symm.trans covered.kind_eq,
      agrees.aliased_eq.symm.trans covered.aliased_eq, fun p member => ?_, fun m member => ?_⟩
    · exact known_of_wanted agrees.properties_answered p (covered.properties_wanted p member)
    · exact known_of_wanted agrees.methods_answered m (covered.methods_wanted m member)
  · intro repeats
    refine ⟨named, agrees.kind_eq.trans repeats.kind_eq,
      agrees.aliased_eq.trans repeats.aliased_eq, fun p member => ?_, fun m member => ?_⟩
    · exact answer_of_known agrees.properties_answered p (repeats.properties_known p member)
    · exact answer_of_known agrees.methods_answered m (repeats.methods_known m member)

theorem wanted_first (expected actual : Module)
    (answers : Answers Declaration.name Agrees expected.declarations actual.declarations)
    (got : Declaration) (member : got ∈ actual.declarations) :
    ∃ want ∈ expected.declarations, ∃ first, actual.declaration? got.name = some first ∧
      want.name = got.name ∧ Agrees want first := by
  obtain ⟨want, wanted, named⟩ := List.mem_map.mp (answers.none_extra got member)
  obtain ⟨first, hit, agrees⟩ := answers.each_answered want wanted
  exact ⟨want, wanted, first, named ▸ hit, named, agrees⟩

theorem no_difference_covers_iff_repeats_agree (module file : String) (expected actual : Module)
    (distinct : (expected.declarations.map Declaration.name).Nodup)
    (empty : diff module file expected actual = []) :
    Covers expected actual ↔ RepeatsAgree actual := by
  have answers := (diff_none_iff_answers module file expected actual).mp empty
  constructor
  · intro covers got member first hit
    obtain ⟨want, wanted, other, found, named, agrees⟩ :=
      wanted_first expected actual answers got member
    rw [hit, Option.some.injEq] at found
    subst found
    obtain ⟨own, ownWanted, covered⟩ := covers got member
    have same : own = want := List.inj_on_of_nodup_map distinct ownWanted wanted
      (covered.name_eq.trans named.symm)
    exact (covered_iff_repeats want first got agrees named).mp (same ▸ covered)
  · intro agree got member
    obtain ⟨want, wanted, first, found, named, agrees⟩ :=
      wanted_first expected actual answers got member
    exact ⟨want, wanted, (covered_iff_repeats want first got agrees named).mpr
      (agree got member first found)⟩

theorem repeated_alike_is_covered :
    diff "users-api" "users-api/types.ts" ⟨[userInterface [idProperty, nameProperty]], []⟩
        ⟨[userInterface [nameProperty, idProperty], userInterface [idProperty]], []⟩ = [] ∧
      Covers ⟨[userInterface [idProperty, nameProperty]], []⟩
        ⟨[userInterface [nameProperty, idProperty], userInterface [idProperty]], []⟩ := by
  have empty : diff "users-api" "users-api/types.ts"
      ⟨[userInterface [idProperty, nameProperty]], []⟩
      ⟨[userInterface [nameProperty, idProperty], userInterface [idProperty]], []⟩ = [] := by decide
  refine ⟨empty, (no_difference_covers_iff_repeats_agree _ _ _ _ (by decide) empty).mpr ?_⟩
  intro got member first hit
  simp only [List.mem_cons, List.not_mem_nil, or_false] at member
  have named : got.name = "User" := by rcases member with rfl | rfl <;> rfl
  rw [named] at hit
  cases hit
  rcases member with rfl | rfl
  · exact ⟨rfl, rfl, by decide, by decide⟩
  · exact ⟨rfl, rfl, by decide, by decide⟩

def reopened : String :=
  "interface User \x7b id: string; \x7d\ninterface User \x7b extra: number; \x7d\n"

theorem reopened_interface_escapes :
    NamesDistinct ⟨[userInterface [idProperty]], []⟩ ∧
      diff "users-api" "users-api/types.ts" ⟨[userInterface [idProperty]], []⟩
        (Outline.Module.ofCode reopened) = [] ∧
      ¬ Covers ⟨[userInterface [idProperty]], []⟩ (Outline.Module.ofCode reopened) := by
  have read : Outline.Module.ofCode reopened =
      ⟨[userInterface [idProperty], userInterface [⟨"extra", some "number", false⟩]], []⟩ := by
    decide +kernel
  rw [read]
  refine ⟨⟨by decide, by decide, by decide⟩, by decide, fun covers => ?_⟩
  obtain ⟨want, wanted, covered⟩ := covers _ (.tail _ (.head _))
  rw [List.mem_singleton.mp wanted] at covered
  have kept := covered.properties_wanted _ (.head _)
  exact absurd kept (by decide)

end ApiContract.Audit
