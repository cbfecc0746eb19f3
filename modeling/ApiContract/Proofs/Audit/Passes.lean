import ApiContract.Audit.Diff
import ApiContract.Proofs.Schema.Named
import Mathlib.Data.List.Nodup

/-!
A comparison of named items goes over the wanted ones, each judged by the first item of its name,
and then over what was found, where a name that nobody wants is surplus. All three levels of an
outline are compared in this way.
-/

set_option autoImplicit false

namespace ApiContract.Audit

open Outline (Declaration Method Module Property)

section Passes

variable {α δ : Type} (name : α → String) (judge : α → Option α → List δ) (surplus : α → δ)

def passes (wants found : List α) : List δ :=
  wants.flatMap (fun want => judge want (found.find? fun item => name item == name want)) ++
    found.flatMap fun got =>
      if (wants.find? fun item => name item == name got).isSome then [] else [surplus got]

theorem judged_kept (found kept : List α) (quiet : ∀ want ∈ kept, judge want (some want) = [])
    (distinct : (found.map name).Nodup) (within : ∀ item ∈ kept, item ∈ found) :
    (kept.flatMap fun want => judge want (found.find? fun item => name item == name want)) = [] := by
  refine List.flatMap_eq_nil_iff.mpr fun want member => ?_
  have hit := (Schema.find_named_some name found distinct (name want) want).mpr
    ⟨within want member, rfl⟩
  rw [hit, quiet want member]

theorem wanted_kept (wants kept : List α) (within : ∀ item ∈ kept, item ∈ wants) :
    (kept.flatMap fun got =>
      if (wants.find? fun item => name item == name got).isSome then [] else [surplus got]) = [] := by
  refine List.flatMap_eq_nil_iff.mpr fun got member => if_pos ?_
  rw [List.find?_isSome]
  exact ⟨got, within got member, beq_self_eq_true _⟩

-- The look-up of a name that only the item in the middle may have.
theorem find_edited (front back : List α) (middle : Option α) (wanted : String)
    (elsewhere : wanted ∉ (front ++ back).map name) :
    ((front ++ middle.toList ++ back).find? fun item => name item == wanted) =
      middle.filter fun item => name item == wanted := by
  rw [List.map_append, List.mem_append, not_or] at elsewhere
  have inFront := (Schema.find_named_none name front wanted).mpr elsewhere.1
  have inBack := (Schema.find_named_none name back wanted).mpr elsewhere.2
  rw [List.find?_append, List.find?_append, inFront, inBack]
  cases middle with
  | none => rfl
  | some item =>
      cases own : name item == wanted with
      | true => simp [Option.filter, own]
      | false => simp [Option.filter, own]

theorem named_elsewhere (front back : List α) (middle : Option α)
    (distinct : ((front ++ middle.toList ++ back).map name).Nodup) :
    ∀ item ∈ middle, name item ∉ (front ++ back).map name := by
  rintro item rfl
  have moved : ((front ++ (some item).toList ++ back).map name).Perm
      ((item :: (front ++ back)).map name) := by
    rw [Option.toList_some, List.append_assoc]
    exact List.perm_middle.map name
  exact (List.nodup_cons.mp (moved.nodup_iff.mp distinct)).1

-- Where two lists differ in one place only, what is told is told of that place.
theorem passes_edited (front back : List α) (old new : Option α)
    (quiet : ∀ want ∈ front ++ back, judge want (some want) = [])
    (wantsDistinct : ((front ++ old.toList ++ back).map name).Nodup)
    (foundDistinct : ((front ++ new.toList ++ back).map name).Nodup) :
    passes name judge surplus (front ++ old.toList ++ back) (front ++ new.toList ++ back) =
      (old.toList.flatMap fun want => judge want (new.filter fun item => name item == name want)) ++
        new.toList.flatMap fun got =>
          if (old.filter fun item => name item == name got).isSome then [] else [surplus got] := by
  obtain ⟨frontQuiet, backQuiet⟩ := List.forall_mem_append.mp quiet
  have frontJudged := judged_kept name judge _ front frontQuiet foundDistinct
    fun item member => by simp [member]
  have backJudged := judged_kept name judge _ back backQuiet foundDistinct
    fun item member => by simp [member]
  have frontWanted := wanted_kept name surplus (front ++ old.toList ++ back) front
    fun item member => by simp [member]
  have backWanted := wanted_kept name surplus (front ++ old.toList ++ back) back
    fun item member => by simp [member]
  rw [passes]
  simp only [List.flatMap_append, frontJudged, backJudged, frontWanted, backWanted,
    List.nil_append, List.append_nil]
  congr 1
  · refine List.flatMap_congr fun want member => ?_
    rw [find_edited name front back new (name want)
      (named_elsewhere name front back old wantsDistinct want (Option.mem_toList.mp member))]
  · refine List.flatMap_congr fun got member => ?_
    rw [find_edited name front back old (name got)
      (named_elsewhere name front back new foundDistinct got (Option.mem_toList.mp member))]

end Passes

def judgeProperty (owner : String) (want : Property) : Option Property → List Difference
  | none => [missing .field (memberName owner want.name) want.describe]
  | some found =>
      if found = want then []
      else
        [⟨memberName owner want.name, .field, .mismatched, some want.describe, some found.describe⟩]

def judgeMethod (owner : String) (want : Method) : Option Method → List Difference
  | none => [missing .operation (memberName owner want.name) want.describe]
  | some found =>
      if found = want then []
      else
        [⟨memberName owner want.name, .operation, .mismatched, (methodTexts want found).1,
          (methodTexts want found).2⟩]

def judgeDeclaration (want : Declaration) : Option Declaration → List Difference
  | none => [missing .type want.name want.describe]
  | some got => diffDeclaration want got

def surplusProperty (owner : String) (found : Property) : Difference :=
  extra .field (memberName owner found.name) found.describe

def surplusMethod (owner : String) (found : Method) : Difference :=
  extra .operation (memberName owner found.name) found.describe

def surplusDeclaration (got : Declaration) : Difference :=
  extra .type got.name got.describe

theorem diff_members_passes (want got : Declaration) :
    diffMembers want got =
      passes Property.name (judgeProperty want.name) (surplusProperty want.name) want.properties
          got.properties ++
        passes Method.name (judgeMethod want.name) (surplusMethod want.name) want.methods
          got.methods := by
  rw [diffMembers, List.append_assoc]
  rfl

theorem differences_passes (expected actual : Module) :
    differences expected actual =
      passes Declaration.name judgeDeclaration surplusDeclaration expected.declarations
        actual.declarations :=
  rfl

end ApiContract.Audit
