import ApiContract.Proofs.Schema.Named
import Mathlib.Data.List.Forall2
import Mathlib.Data.List.Nodup
import Mathlib.Data.List.Perm.Basic

/-!
Matching items by name: what two passes over two lists establish when neither finds anything, and
that the lists are then the same up to order as long as no name is repeated.
-/

set_option autoImplicit false

namespace ApiContract.Audit

section Pairs

variable {α β : Type} {related : α → β → Prop}

theorem pair_of_left {xs : List α} {ys : List β} (pairs : List.Forall₂ related xs ys) :
    ∀ x ∈ xs, ∃ y ∈ ys, related x y := by
  induction pairs with
  | nil => simp
  | @cons x y xs ys first _ ih =>
      intro wanted member
      rcases List.mem_cons.mp member with rfl | below
      · exact ⟨y, List.mem_cons_self, first⟩
      · obtain ⟨partner, inRest, related⟩ := ih wanted below
        exact ⟨partner, List.mem_cons_of_mem y inRest, related⟩

theorem pair_of_right {xs : List α} {ys : List β} (pairs : List.Forall₂ related xs ys) :
    ∀ y ∈ ys, ∃ x ∈ xs, related x y := by
  intro y member
  exact pair_of_left pairs.flip y member

theorem pairs_of_each (xs : List α) (each : ∀ x ∈ xs, ∃ y, related x y) :
    ∃ ys, List.Forall₂ related xs ys := by
  induction xs with
  | nil => exact ⟨[], .nil⟩
  | cons x rest ih =>
      obtain ⟨⟨y, first⟩, others⟩ := List.forall_mem_cons.mp each
      obtain ⟨ys, later⟩ := ih others
      exact ⟨y :: ys, .cons first later⟩

theorem pairs_congr {other : α → β → Prop} (xs : List α) (ys : List β)
    (same : ∀ x ∈ xs, ∀ y ∈ ys, related x y ↔ other x y) :
    List.Forall₂ related xs ys ↔ List.Forall₂ other xs ys := by
  induction xs generalizing ys with
  | nil => simp
  | cons x rest ih =>
      cases ys with
      | nil => simp
      | cons y others =>
          have later := ih others fun wanted member partner below =>
            same wanted (List.mem_cons_of_mem x member) partner (List.mem_cons_of_mem y below)
          rw [List.forall₂_cons, List.forall₂_cons, later,
            same x List.mem_cons_self y List.mem_cons_self]

end Pairs

section Named

variable {α : Type} (name : α → String) (agrees : α → α → Prop)

-- What two passes over named items look for: every wanted item agrees with the first one that has
-- its name, and every item there is has the name of a wanted one.
structure Answers (wants found : List α) : Prop where
  each_answered : ∀ want ∈ wants, ∃ first,
    found.find? (fun item => name item == name want) = some first ∧ agrees want first
  none_extra : ∀ item ∈ found, name item ∈ wants.map name

theorem named_of_find (items : List α) (wanted : String) (first : α)
    (hit : items.find? (fun item => name item == wanted) = some first) :
    first ∈ items ∧ name first = wanted := by
  have same := List.find?_some hit
  exact ⟨List.mem_of_find?_eq_some hit, by simpa using same⟩

theorem find_is_some_iff (items : List α) (wanted : String) :
    (items.find? fun item => name item == wanted).isSome = true ↔ wanted ∈ items.map name := by
  rw [← not_iff_not, ← Schema.find_named_none name items wanted]
  simp

theorem reordered_of_answers (wants found : List α) (wantsDistinct : (wants.map name).Nodup)
    (foundDistinct : (found.map name).Nodup) (answers : Answers name agrees wants found) :
    ∃ matched, found.Perm matched ∧
      List.Forall₂ (fun want first => name want = name first ∧ agrees want first) wants matched := by
  obtain ⟨matched, pairs⟩ := pairs_of_each wants answers.each_answered
  have named : List.Forall₂ (fun want first => name want = name first ∧ agrees want first)
      wants matched := pairs.imp fun want first pair =>
    ⟨(named_of_find name found _ first pair.1).2.symm, pair.2⟩
  have sameNames : wants.map name = matched.map name := by
    have related := named.imp fun _ _ pair => pair.1
    rw [← List.forall₂_eq_eq_eq, List.forall₂_map_left_iff, List.forall₂_map_right_iff]
    exact related
  have matchedDistinct : (matched.map name).Nodup := sameNames ▸ wantsDistinct
  have within : ∀ first ∈ matched, first ∈ found := by
    intro first member
    obtain ⟨want, -, hit, -⟩ := pair_of_right pairs first member
    exact (named_of_find name found _ first hit).1
  refine ⟨matched, ?_, named⟩
  refine (List.perm_ext_iff_of_nodup (List.Nodup.of_map name foundDistinct)
    (List.Nodup.of_map name matchedDistinct)).mpr fun item => ⟨fun member => ?_, within item⟩
  have wanted : name item ∈ matched.map name := sameNames ▸ answers.none_extra item member
  obtain ⟨first, inMatched, same⟩ := List.mem_map.mp wanted
  have one := List.inj_on_of_nodup_map foundDistinct (within first inMatched) member same
  exact one ▸ inMatched

theorem answers_of_reordered (wants found : List α) (foundDistinct : (found.map name).Nodup)
    (matched : List α) (reordered : found.Perm matched)
    (named : List.Forall₂ (fun want first => name want = name first ∧ agrees want first)
      wants matched) : Answers name agrees wants found where
  each_answered want member := by
    obtain ⟨first, inMatched, same, agreed⟩ := pair_of_left named want member
    have hit := (Schema.find_named_some name found foundDistinct (name want) first).mpr
      ⟨reordered.mem_iff.mpr inMatched, same.symm⟩
    exact ⟨first, hit, agreed⟩
  none_extra item member := by
    obtain ⟨want, inWants, same, -⟩ := pair_of_right named item (reordered.mem_iff.mp member)
    exact same ▸ List.mem_map_of_mem inWants

-- Where no name is repeated, the items pair off and only their order is free.
theorem answers_iff_reordered (wants found : List α) (wantsDistinct : (wants.map name).Nodup)
    (foundDistinct : (found.map name).Nodup) :
    Answers name agrees wants found ↔ ∃ matched, found.Perm matched ∧
      List.Forall₂ (fun want first => name want = name first ∧ agrees want first) wants matched := by
  constructor
  · exact reordered_of_answers name agrees wants found wantsDistinct foundDistinct
  · rintro ⟨matched, reordered, named⟩
    exact answers_of_reordered name agrees wants found foundDistinct matched reordered named

theorem answers_iff_perm (wants found : List α) (wantsDistinct : (wants.map name).Nodup)
    (foundDistinct : (found.map name).Nodup) :
    Answers name Eq wants found ↔ found.Perm wants := by
  rw [answers_iff_reordered name Eq wants found wantsDistinct foundDistinct]
  constructor
  · rintro ⟨matched, reordered, named⟩
    have same : List.Forall₂ Eq wants matched := named.imp fun _ _ pair => pair.2
    rw [List.forall₂_eq_eq_eq] at same
    exact same ▸ reordered
  · intro reordered
    exact ⟨wants, reordered, List.forall₂_same.mpr fun _ _ => ⟨rfl, rfl⟩⟩

end Named

end ApiContract.Audit
