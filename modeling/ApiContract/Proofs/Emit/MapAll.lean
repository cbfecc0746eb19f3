import ApiContract.Emit.Kind
import ApiContract.Proofs.Outcome
import Mathlib.Data.List.Forall2

/-!
Applying a function that may fail to every item: what is made when nothing fails, and which failure
is told of otherwise.
-/

set_option autoImplicit false

namespace ApiContract.Emit

variable {α β γ ε : Type}

theorem map_all_cons_ok (f : α → Except ε β) (a : α) (rest : List α) (made : List β) :
    mapAll f (a :: rest) = .ok made ↔
      ∃ b others, f a = .ok b ∧ mapAll f rest = .ok others ∧ b :: others = made := by
  cases first : f a with
  | error e => simp [mapAll, first]
  | ok b => simp [mapAll, first, map_ok_iff]

theorem map_all_ok_iff (f : α → Except ε β) (items : List α) (made : List β) :
    mapAll f items = .ok made ↔ List.Forall₂ (fun a b => f a = .ok b) items made := by
  induction items generalizing made with
  | nil => simp [mapAll, eq_comm]
  | cons a rest ih =>
      rw [map_all_cons_ok, List.forall₂_cons_left_iff]
      constructor
      · rintro ⟨b, others, first, later, rfl⟩
        exact ⟨b, others, first, (ih others).mp later, rfl⟩
      · rintro ⟨b, others, first, later, rfl⟩
        exact ⟨b, others, first, (ih others).mpr later, rfl⟩

theorem map_all_map (f : α → Except ε β) (g : β → γ) (h : α → γ) (items : List α)
    (step : ∀ a ∈ items, ∀ b, f a = .ok b → g b = h a) (made : List β)
    (succeeds : mapAll f items = .ok made) : made.map g = items.map h := by
  induction items generalizing made with
  | nil =>
      cases succeeds
      rfl
  | cons a rest ih =>
      obtain ⟨b, others, first, later, rfl⟩ := (map_all_cons_ok f a rest made).mp succeeds
      have tail := ih (fun other member => step other (List.mem_cons_of_mem a member)) others later
      rw [List.map_cons, List.map_cons, step a List.mem_cons_self b first, tail]

theorem map_all_source (f : α → Except ε β) (items : List α) (made : List β)
    (succeeds : mapAll f items = .ok made) : ∀ b ∈ made, ∃ a ∈ items, f a = .ok b := by
  induction items generalizing made with
  | nil =>
      cases succeeds
      simp
  | cons a rest ih =>
      obtain ⟨b, others, first, later, rfl⟩ := (map_all_cons_ok f a rest made).mp succeeds
      intro wanted member
      rcases List.mem_cons.mp member with rfl | below
      · exact ⟨a, List.mem_cons_self, first⟩
      · obtain ⟨source, inRest, gives⟩ := ih others later wanted below
        exact ⟨source, List.mem_cons_of_mem a inRest, gives⟩

theorem map_all_made (f : α → Except ε β) (items : List α) (made : List β)
    (succeeds : mapAll f items = .ok made) : ∀ a ∈ items, ∃ b ∈ made, f a = .ok b := by
  induction items generalizing made with
  | nil => simp
  | cons a rest ih =>
      obtain ⟨b, others, first, later, rfl⟩ := (map_all_cons_ok f a rest made).mp succeeds
      intro wanted member
      rcases List.mem_cons.mp member with rfl | below
      · exact ⟨b, List.mem_cons_self, first⟩
      · obtain ⟨result, inOthers, gives⟩ := ih others later wanted below
        exact ⟨result, List.mem_cons_of_mem b inOthers, gives⟩

theorem map_all_error (f : α → Except ε β) (items : List α) :
    error? (mapAll f items) = items.findSome? fun a => error? (f a) := by
  induction items with
  | nil => rfl
  | cons a rest ih =>
      rw [mapAll, List.findSome?_cons]
      cases f a with
      | error e => rfl
      | ok b => exact (error_map _ _).trans ih

-- The first item that fails decides; those before it do not fail.
theorem map_all_error_iff (f : α → Except ε β) (items : List α) (e : ε) :
    mapAll f items = .error e ↔
      ∃ before a after, items = before ++ a :: after ∧ (∀ earlier ∈ before, ∃ b, f earlier = .ok b) ∧
        f a = .error e := by
  rw [← error_eq_some_iff, map_all_error, List.findSome?_eq_some_iff]
  simp only [error_eq_some_iff, error_eq_none_iff]
  constructor
  · rintro ⟨before, a, after, split, fails, fine⟩
    exact ⟨before, a, after, split, fine, fails⟩
  · rintro ⟨before, a, after, split, fine, fails⟩
    exact ⟨before, a, after, split, fails, fine⟩

end ApiContract.Emit
