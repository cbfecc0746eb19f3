import ApiContract.Schema.Model

/-!
Items with names: where the names are distinct, a name finds the one item that has it, and
collecting the items by name keeps them all in order.
-/

set_option autoImplicit false

namespace ApiContract.Schema

variable {α : Type} (name : α → String)

theorem find_named_none (items : List α) (wanted : String) :
    items.find? (fun item => name item == wanted) = none ↔ wanted ∉ items.map name := by
  simp [List.find?_eq_none, List.mem_map]

theorem find_named_some (items : List α) (distinct : (items.map name).Nodup) (wanted : String)
    (found : α) :
    items.find? (fun item => name item == wanted) = some found ↔
      found ∈ items ∧ name found = wanted := by
  constructor
  · intro hit
    exact ⟨List.mem_of_find?_eq_some hit, by simpa using List.find?_some hit⟩
  · rintro ⟨member, rfl⟩
    induction items with
    | nil => cases member
    | cons item rest ih =>
        have ⟨absent, later⟩ := List.nodup_cons.mp distinct
        rcases List.mem_cons.mp member with rfl | below
        · simp
        · have different : name item ≠ name found := fun same =>
            absent (same ▸ List.mem_map_of_mem below)
          simpa [List.find?_cons, different] using ih later below

theorem put_named_fresh (kept : List α) (item : α) (absent : name item ∉ kept.map name) :
    putNamed name item kept = kept ++ [item] := by
  induction kept with
  | nil => rfl
  | cons other rest ih =>
      have ⟨different, later⟩ : name item ≠ name other ∧ name item ∉ rest.map name := by
        simpa [List.map_cons] using absent
      simp [putNamed, Ne.symm different, ih later]

theorem fold_named_distinct (kept items : List α) (distinct : ((kept ++ items).map name).Nodup) :
    items.foldl (fun kept item => putNamed name item kept) kept = kept ++ items := by
  induction items generalizing kept with
  | nil => simp
  | cons item rest ih =>
      have absent : name item ∉ kept.map name := by
        intro before
        rw [List.map_append, List.nodup_append] at distinct
        exact distinct.2.2 _ before (name item) (by simp) rfl
      rw [List.foldl_cons, put_named_fresh name kept item absent, ih]
      · simp
      · simpa using distinct

theorem collect_named_distinct (items : List α) (distinct : (items.map name).Nodup) :
    collectNamed name items = items := by
  simpa [collectNamed] using fold_named_distinct name [] items distinct

end ApiContract.Schema
