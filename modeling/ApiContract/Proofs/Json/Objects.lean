import ApiContract.Json.Basic

/-!
The objects of a value: where each stands, and all of them in the order of the document, those in
fields and lists behind the one around them.
-/

set_option autoImplicit false

namespace ApiContract.Json

inductive Step where
  | key (name : String)
  | index (number : Nat)

-- A value stands at a place of another one.
inductive Within : Json → List Step → Json → Prop where
  | here (v : Json) : Within v [] v
  | field (fields : List (String × Json)) (name : String) (child inner : Json) (place : List Step)
      (member : (name, child) ∈ fields) (below : Within child place inner) :
      Within (.object fields) (.key name :: place) inner
  | item (items : List Json) (number : Nat) (child inner : Json) (place : List Step)
      (member : items[number]? = some child) (below : Within child place inner) :
      Within (.array items) (.index number :: place) inner

abbrev Entry := List Step × List (String × Json)

def Entry.below (step : Step) (entry : Entry) : Entry :=
  (step :: entry.1, entry.2)

mutual

-- The places and fields of all objects, in the order of the document.
def objects : Json → List Entry
  | .object fields => ([], fields) :: objectsInFields fields
  | .array items => objectsInItems 0 items
  | _ => []

def objectsInFields : List (String × Json) → List Entry
  | [] => []
  | (name, value) :: rest => (objects value).map (Entry.below (.key name)) ++ objectsInFields rest

def objectsInItems (number : Nat) : List Json → List Entry
  | [] => []
  | value :: rest =>
      (objects value).map (Entry.below (.index number)) ++ objectsInItems (number + 1) rest

end

theorem mem_below (entries : List Entry) (step : Step) (place : List Step)
    (fields : List (String × Json)) :
    (place, fields) ∈ entries.map (Entry.below step) ↔
      ∃ rest, place = step :: rest ∧ (rest, fields) ∈ entries := by
  simp only [List.mem_map, Entry.below, Prod.mk.injEq]
  constructor
  · rintro ⟨⟨rest, others⟩, member, rfl, rfl⟩
    exact ⟨rest, rfl, member⟩
  · rintro ⟨rest, rfl, member⟩
    exact ⟨(rest, fields), member, rfl, rfl⟩

mutual

theorem objects_iff : ∀ (v : Json) (place : List Step) (fields : List (String × Json)),
    (place, fields) ∈ objects v ↔ Within v place (.object fields)
  | .object own, place, fields => by
      rw [objects, List.mem_cons, in_fields_iff own place fields, Prod.mk.injEq]
      constructor
      · rintro (⟨rfl, rfl⟩ | ⟨name, child, rest, rfl, member, below⟩)
        · exact .here _
        · exact .field own name child _ rest member below
      · intro within
        cases within with
        | here => exact .inl ⟨rfl, rfl⟩
        | field _ name child _ rest member below =>
            exact .inr ⟨name, child, rest, rfl, member, below⟩
  | .array items, place, fields => by
      rw [objects, in_items_iff 0 items place fields]
      constructor
      · rintro ⟨number, child, rest, rfl, member, below⟩
        rw [Nat.zero_add]
        exact .item items number child _ rest member below
      · intro within
        cases within with
        | item _ number child _ rest member below =>
            exact ⟨number, child, rest, by rw [Nat.zero_add], member, below⟩
  | .null, place, fields => by
      simp only [objects, List.not_mem_nil, false_iff]
      exact nofun
  | .bool _, place, fields => by
      simp only [objects, List.not_mem_nil, false_iff]
      exact nofun
  | .int _, place, fields => by
      simp only [objects, List.not_mem_nil, false_iff]
      exact nofun
  | .float _, place, fields => by
      simp only [objects, List.not_mem_nil, false_iff]
      exact nofun
  | .text _, place, fields => by
      simp only [objects, List.not_mem_nil, false_iff]
      exact nofun

theorem in_fields_iff : ∀ (own : List (String × Json)) (place : List Step)
    (fields : List (String × Json)), (place, fields) ∈ objectsInFields own ↔
      ∃ name child rest, place = .key name :: rest ∧ (name, child) ∈ own ∧
        Within child rest (.object fields)
  | [], place, fields => by simp [objectsInFields]
  | (name, value) :: others, place, fields => by
      rw [objectsInFields, List.mem_append, mem_below, in_fields_iff others place fields]
      simp only [objects_iff value, List.mem_cons, Prod.mk.injEq]
      constructor
      · rintro (⟨rest, rfl, below⟩ | ⟨key, child, rest, rfl, member, below⟩)
        · exact ⟨name, value, rest, rfl, .inl ⟨rfl, rfl⟩, below⟩
        · exact ⟨key, child, rest, rfl, .inr member, below⟩
      · rintro ⟨key, child, rest, rfl, ⟨rfl, rfl⟩ | member, below⟩
        · exact .inl ⟨rest, rfl, below⟩
        · exact .inr ⟨key, child, rest, rfl, member, below⟩

theorem in_items_iff : ∀ (number : Nat) (items : List Json) (place : List Step)
    (fields : List (String × Json)), (place, fields) ∈ objectsInItems number items ↔
      ∃ later child rest, place = .index (number + later) :: rest ∧ items[later]? = some child ∧
        Within child rest (.object fields)
  | number, [], place, fields => by simp [objectsInItems]
  | number, value :: others, place, fields => by
      rw [objectsInItems, List.mem_append, mem_below, in_items_iff (number + 1) others place fields]
      simp only [objects_iff value]
      constructor
      · rintro (⟨rest, rfl, below⟩ | ⟨later, child, rest, rfl, member, below⟩)
        · exact ⟨0, value, rest, rfl, rfl, below⟩
        · exact ⟨later + 1, child, rest, by rw [Nat.add_assoc, Nat.add_comm 1], member, below⟩
      · rintro ⟨later, child, rest, rfl, member, below⟩
        cases later with
        | zero =>
            cases member
            exact .inl ⟨rest, rfl, below⟩
        | succ later =>
            exact .inr ⟨later, child, rest, by rw [Nat.add_assoc, Nat.add_comm 1], member, below⟩

end

end ApiContract.Json
