import ApiContract.Files.Tree
import ApiContract.Proofs.Outcome
import Mathlib.Data.List.Basic

/-!
What can be seen of a tree: the content of each file and the names in each directory. An entry that
is set in one directory is seen there and nowhere else.
-/

set_option autoImplicit false

namespace ApiContract.Files

inductive Shape where
  | file (content : ByteArray)
  | directory (names : List String)

namespace Entry

def shape : Entry → Shape
  | .file content => .file content
  | .directory entries => .directory (entries.map Prod.fst)

def shapeAt (root : Entry) (names : List String) : Except Fault Shape :=
  (root.get names).map shape

-- Nothing stands below.
inductive Leaf : Entry → Prop
  | file (content : ByteArray) : Leaf (.file content)
  | empty : Leaf (.directory [])

theorem find_none_iff (name : String) (entries : List (String × Entry)) :
    find name entries = none ↔ name ∉ entries.map Prod.fst := by
  induction entries with
  | nil => simp [find]
  | cons entry rest ih =>
      by_cases same : entry.1 = name
      · simp [find, same]
      · simp [find, same, ih, Ne.symm same]

theorem find_distinct (name : String) (entry : Entry) (entries : List (String × Entry))
    (distinct : (entries.map Prod.fst).Nodup) (member : (name, entry) ∈ entries) :
    find name entries = some entry := by
  induction entries with
  | nil => cases member
  | cons first rest ih =>
      obtain ⟨fresh, later⟩ := List.nodup_cons.mp distinct
      rcases List.mem_cons.mp member with rfl | below
      · simp [find]
      · have other : first.1 ≠ name := by
          intro same
          apply fresh
          rw [same]
          exact List.mem_map_of_mem below
        simp [find, other, ih later below]

theorem find_member (name : String) (entry : Entry) (entries : List (String × Entry))
    (found : find name entries = some entry) : (name, entry) ∈ entries := by
  induction entries with
  | nil => cases found
  | cons first rest ih =>
      rw [find] at found
      split at found
      · rename_i same
        cases found
        rw [← same]
        exact List.mem_cons_self
      · exact List.mem_cons_of_mem first (ih found)

theorem set_names (name : String) (new : Entry) (entries : List (String × Entry)) :
    (set name new entries).map Prod.fst =
      if name ∈ entries.map Prod.fst then entries.map Prod.fst
      else entries.map Prod.fst ++ [name] := by
  induction entries with
  | nil => rfl
  | cons entry rest ih =>
      by_cases same : entry.1 = name
      · simp [set, same]
      · rw [set, if_neg same, List.map_cons, ih]
        simp only [List.map_cons, List.mem_cons, Ne.symm same, false_or]
        split <;> rfl

theorem get_append (root : Entry) (names rest : List String) :
    root.get (names ++ rest) =
      match root.get names with
      | .error fault => .error fault
      | .ok entry => entry.get rest := by
  induction names generalizing root with
  | nil => simp [get]
  | cons name others ih =>
      cases root with
      | file content => rfl
      | directory entries =>
          simp only [List.cons_append, get]
          cases find name entries with
          | none => rfl
          | some next => exact ih next

theorem get_from (root entry : Entry) (names rest : List String)
    (stands : root.get names = .ok entry) : root.get (names ++ rest) = entry.get rest := by
  simp only [get_append, stands]

theorem get_below (root : Entry) (names : List String) (entries : List (String × Entry))
    (name : String) (rest : List String) (stands : root.get names = .ok (.directory entries)) :
    root.get (names ++ name :: rest) =
      match find name entries with
      | none => .error .notFound
      | some next => next.get rest :=
  get_from root (.directory entries) names (name :: rest) stands

theorem shape_at_file (root : Entry) (names : List String) (content : ByteArray) :
    root.shapeAt names = .ok (.file content) ↔ root.get names = .ok (.file content) := by
  rw [shapeAt]
  cases root.get names with
  | error fault => simp [Except.map]
  | ok entry => cases entry <;> simp [Except.map, shape]

theorem shape_at_directory (root : Entry) (names listed : List String) :
    root.shapeAt names = .ok (.directory listed) ↔
      ∃ entries, root.get names = .ok (.directory entries) ∧ entries.map Prod.fst = listed := by
  rw [shapeAt]
  cases root.get names with
  | error fault => simp [Except.map]
  | ok entry => cases entry <;> simp [Except.map, shape]

theorem shape_at_parent (root : Entry) (names : List String) (name : String) (rest : List String)
    (shape : Shape) (stands : root.shapeAt (names ++ name :: rest) = .ok shape) :
    ∃ listed, root.shapeAt names = .ok (.directory listed) ∧ name ∈ listed := by
  rw [shapeAt] at stands ⊢
  rw [get_append] at stands
  cases found : root.get names with
  | error fault => simp [found, Except.map] at stands
  | ok entry =>
      cases entry with
      | file content => simp [found, get, Except.map] at stands
      | directory entries =>
          refine ⟨_, rfl, ?_⟩
          by_contra absent
          have none := (find_none_iff name entries).mpr absent
          simp [found, get, none, Except.map] at stands

theorem shape_at_child (root : Entry) (names : List String) (listed : List String) (name : String)
    (stands : root.shapeAt names = .ok (.directory listed)) (member : name ∈ listed) :
    ∃ shape, root.shapeAt (names ++ [name]) = .ok shape := by
  obtain ⟨entries, found, rfl⟩ := (shape_at_directory root names listed).mp stands
  cases next : find name entries with
  | none => exact absurd member ((find_none_iff name entries).mp next)
  | some entry =>
      refine ⟨entry.shape, ?_⟩
      rw [shapeAt, get_below root names entries name [] found, next]
      rfl

theorem leaf_below (new : Entry) (leaf : Leaf new) (name : String) (rest : List String)
    (shape : Shape) : new.shapeAt (name :: rest) ≠ .ok shape := by
  cases leaf with
  | file content => exact nofun
  | empty => exact nofun

theorem modify_nil_ok (change : List (String × Entry) → List (String × Entry))
    (root changed : Entry) (succeeds : root.modify change [] = .ok changed) :
    ∃ entries, root = .directory entries ∧ changed = .directory (change entries) := by
  cases root with
  | file content => cases succeeds
  | directory entries =>
      cases succeeds
      exact ⟨entries, rfl, rfl⟩

theorem modify_cons_ok (change : List (String × Entry) → List (String × Entry)) (name : String)
    (others : List String) (root changed : Entry)
    (succeeds : root.modify change (name :: others) = .ok changed) :
    ∃ entries next below, root = .directory entries ∧ find name entries = some next ∧
      next.modify change others = .ok below ∧ changed = .directory (set name below entries) := by
  cases root with
  | file content => cases succeeds
  | directory entries =>
      simp only [modify] at succeeds
      cases found : find name entries with
      | none => simp [found] at succeeds
      | some next =>
          simp only [found] at succeeds
          obtain ⟨below, inner, rfl⟩ := (map_ok_iff _ _ _).mp succeeds
          exact ⟨entries, next, below, rfl, found, inner, rfl⟩

theorem modify_at (change : List (String × Entry) → List (String × Entry)) (names : List String)
    (root changed : Entry) (succeeds : root.modify change names = .ok changed) :
    ∃ entries, root.get names = .ok (.directory entries) ∧
      ∀ rest, changed.get (names ++ rest) = (Entry.directory (change entries)).get rest := by
  induction names generalizing root changed with
  | nil =>
      obtain ⟨entries, rfl, rfl⟩ := modify_nil_ok change root changed succeeds
      exact ⟨entries, rfl, fun rest => rfl⟩
  | cons name others ih =>
      obtain ⟨entries, next, below, rfl, found, inner, rfl⟩ :=
        modify_cons_ok change name others root changed succeeds
      obtain ⟨list, stands, changes⟩ := ih next below inner
      refine ⟨list, by simp only [get, found, stands], fun rest => ?_⟩
      rw [List.cons_append, get, find_set_same]
      exact changes rest

-- A path that does not lead to the changed directory may still lead through it from above: of the
-- directories around the change only the names are the same.
theorem modify_elsewhere (change : List (String × Entry) → List (String × Entry))
    (names : List String) (root changed : Entry) (succeeds : root.modify change names = .ok changed)
    (other : List String) (elsewhere : ¬ names <+: other) :
    changed.shapeAt other = root.shapeAt other := by
  induction names generalizing root changed other with
  | nil => exact absurd List.nil_prefix elsewhere
  | cons name others ih =>
      obtain ⟨entries, next, below, rfl, found, inner, rfl⟩ :=
        modify_cons_ok change name others root changed succeeds
      cases other with
      | nil =>
          have listed : name ∈ entries.map Prod.fst := by
            by_contra absent
            rw [(find_none_iff name entries).mpr absent] at found
            cases found
          simp only [shapeAt, get, Except.map, shape]
          rw [set_names, if_pos listed]
      | cons first later =>
          by_cases same : first = name
          · subst same
            have deeper : ¬ others <+: later := fun before =>
              elsewhere (List.cons_prefix_cons.mpr ⟨rfl, before⟩)
            have unchanged := ih next below inner later deeper
            simpa only [shapeAt, get, find_set_same, found] using unchanged
          · simp only [shapeAt, get, find_set_other name first below entries same]

-- All that setting an entry does, seen from any path.
theorem shape_after_set (root changed new : Entry) (names : List String) (name : String)
    (succeeds : root.modify (set name new) names = .ok changed) (path : List String) :
    (∃ listed, path = names ∧ root.shapeAt path = .ok (.directory listed) ∧
        changed.shapeAt path =
          .ok (.directory (if name ∈ listed then listed else listed ++ [name]))) ∨
      (∃ rest, path = names ++ name :: rest ∧ changed.shapeAt path = new.shapeAt rest) ∨
      changed.shapeAt path = root.shapeAt path := by
  obtain ⟨entries, stands, changes⟩ := modify_at _ names root changed succeeds
  by_cases below : names <+: path
  · obtain ⟨rest, rfl⟩ := below
    cases rest with
    | nil =>
        refine .inl ⟨entries.map Prod.fst, List.append_nil _, ?_, ?_⟩
        · rw [List.append_nil, shapeAt, stands]
          rfl
        · rw [shapeAt, changes, ← set_names name new entries]
          rfl
    | cons first rest =>
        by_cases same : first = name
        · subst same
          refine .inr (.inl ⟨rest, rfl, ?_⟩)
          rw [shapeAt, changes, get, find_set_same]
          rfl
        · refine .inr (.inr (congrArg (Except.map shape) ?_))
          rw [changes, get_from root _ names _ stands]
          simp only [get, find_set_other name first new entries same]
  · exact .inr (.inr (modify_elsewhere _ names root changed succeeds path below))

end Entry

end ApiContract.Files
