import ApiContract.Files.Disk
import ApiContract.Proofs.Files.Growth

/-!
Following paths on a disk: what a path leads to, and that it still leads there when the tree grows.
-/

set_option autoImplicit false

namespace ApiContract.Files

namespace Disk

theorem walk_cons_ok (root : Entry) (back : List String) (part : String) (rest out : List String) :
    walk root back (part :: rest) = .ok out ↔
      ∃ listed, root.shapeAt back.reverse = .ok (.directory listed) ∧
        ((part = "." ∧ walk root back rest = .ok out) ∨
          (part = ".." ∧ walk root back.tail rest = .ok out) ∨
          (part ≠ "." ∧ part ≠ ".." ∧ part ∈ listed ∧ walk root (part :: back) rest = .ok out)) := by
  simp only [walk, Entry.shape_at_directory]
  cases stands : root.get back.reverse with
  | error fault => simp
  | ok entry =>
      cases entry with
      | file content => simp
      | directory entries =>
          by_cases here : part = "."
          · simp [here]
          · by_cases up : part = ".."
            · simp [up]
            · have absent := Entry.find_none_iff part entries
              cases found : Entry.find part entries with
              | none =>
                  have missing := absent.mp found
                  simp [here, up, found, missing, -List.mem_map]
              | some next =>
                  have listed : part ∈ entries.map Prod.fst := by
                    by_contra missing
                    rw [absent.mpr missing] at found
                    cases found
                  simp [here, up, found, listed, -List.mem_map]

theorem walk_append (root : Entry) (back first others : List String) :
    walk root back (first ++ others) =
      match walk root back first with
      | .error fault => .error fault
      | .ok middle => walk root middle others := by
  induction first generalizing back with
  | nil => rfl
  | cons part rest ih =>
      simp only [List.cons_append, walk]
      cases root.get back.reverse with
      | error fault => rfl
      | ok entry =>
          cases entry with
          | file content => rfl
          | directory entries =>
              simp only
              split
              · exact ih back
              · split
                · exact ih back.tail
                · cases Entry.find part entries with
                  | none => rfl
                  | some next => exact ih (part :: back)

theorem walk_append_ok (root : Entry) (back first others out : List String) :
    walk root back (first ++ others) = .ok out ↔
      ∃ middle, walk root back first = .ok middle ∧ walk root middle others = .ok out := by
  rw [walk_append]
  cases walk root back first with
  | error fault => simp
  | ok middle => simp

theorem walk_grown (written : List String → Prop) (before after : Entry)
    (grown : Grown written before after) (back parts out : List String)
    (succeeds : walk before back parts = .ok out) : walk after back parts = .ok out := by
  induction parts generalizing back with
  | nil => exact succeeds
  | cons part rest ih =>
      obtain ⟨listed, stands, continues⟩ := (walk_cons_ok before back part rest out).mp succeeds
      obtain ⟨added, still⟩ := grown.directories_stay back.reverse listed stands
      refine (walk_cons_ok after back part rest out).mpr ⟨listed ++ added, still, ?_⟩
      rcases continues with ⟨here, later⟩ | ⟨up, later⟩ | ⟨notHere, notUp, member, later⟩
      · exact .inl ⟨here, ih back later⟩
      · exact .inr (.inl ⟨up, ih back.tail later⟩)
      · exact .inr (.inr ⟨notHere, notUp, List.mem_append_left _ member, ih (part :: back) later⟩)

theorem parent_stands (root : Entry) (back : List String) (shape : Shape)
    (stands : root.shapeAt back.reverse = .ok shape) :
    ∃ shape, root.shapeAt back.tail.reverse = .ok shape := by
  cases back with
  | nil => exact ⟨shape, stands⟩
  | cons name others =>
      rw [List.reverse_cons] at stands
      obtain ⟨listed, parent, -⟩ := Entry.shape_at_parent root _ name [] shape stands
      exact ⟨_, parent⟩

theorem walk_stands (root : Entry) (back parts out : List String) (shape : Shape)
    (stands : root.shapeAt back.reverse = .ok shape) (succeeds : walk root back parts = .ok out) :
    ∃ shape, root.shapeAt out.reverse = .ok shape := by
  induction parts generalizing back shape with
  | nil =>
      cases succeeds
      exact ⟨shape, stands⟩
  | cons part rest ih =>
      obtain ⟨listed, directory, continues⟩ := (walk_cons_ok root back part rest out).mp succeeds
      rcases continues with ⟨-, later⟩ | ⟨-, later⟩ | ⟨-, -, member, later⟩
      · exact ih back shape stands later
      · obtain ⟨above, parent⟩ := parent_stands root back shape stands
        exact ih back.tail above parent later
      · obtain ⟨below, child⟩ := Entry.shape_at_child root _ listed part directory member
        rw [← List.reverse_cons] at child
        exact ih (part :: back) below child later

theorem walk_names (root : Entry) (names back out : List String) (shape : Shape)
    (stands : root.shapeAt back.reverse = .ok shape) (named : ∀ name ∈ names, IsName name) :
    walk root back names = .ok out ↔
      out = names.reverse ++ back ∧ ∃ shape, root.shapeAt (back.reverse ++ names) = .ok shape := by
  induction names generalizing back shape with
  | nil =>
      simp only [walk, Except.ok.injEq, List.reverse_nil, List.nil_append, List.append_nil]
      exact ⟨fun same => ⟨same.symm, shape, stands⟩, fun same => same.1.symm⟩
  | cons name rest ih =>
      obtain ⟨isName, later⟩ := List.forall_mem_cons.mp named
      rw [walk_cons_ok]
      constructor
      · rintro ⟨listed, directory, ⟨here, -⟩ | ⟨up, -⟩ | ⟨-, -, member, continues⟩⟩
        · exact absurd here isName.not_here
        · exact absurd up isName.not_up
        · obtain ⟨below, child⟩ := Entry.shape_at_child root _ listed name directory member
          rw [← List.reverse_cons] at child
          have reached := (ih (name :: back) below child later).mp continues
          simpa using reached
      · rintro ⟨rfl, below, reached⟩
        obtain ⟨listed, directory, member⟩ := Entry.shape_at_parent root _ name rest below reached
        obtain ⟨next, child⟩ := Entry.shape_at_child root _ listed name directory member
        rw [← List.reverse_cons] at child
        refine ⟨listed, directory, .inr (.inr ⟨isName.not_here, isName.not_up, member, ?_⟩)⟩
        refine (ih (name :: back) next child later).mpr ⟨by simp, below, ?_⟩
        simpa using reached

-- Names lead where they lead in the tree, and fail as they do there.
theorem walk_entry (root entry : Entry) (names back : List String)
    (stands : root.get back.reverse = .ok entry) (named : ∀ name ∈ names, IsName name) :
    walk root back names = (entry.get names).map fun _ => names.reverse ++ back := by
  induction names generalizing back entry with
  | nil => rfl
  | cons name rest ih =>
      obtain ⟨isName, later⟩ := List.forall_mem_cons.mp named
      cases entry with
      | file content =>
          rw [walk, stands]
          rfl
      | directory entries =>
          simp only [walk, stands, if_neg isName.not_here, if_neg isName.not_up, Entry.get]
          cases found : Entry.find name entries with
          | none => rfl
          | some next =>
              have child : root.get (name :: back).reverse = .ok next := by
                rw [List.reverse_cons, Entry.get_below root _ entries name [] stands, found]
                rfl
              have onward := ih next (name :: back) child later
              simpa using onward

end Disk

theorem shape_names (root : Entry) (tidy : Tidy root) (path : List String) (shape : Shape)
    (stands : root.shapeAt path = .ok shape) : ∀ name ∈ path, IsName name := by
  intro name member
  obtain ⟨before, after, rfl⟩ := List.append_of_mem member
  obtain ⟨listed, directory, isListed⟩ := Entry.shape_at_parent root before name after shape stands
  exact (tidy before listed directory).2 name isListed

end ApiContract.Files
