import ApiContract.Proofs.Files.Segments
import ApiContract.Proofs.Files.Shape

/-!
Trees that grow: directories stay and keep their names, and files stay as they are but for those
that are written.
-/

set_option autoImplicit false

namespace ApiContract.Files

open Entry (Leaf shapeAt)

-- No directory lists a name twice, or anything that is no name.
def Tidy (root : Entry) : Prop :=
  ∀ path listed, root.shapeAt path = .ok (.directory listed) →
    listed.Nodup ∧ ∀ name ∈ listed, IsName name

theorem tidy_file (content : ByteArray) : Tidy (.file content) := by
  intro path listed stands
  cases path <;> cases stands

theorem tidy_directory (entries : List (String × Entry)) (distinct : (entries.map Prod.fst).Nodup)
    (each : ∀ entry ∈ entries, IsName entry.1 ∧ Tidy entry.2) : Tidy (.directory entries) := by
  intro path listed stands
  cases path with
  | nil =>
      cases stands
      refine ⟨distinct, fun name member => ?_⟩
      obtain ⟨entry, inEntries, rfl⟩ := List.mem_map.mp member
      exact (each entry inEntries).1
  | cons name rest =>
      simp only [Entry.shapeAt, Entry.get] at stands
      cases found : Entry.find name entries with
      | none =>
          rw [found] at stands
          cases stands
      | some next =>
          rw [found] at stands
          exact (each _ (Entry.find_member name next entries found)).2 rest listed stands

structure Grown (written : List String → Prop) (before after : Entry) : Prop where
  directories_stay : ∀ path listed, before.shapeAt path = .ok (.directory listed) →
    ∃ added, after.shapeAt path = .ok (.directory (listed ++ added))
  files_stay : ∀ path content, ¬ written path → before.shapeAt path = .ok (.file content) →
    after.shapeAt path = .ok (.file content)
  files_were : ∀ path content, ¬ written path → after.shapeAt path = .ok (.file content) →
    before.shapeAt path = .ok (.file content)

theorem grown_refl (written : List String → Prop) (root : Entry) : Grown written root root where
  directories_stay _ listed stands := ⟨[], by rw [List.append_nil, stands]⟩
  files_stay _ _ _ stands := stands
  files_were _ _ _ stands := stands

theorem grown_trans (written : List String → Prop) (first second third : Entry)
    (early : Grown written first second) (late : Grown written second third) :
    Grown written first third where
  directories_stay path listed stands := by
    obtain ⟨added, middle⟩ := early.directories_stay path listed stands
    obtain ⟨more, last⟩ := late.directories_stay path _ middle
    exact ⟨added ++ more, by rw [last, List.append_assoc]⟩
  files_stay path content untouched stands :=
    late.files_stay path content untouched (early.files_stay path content untouched stands)
  files_were path content untouched stands :=
    early.files_were path content untouched (late.files_were path content untouched stands)

theorem grown_mono (written allowed : List String → Prop) (before after : Entry)
    (covers : ∀ path, written path → allowed path) (grown : Grown written before after) :
    Grown allowed before after where
  directories_stay := grown.directories_stay
  files_stay path content untouched :=
    grown.files_stay path content fun touched => untouched (covers path touched)
  files_were path content untouched :=
    grown.files_were path content fun touched => untouched (covers path touched)

section Set

variable (root changed new : Entry) (names : List String) (name : String)

-- Nothing but a file gives way, and only to a file.
def GivesWay : Prop :=
  ∀ shape, root.shapeAt (names ++ [name]) = .ok shape →
    ∃ old content, shape = .file old ∧ new = .file content

theorem nothing_below (free : GivesWay root new names name) (next : String) (rest : List String)
    (shape : Shape) : root.shapeAt (names ++ name :: next :: rest) ≠ .ok shape := by
  intro stands
  rw [List.append_cons] at stands
  obtain ⟨listed, directory, -⟩ := Entry.shape_at_parent root _ next rest shape stands
  obtain ⟨old, content, impossible, -⟩ := free _ directory
  cases impossible

theorem set_grown (leaf : Leaf new) (free : GivesWay root new names name)
    (succeeds : root.modify (Entry.set name new) names = .ok changed) :
    Grown (fun path => path = names ++ [name] ∧ ∃ content, new = .file content) root changed := by
  have seen := Entry.shape_after_set root changed new names name succeeds
  refine ⟨fun path listed stands => ?_, fun path content untouched stands => ?_,
    fun path content untouched stands => ?_⟩
  · rcases seen path with ⟨known, -, was, is⟩ | ⟨rest, rfl, -⟩ | same
    · rw [was] at stands
      cases stands
      refine ⟨if name ∈ listed then [] else [name], ?_⟩
      rw [is]
      split <;> simp
    · cases rest with
      | nil =>
          obtain ⟨old, content, impossible, -⟩ := free _ stands
          cases impossible
      | cons next rest => exact absurd stands (nothing_below root new names name free next rest _)
    · exact ⟨[], by rw [same, stands, List.append_nil]⟩
  · rcases seen path with ⟨known, -, was, -⟩ | ⟨rest, rfl, -⟩ | same
    · rw [was] at stands
      cases stands
    · cases rest with
      | nil =>
          obtain ⟨old, content, -, isFile⟩ := free _ stands
          exact absurd ⟨rfl, content, isFile⟩ untouched
      | cons next rest => exact absurd stands (nothing_below root new names name free next rest _)
    · rw [same, stands]
  · rcases seen path with ⟨known, -, -, is⟩ | ⟨rest, rfl, is⟩ | same
    · rw [is] at stands
      cases stands
    · rw [is] at stands
      cases rest with
      | nil =>
          have isFile := (Entry.shape_at_file new [] content).mp stands
          simp only [Entry.get, Except.ok.injEq] at isFile
          exact absurd ⟨rfl, content, isFile⟩ untouched
      | cons next rest => exact absurd stands (Entry.leaf_below new leaf next rest _)
    · rw [← same, stands]

theorem set_tidy (leaf : Leaf new) (isName : IsName name) (tidy : Tidy root)
    (succeeds : root.modify (Entry.set name new) names = .ok changed) : Tidy changed := by
  intro path listed stands
  rcases Entry.shape_after_set root changed new names name succeeds path with
    ⟨known, -, was, is⟩ | ⟨rest, rfl, is⟩ | same
  · obtain ⟨distinct, named⟩ := tidy path known was
    rw [is] at stands
    cases stands
    split
    · exact ⟨distinct, named⟩
    · rename_i fresh
      refine ⟨?_, ?_⟩
      · rw [List.nodup_append]
        refine ⟨distinct, by simp, ?_⟩
        rintro other member last single rfl
        rw [List.mem_singleton.mp single] at member
        exact fresh member
      · intro other member
        rcases List.mem_append.mp member with old | single
        · exact named other old
        · rw [List.mem_singleton.mp single]
          exact isName
  · rw [is] at stands
    cases rest with
    | nil =>
        cases leaf with
        | file content => cases stands
        | empty =>
            cases stands
            exact ⟨List.nodup_nil, by simp⟩
    | cons next rest => exact absurd stands (Entry.leaf_below new leaf next rest _)
  · rw [same] at stands
    exact tidy path listed stands

end Set

end ApiContract.Files
