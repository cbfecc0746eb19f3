import ApiContract.Project.Basic
import ApiContract.Proofs.Files.Absolute

/-!
Projects on a disk that has grown without any write to their own files: the same project is found,
with the same modules in it.
-/

set_option autoImplicit false

namespace ApiContract.Project

open Files (Disk Entry IsName Shape)
open Files.Disk (Grew)
open Schema (Source)

def ownFiles : List String := [optionsFile, Schema.modelsFile, Schema.apiFile]

-- The writes leave the files of projects alone, in every directory.
def Spares (written : List String → Prop) : Prop :=
  ∀ name ∈ ownFiles, ∀ names, ¬ written (names ++ [name])

theorem own_file_is_name (name : String) (own : name ∈ ownFiles) : IsName name := by
  simp only [ownFiles, List.mem_cons, List.not_mem_nil, or_false] at own
  rcases own with rfl | rfl | rfl <;> decide

theorem read_text_present (disk : Disk) (path text : String) (reads : disk.readText path = .ok text) :
    disk.isPresent path = true := by
  obtain ⟨names, content, resolved, stands, -⟩ := (Disk.read_text_iff disk path text).mp reads
  rw [Disk.isPresent, Disk.get, resolved]
  simp only [(Entry.shape_at_file disk.root names content).mp stands]

theorem file_present (disk : Disk) (path : String) (isFile : disk.isFile path = true) :
    disk.isPresent path = true := by
  rw [Disk.isFile] at isFile
  rw [Disk.isPresent]
  cases found : disk.get path with
  | error fault => simp [found] at isFile
  | ok entry => rfl

theorem load_some_iff (disk : Disk) (directory : String) (options : Options) :
    Options.load disk directory = .ok (some options) ↔
      ∃ text, disk.readText (joinPath directory optionsFile) = .ok text ∧
        Options.ofYaml text = .ok options := by
  unfold Options.load
  cases reads : disk.readText (joinPath directory optionsFile) with
  | error fault =>
      constructor
      · intro loaded
        simp only [reads] at loaded
        split at loaded <;> cases loaded
      · rintro ⟨text, impossible, -⟩
        cases impossible
  | ok text =>
      rw [if_pos (read_text_present disk _ text reads)]
      cases parsed : Options.ofYaml text <;> simp [reads, parsed]

theorem load_none_absent (disk : Disk) (directory : String)
    (loaded : Options.load disk directory = .ok none) :
    disk.isPresent (joinPath directory optionsFile) = false := by
  rw [Options.load] at loaded
  cases present : disk.isPresent (joinPath directory optionsFile) with
  | false => rfl
  | true =>
      simp only [present, if_true] at loaded
      split at loaded
      · cases loaded
      · split at loaded <;> cases loaded

theorem nearest_root_file (disk : Disk) (back : List String) (root : String)
    (found : nearestRoot disk back = some root) :
    disk.isFile (joinPath root optionsFile) = true := by
  induction back with
  | nil =>
      rw [nearestRoot] at found
      split at found
      · rename_i isFile
        cases found
        exact isFile
      · cases found
  | cons name rest ih =>
      unfold nearestRoot at found
      simp only at found
      split at found
      · rename_i isFile
        cases found
        exact isFile
      · exact ih found

theorem find_root_file (disk : Disk) (start root : String)
    (found : findRoot disk start = .ok (some root)) :
    disk.isFile (joinPath root optionsFile) = true := by
  rw [findRoot] at found
  obtain ⟨names, -, nearest⟩ := (map_ok_iff _ _ _).mp found
  exact nearest_root_file disk names.reverse root nearest

section Grown

variable (written : List String → Prop) (before after : Disk) (grew : Grew written before after)
  (sound : before.Sound) (spares : Spares written)

include grew sound spares

theorem own_file_grew (name : String) (own : name ∈ ownFiles) (directory : String)
    (names : List String) (leads : before.Leads directory names) :
    after.isFile (joinPath directory name) = before.isFile (joinPath directory name) :=
  Disk.is_file_grew written before after grew sound name (own_file_is_name name own)
    (spares name own) directory names leads

theorem nearest_root_grew (back : List String) (shape : Shape)
    (stands : before.root.shapeAt back.reverse = .ok shape) :
    nearestRoot after back = nearestRoot before back := by
  induction back generalizing shape with
  | nil =>
      have leads : before.Leads "/" [] := rfl
      rw [nearestRoot, nearestRoot,
        own_file_grew written before after grew sound spares optionsFile (by decide) "/" [] leads]
  | cons name rest ih =>
      obtain ⟨above, parent⟩ := Disk.parent_stands before.root (name :: rest) shape stands
      have named := Files.shape_names before.root sound.tidy _ shape stands
      have leads := Disk.leads_absolute before _ shape named stands
      have same := own_file_grew written before after grew sound spares optionsFile (by decide)
        (Disk.absolute (name :: rest).reverse) _ leads
      simp only [nearestRoot, same, ih above parent]

theorem find_root_grew (start : String) (root : Option String)
    (found : findRoot before start = .ok root) : findRoot after start = .ok root := by
  rw [findRoot] at found ⊢
  obtain ⟨names, resolved, nearest⟩ := (map_ok_iff _ _ _).mp found
  have leads := Disk.leads_of_resolve before start names resolved
  obtain ⟨shape, stands⟩ := Disk.leads_stands before sound start names leads
  rw [← List.reverse_reverse names] at stands
  have same := nearest_root_grew written before after grew sound spares _ shape stands
  exact (map_ok_iff _ _ _).mpr
    ⟨names, Disk.resolve_grew written before after grew start names resolved, same.trans nearest⟩

theorem load_grew (directory : String) (options : Options)
    (loaded : Options.load before directory = .ok (some options)) :
    Options.load after directory = .ok (some options) := by
  obtain ⟨text, reads, parsed⟩ := (load_some_iff before directory options).mp loaded
  refine (load_some_iff after directory options).mpr ⟨text, ?_, parsed⟩
  exact Disk.read_named_grew written before after grew sound optionsFile
    (own_file_is_name optionsFile (by decide)) (spares optionsFile (by decide)) directory text reads

theorem discover_grew (start : String) (project : ApiContract.Project)
    (discovered : discover before start = .ok project) : discover after start = .ok project := by
  rw [discover] at discovered ⊢
  cases found : findRoot before start with
  | error fault => simp [found] at discovered
  | ok root =>
      rw [find_root_grew written before after grew sound spares start root found]
      rw [found] at discovered
      cases root with
      | none => exact discovered
      | some root =>
          obtain ⟨options, loaded, same⟩ := (map_ok_iff _ _ _).mp discovered
          refine (map_ok_iff _ _ _).mpr ⟨options, ?_, same⟩
          cases options with
          | some options => exact load_grew written before after grew sound spares root options loaded
          | none =>
              -- A root is found by its options, so there are options to be loaded.
              have present := file_present before _ (find_root_file before start root found)
              rw [load_none_absent before root loaded] at present
              cases present

end Grown

end ApiContract.Project
