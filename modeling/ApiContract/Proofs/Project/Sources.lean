import ApiContract.Proofs.Project.Stable
import Mathlib.Data.List.Perm.Basic

/-!
The modules of a project: each in a directory of its own, and the same ones when the disk has grown
without any write to their files.
-/

set_option autoImplicit false

namespace ApiContract.Project

open Files (Disk Entry IsName Shape)
open Files.Disk (Grew)
open Schema (Source)

structure StandsIn (directory : String) (source : Source) : Prop where
  models_path : source.models = joinPath (joinPath directory source.name) Schema.modelsFile
  api_path : ∀ path, source.api = some path →
    path = joinPath (joinPath directory source.name) Schema.apiFile

def before? (first second : Source) : Bool :=
  decide (first.name ≤ second.name)

theorem source_in_some (disk : Disk) (directory name : String) (source : Source)
    (found : sourceIn? disk directory name = some source) :
    source.name = name ∧ StandsIn directory source ∧
      disk.isFile (joinPath (joinPath directory name) Schema.modelsFile) = true := by
  unfold sourceIn? at found
  simp only at found
  split at found
  · rename_i isFile
    cases found
    refine ⟨rfl, ⟨rfl, fun path present => ?_⟩, isFile⟩
    simp only at present
    split at present
    · cases present
      rfl
    · cases present
  · cases found

theorem sources_in_ok (disk : Disk) (directory : String) (sources : List Source) :
    sourcesIn disk directory = .ok sources ↔
      ∃ names entries, disk.resolve directory = .ok names ∧
        disk.root.get names = .ok (.directory entries) ∧ disk.withholds names = none ∧
        sources = (entries.filterMap fun entry =>
          if entry.2.isDirectory then sourceIn? disk directory entry.1 else none).mergeSort
            before? := by
  rw [sourcesIn]
  constructor
  · intro succeeds
    split at succeeds
    · cases listed : disk.list directory with
      | error fault => simp [listed] at succeeds
      | ok entries =>
          obtain ⟨names, resolved, stands, granted⟩ :=
            (Disk.list_iff disk directory entries).mp listed
          simp only [listed, Except.ok.injEq] at succeeds
          exact ⟨names, entries, resolved, stands, granted, succeeds.symm⟩
    · cases succeeds
  · rintro ⟨names, entries, resolved, stands, granted, rfl⟩
    have listed := (Disk.list_iff disk directory entries).mpr ⟨names, resolved, stands, granted⟩
    have isDirectory := (Disk.is_directory_iff disk directory).mpr
      ⟨names, _, resolved, (Entry.shape_at_directory disk.root names _).mpr ⟨entries, stands, rfl⟩⟩
    rw [if_pos isDirectory, listed]
    rfl

section Listed

variable (disk : Disk) (sound : disk.Sound) (directory : String) (names : List String)
  (entries : List (String × Entry)) (leads : disk.Leads directory names)
  (stands : disk.root.get names = .ok (.directory entries))

theorem names_listed (stands : disk.root.get names = .ok (.directory entries)) :
    disk.root.shapeAt names = .ok (.directory (entries.map Prod.fst)) :=
  (Entry.shape_at_directory disk.root names _).mpr ⟨entries, stands, rfl⟩

include sound leads stands

theorem source_in_directory (name : String) (isName : IsName name)
    (isFile : disk.isFile (joinPath (joinPath directory name) Schema.modelsFile) = true) :
    ∃ below, Entry.find name entries = some (.directory below) := by
  obtain ⟨content, file⟩ := (Disk.file_join_join_iff disk sound directory name Schema.modelsFile
    isName (own_file_is_name _ (by decide)) names leads).mp isFile
  rw [List.append_cons] at file
  obtain ⟨listed, isDirectory, -⟩ := Entry.shape_at_parent disk.root _ _ [] _ file
  obtain ⟨below, found, -⟩ := (Entry.shape_at_directory disk.root _ listed).mp isDirectory
  rw [Entry.get_below disk.root names entries name [] stands] at found
  cases next : Entry.find name entries with
  | none => simp [next] at found
  | some entry =>
      simp only [next, Entry.get, Except.ok.injEq] at found
      exact ⟨below, by rw [found]⟩

-- Whatever holds a file of entities is a directory, and a name stands for one entry alone: the
-- entries need not be asked what they are.
theorem listed_sources :
    (entries.filterMap fun entry =>
        if entry.2.isDirectory then sourceIn? disk directory entry.1 else none) =
      (entries.map Prod.fst).filterMap (sourceIn? disk directory) := by
  obtain ⟨distinct, named⟩ := sound.tidy names _ (names_listed disk names entries stands)
  rw [List.filterMap_map]
  refine List.filterMap_congr fun entry member => ?_
  rw [Function.comp_apply]
  cases found : sourceIn? disk directory entry.1 with
  | none => split <;> rfl
  | some source =>
      have isName := named entry.1 (List.mem_map_of_mem member)
      have isFile := (source_in_some disk directory entry.1 source found).2.2
      obtain ⟨below, stored⟩ := source_in_directory disk sound directory names entries leads stands
        entry.1 isName isFile
      rw [Entry.find_distinct entry.1 entry.2 entries distinct member] at stored
      rw [Option.some.inj stored]
      rfl

theorem unlisted_source (name : String) (isName : IsName name)
    (absent : name ∉ entries.map Prod.fst) : sourceIn? disk directory name = none := by
  cases found : sourceIn? disk directory name with
  | none => rfl
  | some source =>
      have isFile := (source_in_some disk directory name source found).2.2
      obtain ⟨below, stored⟩ := source_in_directory disk sound directory names entries leads stands
        name isName isFile
      rw [(Entry.find_none_iff name entries).mpr absent] at stored
      cases stored

end Listed

theorem found_names (disk : Disk) (directory : String) (names : List String) :
    (names.filterMap (sourceIn? disk directory)).map Source.name =
      names.filter fun name => (sourceIn? disk directory name).isSome := by
  induction names with
  | nil => rfl
  | cons name rest ih =>
      cases found : sourceIn? disk directory name with
      | none => simp [found, ih]
      | some source =>
          have named := (source_in_some disk directory name source found).1
          simp [found, ih, named]

structure Sourced (directory : String) (sources : List Source) : Prop where
  names_distinct : (sources.map Source.name).Nodup
  names_plain : ∀ source ∈ sources, IsName source.name
  stand_in : ∀ source ∈ sources, StandsIn directory source

theorem sources_in_sourced (disk : Disk) (sound : disk.Sound) (directory : String)
    (sources : List Source) (succeeds : sourcesIn disk directory = .ok sources) :
    Sourced directory sources := by
  obtain ⟨names, entries, resolved, stands, -, rfl⟩ := (sources_in_ok disk directory _).mp succeeds
  have leads := Disk.leads_of_resolve disk directory names resolved
  obtain ⟨distinct, named⟩ := sound.tidy names _ (names_listed disk names entries stands)
  rw [listed_sources disk sound directory names entries leads stands]
  have sorted := List.mergeSort_perm
    ((entries.map Prod.fst).filterMap (sourceIn? disk directory)) before?
  have member_found : ∀ source ∈ ((entries.map Prod.fst).filterMap
      (sourceIn? disk directory)).mergeSort before?,
      ∃ name ∈ entries.map Prod.fst, sourceIn? disk directory name = some source :=
    fun source member => List.mem_filterMap.mp (sorted.mem_iff.mp member)
  refine ⟨?_, fun source member => ?_, fun source member => ?_⟩
  · rw [(sorted.map Source.name).nodup_iff, found_names]
    exact distinct.filter _
  · obtain ⟨name, listed, found⟩ := member_found source member
    rw [(source_in_some disk directory name source found).1]
    exact named name listed
  · obtain ⟨name, -, found⟩ := member_found source member
    exact (source_in_some disk directory name source found).2.1

section Grown

variable (written : List String → Prop) (before after : Disk) (grew : Grew written before after)
  (sound : before.Sound) (spares : Spares written)

include grew sound spares

theorem source_in_grew (directory : String) (names : List String)
    (leads : before.Leads directory names) (name : String) (isName : IsName name) :
    sourceIn? after directory name = sourceIn? before directory name := by
  have same (file : String) (own : file ∈ ownFiles) :=
    Disk.is_file_below_grew written before after grew sound file (own_file_is_name file own)
      (spares file own) directory name isName names leads
  unfold sourceIn?
  simp only [same Schema.modelsFile (by decide), same Schema.apiFile (by decide)]

theorem sources_in_grew (directory : String) (sources : List Source)
    (succeeds : sourcesIn before directory = .ok sources) :
    sourcesIn after directory = .ok sources := by
  obtain ⟨names, entries, resolved, stands, granted, rfl⟩ :=
    (sources_in_ok before directory _).mp succeeds
  have leads := Disk.leads_of_resolve before directory names resolved
  have leadsAfter := Disk.leads_grew written before after grew directory names leads
  have soundAfter := Disk.sound_grew written before after grew sound
  obtain ⟨added, still⟩ := grew.grown.directories_stay names _
    (names_listed before names entries stands)
  obtain ⟨later, standsAfter, sameNames⟩ := (Entry.shape_at_directory after.root names _).mp still
  obtain ⟨distinct, named⟩ := soundAfter.tidy names _ still
  have same : ∀ name ∈ entries.map Prod.fst ++ added,
      sourceIn? after directory name = sourceIn? before directory name := fun name member =>
    source_in_grew written before after grew sound spares directory names leads name
      (named name member)
  have none_added : added.filterMap (sourceIn? before directory) = [] := by
    refine List.filterMap_eq_nil_iff.mpr fun name member => ?_
    refine unlisted_source before sound directory names entries leads stands name
      (named name (List.mem_append_right _ member)) fun listed => ?_
    exact (List.nodup_append.mp distinct).2.2 name listed name member rfl
  refine (sources_in_ok after directory _).mpr ⟨names, later,
    Disk.resolve_grew written before after grew directory names resolved, standsAfter,
    Disk.granted_grew written before after grew names granted, ?_⟩
  rw [listed_sources before sound directory names entries leads stands,
    listed_sources after soundAfter directory names later leadsAfter standsAfter, sameNames,
    List.filterMap_congr same, List.filterMap_append, none_added, List.append_nil]

end Grown

end ApiContract.Project
