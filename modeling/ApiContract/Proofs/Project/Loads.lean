import ApiContract.Proofs.Project.Sources
import ApiContract.Proofs.Schema.Accepted

/-!
The modules that a project loads: they have the names of their sources, and the same ones are loaded
when the disk has grown.
-/

set_option autoImplicit false

namespace ApiContract.Project

open Files (Disk)
open Files.Disk (Grew)
open Schema (Api Models Module Source)

theorem select_ok (sources selected : List Source) (pattern : String) :
    select sources pattern = .ok selected ↔
      ∃ p, Glob.Pattern.parse pattern = .ok p ∧
        sources.filter (fun source => p.matches source.name) = selected :=
  map_ok_iff _ _ _

theorem select_sourced (directory : String) (sources selected : List Source) (pattern : String)
    (sourced : Sourced directory sources) (succeeds : select sources pattern = .ok selected) :
    Sourced directory selected := by
  obtain ⟨p, -, rfl⟩ := (select_ok sources selected pattern).mp succeeds
  have kept : ∀ source ∈ sources.filter (fun source => p.matches source.name), source ∈ sources :=
    fun source member => (List.mem_filter.mp member).1
  refine ⟨?_, fun source member => sourced.names_plain source (kept source member),
    fun source member => sourced.stand_in source (kept source member)⟩
  exact sourced.names_distinct.sublist (List.filter_sublist.map Source.name)

theorem load_all_names (disk : Disk) (sources : List Source) (modules : List Module)
    (loaded : Schema.loadAll disk sources = .ok modules) :
    modules.map Module.name = sources.map Source.name := by
  induction sources generalizing modules with
  | nil =>
      cases loaded
      rfl
  | cons source rest ih =>
      obtain ⟨m, others, first, later, rfl⟩ := (Schema.load_all_cons_ok disk source rest modules).mp loaded
      obtain ⟨files, -, built⟩ := (Schema.load_ok disk source m).mp first
      obtain ⟨-, rfl⟩ := (Schema.build_ok_iff _ _ _ m).mp built
      rw [List.map_cons, List.map_cons, ih others later]

section Grown

variable (written : List String → Prop) (before after : Disk) (grew : Grew written before after)
  (sound : before.Sound) (spares : Spares written)

include grew sound spares

theorem read_own_grew (name : String) (own : name ∈ ownFiles) (directory text : String)
    (reads : before.readText (joinPath directory name) = .ok text) :
    after.readText (joinPath directory name) = .ok text :=
  Disk.read_named_grew written before after grew sound name (own_file_is_name name own)
    (spares name own) directory text reads

theorem source_read_grew (directory : String) (source : Source) (stands : StandsIn directory source)
    (files : Models × Api) (reads : source.read before = .ok files) :
    source.read after = .ok files := by
  rw [Source.read] at reads ⊢
  rw [stands.models_path] at reads ⊢
  cases modelsRead : before.readText (joinPath (joinPath directory source.name) Schema.modelsFile) with
  | error fault => simp [modelsRead] at reads
  | ok models =>
      rw [read_own_grew written before after grew sound spares _ (by decide) _ models modelsRead]
      rw [modelsRead] at reads
      simp only at reads ⊢
      split at reads
      · cases reads
      · rename_i parsed ofModels
        cases hasApi : source.api with
        | none =>
            rw [hasApi] at reads
            exact reads
        | some path =>
            rw [hasApi] at reads
            simp only [stands.api_path path hasApi] at reads ⊢
            cases apiRead : before.readText
                (joinPath (joinPath directory source.name) Schema.apiFile) with
            | error fault => simp [apiRead] at reads
            | ok api =>
                rw [read_own_grew written before after grew sound spares _ (by decide) _ api apiRead]
                rw [apiRead] at reads
                exact reads

theorem load_all_grew (directory : String) (sources : List Source) (modules : List Module)
    (stand : ∀ source ∈ sources, StandsIn directory source)
    (loaded : Schema.loadAll before sources = .ok modules) :
    Schema.loadAll after sources = .ok modules := by
  induction sources generalizing modules with
  | nil => exact loaded
  | cons source rest ih =>
      obtain ⟨stands, standRest⟩ := List.forall_mem_cons.mp stand
      obtain ⟨m, others, first, later, rfl⟩ :=
        (Schema.load_all_cons_ok before source rest modules).mp loaded
      obtain ⟨files, reads, built⟩ := (Schema.load_ok before source m).mp first
      have still := source_read_grew written before after grew sound spares directory source stands
        files reads
      exact (Schema.load_all_cons_ok after source rest _).mpr
        ⟨m, others, (Schema.load_ok after source m).mpr ⟨files, still, built⟩, ih others standRest later, rfl⟩

end Grown

end ApiContract.Project
