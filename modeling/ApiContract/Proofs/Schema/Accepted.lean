import ApiContract.Proofs.Outcome
import ApiContract.Proofs.Schema.Integrity
import ApiContract.Schema.Load

/-!
Modules that are accepted: what is loaded is what the files say, and it keeps all rules.
-/

set_option autoImplicit false

namespace ApiContract.Schema

def Accepted (m : Module) : Prop :=
  ∃ name models api, build name models api = .ok m

theorem build_ok_iff (name : String) (models : Models) (api : Api) (m : Module) :
    build name models api = .ok m ↔
      WellFormed models api ∧ m = ⟨name, models.entities, api.basePath, api.operations⟩ := by
  have whole (formed : WellFormed models api) :
      Module.of name models api = ⟨name, models.entities, api.basePath, api.operations⟩ := by
    rw [Module.of, collect_named_distinct Entity.name _ formed.entities_distinct,
      collect_named_distinct Operation.name _ formed.operations_distinct]
  rw [build]
  cases checked : validate models api with
  | nil =>
      have formed := well_formed_of_validate models api checked
      rw [← whole formed]
      simp [formed, eq_comm]
  | cons first others =>
      have broken : ¬ WellFormed models api := by
        intro formed
        rw [validate_of_well_formed models api formed] at checked
        cases checked
      simp [broken]

theorem accepted_iff (m : Module) :
    Accepted m ↔ WellFormed ⟨m.entities⟩ ⟨m.basePath, m.operations⟩ := by
  constructor
  · rintro ⟨name, models, api, built⟩
    obtain ⟨formed, rfl⟩ := (build_ok_iff name models api m).mp built
    exact formed
  · intro formed
    exact ⟨m.name, ⟨m.entities⟩, ⟨m.basePath, m.operations⟩,
      (build_ok_iff _ _ _ _).mpr ⟨formed, rfl⟩⟩

theorem accepted_of_texts (name models : String) (api : Option String) (m : Module)
    (loaded : Module.ofTexts name models api = .ok m) : Accepted m := by
  rw [Module.ofTexts] at loaded
  split at loaded
  · cases loaded
  · split at loaded
    · exact ⟨_, _, _, loaded⟩
    · split at loaded
      · cases loaded
      · exact ⟨_, _, _, loaded⟩

theorem load_ok (disk : Files.Disk) (source : Source) (m : Module) :
    source.load disk = .ok m ↔
      ∃ files, source.read disk = .ok files ∧ build source.name files.1 files.2 = .ok m := by
  rw [Source.load]
  cases source.read disk with
  | error e => simp
  | ok files => simp [map_error_ok_iff]

theorem load_all_cons_ok (disk : Files.Disk) (source : Source) (rest : List Source)
    (modules : List Module) :
    loadAll disk (source :: rest) = .ok modules ↔
      ∃ m others, source.load disk = .ok m ∧ loadAll disk rest = .ok others ∧
        m :: others = modules := by
  rw [loadAll]
  cases source.load disk with
  | error e => simp
  | ok m => simp [map_ok_iff]

theorem accepted_of_load_all (disk : Files.Disk) (sources : List Source) (modules : List Module)
    (loaded : loadAll disk sources = .ok modules) : ∀ m ∈ modules, Accepted m := by
  induction sources generalizing modules with
  | nil =>
      cases loaded
      simp
  | cons source rest ih =>
      obtain ⟨m, others, first, later, rfl⟩ := (load_all_cons_ok disk source rest modules).mp loaded
      obtain ⟨files, -, built⟩ := (load_ok disk source m).mp first
      exact List.forall_mem_cons.mpr ⟨⟨_, _, _, built⟩, ih others later⟩

end ApiContract.Schema
