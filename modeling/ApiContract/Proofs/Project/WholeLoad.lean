import ApiContract.Proofs.Audit.AtFault
import ApiContract.Proofs.Emit.MapAll

/-!
Loading a list of sources: either all of them load, and the modules are what their files declare, in
the order of the sources, or nothing is loaded and the first source that fails is told of.
-/

set_option autoImplicit false

namespace ApiContract.Project

open Audit (AtFault readFile readApiOf)
open Files (Disk)
open Schema (Api Entity Models Module Operation Source SourceError loadAll readApi readModels validate)

-- What the files of a source say. A source without a file of operations declares none.
structure Declares (disk : Disk) (source : Source) (models : Models) (api : Api) : Prop where
  models_read : readFile readModels disk source.models = .ok models
  api_read : ∀ path, source.api = some path → readFile readApi disk path = .ok api
  api_absent : source.api = none → api = {}

def Sound (disk : Disk) (source : Source) : Prop :=
  ∃ models api, Declares disk source models api ∧ validate models api = []

-- A module with all that the files of its source declare, in their order; each item has a name of
-- its own, so that none hides another where they are found by name.
structure Holds (source : Source) (models : Models) (api : Api) (m : Module) : Prop where
  name_eq : m.name = source.name
  base_eq : m.basePath = api.basePath
  entities_eq : m.entities = models.entities
  operations_eq : m.operations = api.operations
  entity_found : ∀ e ∈ models.entities, m.entity? e.name = some e
  operations_distinct : (api.operations.map Operation.name).Nodup

-- Why a source does not load: one of its files cannot be read or parsed, or rules are broken; then
-- all violations are told.
inductive Refused (disk : Disk) (source : Source) : SourceError → Prop where
  | file (path : String) (error : SourceError) (atFault : AtFault disk source path error) :
      Refused disk source error
  | rules (models : Models) (api : Api) (declares : Declares disk source models api)
      (broken : validate models api ≠ []) :
      Refused disk source (.load (.unsound source.name (validate models api)))

theorem api_of_ok_iff (disk : Disk) (source : Source) (api : Api) :
    readApiOf disk source = .ok api ↔
      (∀ path, source.api = some path → readFile readApi disk path = .ok api) ∧
        (source.api = none → api = {}) := by
  rw [readApiOf]
  cases source.api with
  | none => simp [eq_comm]
  | some path => simp

theorem declares_iff (disk : Disk) (source : Source) (models : Models) (api : Api) :
    source.read disk = .ok (models, api) ↔ Declares disk source models api := by
  have read : source.read disk = .ok (models, api) ↔
      readFile readModels disk source.models = .ok models ∧ readApiOf disk source = .ok api := by
    rw [Audit.read_in_turn]
    cases readFile readModels disk source.models with
    | error failure => simp [Except.bind]
    | ok found => simp [Except.bind, map_ok_iff]; tauto
  rw [read, api_of_ok_iff]
  constructor
  · rintro ⟨models, listed, absent⟩
    exact ⟨models, listed, absent⟩
  · intro declares
    exact ⟨declares.models_read, declares.api_read, declares.api_absent⟩

theorem holds_of_sound (source : Source) (models : Models) (api : Api)
    (formed : Schema.WellFormed models api) :
    Holds source models api ⟨source.name, models.entities, api.basePath, api.operations⟩ where
  name_eq := rfl
  base_eq := rfl
  entities_eq := rfl
  operations_eq := rfl
  entity_found e member :=
    (Schema.find_named_some Entity.name models.entities formed.entities_distinct e.name e).mpr
      ⟨member, rfl⟩
  operations_distinct := formed.operations_distinct

theorem load_ok_iff (disk : Disk) (source : Source) (m : Module) :
    source.load disk = .ok m ↔
      ∃ models api, Declares disk source models api ∧ validate models api = [] ∧
        m = ⟨source.name, models.entities, api.basePath, api.operations⟩ := by
  rw [Schema.load_ok]
  constructor
  · rintro ⟨⟨models, api⟩, reads, built⟩
    obtain ⟨formed, rfl⟩ := (Schema.build_ok_iff source.name models api m).mp built
    exact ⟨models, api, (declares_iff disk source models api).mp reads,
      Schema.validate_of_well_formed models api formed, rfl⟩
  · rintro ⟨models, api, declares, clean, rfl⟩
    exact ⟨(models, api), (declares_iff disk source models api).mpr declares,
      (Schema.build_ok_iff source.name models api _).mpr
        ⟨Schema.well_formed_of_validate models api clean, rfl⟩⟩

theorem loads_iff_sound (disk : Disk) (source : Source) :
    (∃ m, source.load disk = .ok m) ↔ Sound disk source := by
  constructor
  · rintro ⟨m, loads⟩
    obtain ⟨models, api, declares, clean, -⟩ := (load_ok_iff disk source m).mp loads
    exact ⟨models, api, declares, clean⟩
  · rintro ⟨models, api, declares, clean⟩
    exact ⟨_, (load_ok_iff disk source _).mpr ⟨models, api, declares, clean, rfl⟩⟩

theorem build_error_iff (name : String) (models : Models) (api : Api) (error : Schema.LoadError) :
    Schema.build name models api = .error error ↔
      validate models api ≠ [] ∧ error = .unsound name (validate models api) := by
  rw [Schema.build]
  cases validate models api with
  | nil => simp
  | cons first others => simp [eq_comm]

theorem load_error_iff (disk : Disk) (source : Source) (error : SourceError) :
    source.load disk = .error error ↔ Refused disk source error := by
  constructor
  · intro fails
    rw [Source.load] at fails
    cases reads : source.read disk with
    | error found =>
        rw [reads] at fails
        cases fails
        obtain ⟨path, atFault⟩ := (Audit.read_error_iff disk source error).mp reads
        exact .file path error atFault
    | ok files =>
        rw [reads] at fails
        cases built : Schema.build source.name files.1 files.2 with
        | ok m => simp [built, Except.mapError] at fails
        | error found =>
            obtain ⟨broken, rfl⟩ := (build_error_iff source.name files.1 files.2 found).mp built
            simp only [built, Except.mapError, Except.error.injEq] at fails
            subst fails
            exact .rules files.1 files.2 ((declares_iff disk source _ _).mp reads) broken
  · intro refused
    cases refused with
    | file path _ atFault =>
        rw [Source.load, (Audit.read_error_iff disk source error).mpr ⟨path, atFault⟩]
    | rules models api declares broken =>
        have built := (build_error_iff source.name models api _).mpr ⟨broken, rfl⟩
        rw [Source.load, (declares_iff disk source models api).mpr declares]
        simp [built, Except.mapError]

theorem load_all_in_turn (disk : Disk) (sources : List Source) :
    loadAll disk sources = Emit.mapAll (fun source => source.load disk) sources := by
  induction sources with
  | nil => rfl
  | cons source rest ih =>
      rw [loadAll, Emit.mapAll, ih]
      cases source.load disk <;> rfl

theorem loading_whole_or_first_error (disk : Disk) (sources : List Source) :
    ((∃ modules, loadAll disk sources = .ok modules) ↔
        ∀ source ∈ sources, Sound disk source) ∧
      (∀ modules, loadAll disk sources = .ok modules →
        List.Forall₂ (fun source m => ∃ models api,
          Declares disk source models api ∧ Holds source models api m) sources modules) ∧
      ∀ error, loadAll disk sources = .error error ↔
        ∃ before source after, sources = before ++ source :: after ∧
          (∀ earlier ∈ before, Sound disk earlier) ∧ Refused disk source error := by
  refine ⟨?_, fun modules loaded => ?_, fun error => ?_⟩
  · simp only [Audit.load_all_ok_iff, loads_iff_sound]
  · rw [load_all_in_turn, Emit.map_all_ok_iff] at loaded
    refine loaded.imp fun source m loads => ?_
    obtain ⟨models, api, declares, clean, rfl⟩ := (load_ok_iff disk source m).mp loads
    exact ⟨models, api, declares,
      holds_of_sound source models api (Schema.well_formed_of_validate models api clean)⟩
  · rw [load_all_in_turn, Emit.map_all_error_iff]
    simp only [loads_iff_sound, load_error_iff]

-- A source that is fine stands in front of one with a relation that leads nowhere, and of one whose
-- files are missing.
def teamsText : String :=
  "entities: [\x7b name: Team, relations: [\x7b name: lead, target: User \x7d] \x7d]\n"

def usersText : String :=
  "entities: [\x7b name: User \x7d, \x7b name: Address \x7d]\n"

def halfFinished : Disk where
  root := .directory [("teams-api", .directory [("models.yaml", .file teamsText.toUTF8)]),
    ("users-api", .directory [("models.yaml", .file usersText.toUTF8)])]
  here := []

def modelsOnly (name path : String) : Source := ⟨name, path, none⟩

theorem declares_models (name path text : String) (models : Models)
    (reads : halfFinished.readText path = .ok text)
    (parses : (readModels path text).toOption = some models) :
    Declares halfFinished (modelsOnly name path) models {} where
  models_read := by
    rw [modelsOnly, Audit.file_parsed readModels text reads, (to_option_some_iff _ _).mp parses]
    rfl
  api_read path listed := nomatch listed
  api_absent _ := rfl

def usersSource : Source := modelsOnly "users-api" "users-api/models.yaml"

def teamsSource : Source := modelsOnly "teams-api" "teams-api/models.yaml"

def goneSource : Source := modelsOnly "gone-api" "gone-api/models.yaml"

theorem dangling_relation_stops_loading :
    loadAll halfFinished [usersSource, teamsSource, goneSource] =
      .error (.load (.unsound "teams-api" [⟨"Team.lead", .undefinedRelationTarget "User"⟩])) := by
  have users := declares_models "users-api" "users-api/models.yaml" usersText
    ⟨[⟨"User", none, [], []⟩, ⟨"Address", none, [], []⟩]⟩ rfl (by decide +kernel)
  have teams := declares_models "teams-api" "teams-api/models.yaml" teamsText
    ⟨[⟨"Team", none, [], [⟨"lead", "User", .one⟩]⟩]⟩ rfl (by decide +kernel)
  have told : validate ⟨[⟨"Team", none, [], [⟨"lead", "User", .one⟩]⟩]⟩ {} =
      [⟨"Team.lead", .undefinedRelationTarget "User"⟩] := by decide
  have whole := loading_whole_or_first_error halfFinished [usersSource, teamsSource, goneSource]
  refine (whole.2.2 _).mpr ⟨[usersSource], teamsSource, [goneSource], rfl, ?_, ?_⟩
  · rw [List.forall_mem_singleton]
    exact ⟨_, _, users, by decide⟩
  · rw [← told]
    exact .rules _ _ teams (by simp [told])

end ApiContract.Project
