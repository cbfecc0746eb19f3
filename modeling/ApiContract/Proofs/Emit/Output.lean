import ApiContract.Emit.Output
import ApiContract.Proofs.Emit.MapAll
import ApiContract.Proofs.Files.Segments
import ApiContract.Proofs.Schema.Accepted
import ApiContract.Proofs.Schema.Record
import Mathlib.Data.List.Nodup

/-!
What a module emits: the files of its sources, one for each kind that it has, or a failure. What their
provenance is taken over determines the schema, so that two modules have one text only where their
files say the same.
-/

set_option autoImplicit false

namespace ApiContract.Emit

open Schema (Api Models Module Operation build build_ok_iff module_text_injective)

def rendered (m : Module) (kind : FileKind) (source : Code.SourceFile) : GeneratedFile :=
  generated m kind source.render

theorem emit_kinds_cons_ok (s : Settings) (m : Module) (kind : FileKind) (rest : List FileKind)
    (files : List GeneratedFile) :
    (emitKinds s m (kind :: rest)).1 = .ok files ↔
      ∃ own others, source? s m kind = .ok own ∧ (emitKinds s m rest).1 = .ok others ∧
        files = (own.map (rendered m kind)).toList ++ others := by
  rw [emitKinds, emitFile?]
  cases source? s m kind with
  | error e => simp [Except.map]
  | ok own =>
      cases own with
      | none => simp [Except.map]
      | some source =>
          rw [Except.map.eq_2, Option.map_some, map_ok_iff]
          simp [rendered, eq_comm (b := files)]

theorem emit_module_ok (s : Settings) (m : Module) (files : List GeneratedFile) :
    (emitModule s m).1 = .ok files ↔
      ∃ types client, source? s m .types = .ok types ∧ source? s m .client = .ok client ∧
        files = (types.map (rendered m .types)).toList ++
          (client.map (rendered m .client)).toList := by
  have none_left (others : List GeneratedFile) :
      (emitKinds s m []).1 = .ok others ↔ others = [] := by
    simp [emitKinds, eq_comm]
  simp only [emitModule, FileKind.all, emit_kinds_cons_ok, none_left]
  constructor
  · rintro ⟨types, _, typesMade, ⟨client, _, clientMade, rfl, rfl⟩, rfl⟩
    exact ⟨types, client, typesMade, clientMade, by simp⟩
  · rintro ⟨types, client, typesMade, clientMade, rfl⟩
    exact ⟨types, _, typesMade, ⟨client, [], clientMade, rfl, rfl⟩, by simp⟩

-- Where a file stands and what its digest is follow from its module, its kind and its content.
structure Placed (file : GeneratedFile) : Prop where
  path_eq : file.path = file.kind.path file.module
  hash_eq : file.hash = Digest.ofText file.content

def key (file : GeneratedFile) : String × FileKind :=
  (file.module, file.kind)

theorem emit_module_placed (s : Settings) (m : Module) (files : List GeneratedFile)
    (emitted : (emitModule s m).1 = .ok files) :
    (∀ file ∈ files, Placed file ∧ file.module = m.name) ∧ (files.map key).Nodup := by
  obtain ⟨types, client, -, -, rfl⟩ := (emit_module_ok s m files).mp emitted
  refine ⟨?_, ?_⟩
  · intro file member
    rcases List.mem_append.mp member with ofTypes | ofClient
    · obtain ⟨source, -, rfl⟩ := Option.map_eq_some_iff.mp (Option.mem_toList.mp ofTypes)
      exact ⟨⟨rfl, rfl⟩, rfl⟩
    · obtain ⟨source, -, rfl⟩ := Option.map_eq_some_iff.mp (Option.mem_toList.mp ofClient)
      exact ⟨⟨rfl, rfl⟩, rfl⟩
  · cases types <;> cases client <;> simp [rendered, generated, key]

theorem types_source_ok (s : Settings) (m : Module) (file : Code.SourceFile)
    (succeeds : source? s m .types = .ok (some file)) : typeDecls s.types m = .ok file.items := by
  simp only [source?] at succeeds
  split at succeeds
  · cases succeeds
  · obtain ⟨decls, built, same⟩ := (map_ok_iff _ _ _).mp succeeds
    cases same
    exact built

def filesOf (s : Settings) (m : Module) : List GeneratedFile :=
  match (emitModule s m).1 with
  | .ok files => files
  | .error _ => []

def failuresOf (s : Settings) (m : Module) : List Failure :=
  match (emitModule s m).1 with
  | .ok _ => []
  | .error failure => [failure]

theorem emit_eq (s : Settings) (only : Option FileKind) (modules : List Module) :
    (emit s only modules).1 =
      ⟨modules.flatMap fun m => (filesOf s m).filter (isAsked only),
        modules.flatMap (failuresOf s)⟩ := by
  rw [emit]
  induction modules with
  | nil => rfl
  | cons m rest ih =>
      simp only [emitEach, List.flatMap_cons, filesOf, failuresOf] at ih ⊢
      rw [ih]
      cases (emitModule s m).1 <;> rfl

theorem emit_all_eq (s : Settings) (modules : List Module) :
    (emitAll s modules).1 = ⟨modules.flatMap (filesOf s), modules.flatMap (failuresOf s)⟩ := by
  have all (files : List GeneratedFile) : files.filter (isAsked none) = files :=
    List.filter_eq_self.mpr fun _ _ => rfl
  rw [emitAll, emit_eq]
  simp only [all]

-- Asking for one kind takes files away and nothing else.
theorem emit_only_eq (s : Settings) (kind : FileKind) (modules : List Module) :
    (emitOnly s kind modules).1 =
      ⟨(emitAll s modules).1.files.filter fun file => decide (file.kind = kind),
        (emitAll s modules).1.failures⟩ := by
  rw [emitOnly, emit_eq, emit_all_eq, List.filter_flatMap]
  rfl

theorem files_of_placed (s : Settings) (m : Module) :
    (∀ file ∈ filesOf s m, Placed file ∧ file.module = m.name) ∧
      ((filesOf s m).map key).Nodup := by
  rw [filesOf]
  cases emitted : (emitModule s m).1 with
  | error failure => simp
  | ok files => exact emit_module_placed s m files emitted

theorem emit_all_placed (s : Settings) (modules : List Module) (file : GeneratedFile)
    (member : file ∈ (emitAll s modules).1.files) :
    Placed file ∧ ∃ m ∈ modules, file.module = m.name := by
  rw [emit_all_eq] at member
  obtain ⟨m, inModules, ofModule⟩ := List.mem_flatMap.mp member
  obtain ⟨placed, named⟩ := (files_of_placed s m).1 file ofModule
  exact ⟨placed, m, inModules, named⟩

theorem emit_all_distinct (s : Settings) (modules : List Module)
    (distinct : (modules.map Schema.Module.name).Nodup) :
    ((emitAll s modules).1.files.map key).Nodup := by
  rw [emit_all_eq]
  induction modules with
  | nil => exact List.nodup_nil
  | cons m rest ih =>
      obtain ⟨fresh, later⟩ := List.nodup_cons.mp distinct
      simp only [List.flatMap_cons, List.map_append]
      refine List.nodup_append.mpr ⟨(files_of_placed s m).2, ih later, ?_⟩
      rintro first ofFirst second ofRest rfl
      obtain ⟨file, own, rfl⟩ := List.mem_map.mp ofFirst
      obtain ⟨other, inRest, same⟩ := List.mem_map.mp ofRest
      have otherModule := emit_all_placed s rest other (by rw [emit_all_eq]; exact inRest)
      obtain ⟨-, owner, inModules, named⟩ := otherModule
      have sameModule : other.module = file.module := congrArg Prod.fst same
      rw [named, ((files_of_placed s m).1 file own).2] at sameModule
      exact fresh (sameModule ▸ List.mem_map_of_mem inModules)

theorem file_name_is_name (kind : FileKind) : Files.IsName kind.fileName := by
  cases kind <;> decide

theorem file_name_injective (first second : FileKind) (same : first.fileName = second.fileName) :
    first = second := by
  cases first <;> cases second <;> simp [FileKind.fileName] at same ⊢

theorem placed_segments (file : GeneratedFile) (placed : Placed file)
    (isName : Files.IsName file.module) :
    Files.Below file.path ∧ Files.segments file.path = [file.module, file.kind.fileName] := by
  have inner := Files.below_name _ (file_name_is_name file.kind)
  rw [placed.path_eq, FileKind.path]
  refine ⟨Files.below_join _ _ (Files.below_name _ isName) inner, ?_⟩
  rw [Files.segments_join _ _ inner.relative, Files.segments_name _ isName,
    Files.segments_name _ (file_name_is_name file.kind)]
  rfl

theorem provenance_text_tells_schema (name other : String) (models otherModels : Models)
    (api otherApi : Api) (m n : Module) (builds : build name models api = .ok m)
    (otherBuilds : build other otherModels otherApi = .ok n) :
    "SCHEMA HASH: " ++ Digest.ofText m.toJson.compact ∈ provenance m ∧
      (m.toJson.compact = n.toJson.compact ↔ m = n) ∧
      (m.toJson.compact = n.toJson.compact ↔
        name = other ∧ models = otherModels ∧ api = otherApi) := by
  have text : m.toJson.compact = n.toJson.compact ↔ m = n := module_text_injective.eq_iff
  obtain ⟨-, rfl⟩ := (build_ok_iff name models api m).mp builds
  obtain ⟨-, rfl⟩ := (build_ok_iff other otherModels otherApi n).mp otherBuilds
  refine ⟨by simp [provenance], text, text.trans ?_⟩
  cases models
  cases otherModels
  cases api
  cases otherApi
  simp

-- A response without a body, and no response.
def quietOperation : Operation where
  name := "sendPing"
  method := .post
  path := "/ping"

def emptyResponse : Operation :=
  { quietOperation with response := some {} }

def pingModule (operation : Operation) : Schema.Module :=
  ⟨"ping-api", [], none, [operation]⟩

theorem empty_response_changes_text :
    build "ping-api" {} { operations := [quietOperation] } = .ok (pingModule quietOperation) ∧
      build "ping-api" {} { operations := [emptyResponse] } = .ok (pingModule emptyResponse) ∧
      (pingModule quietOperation).toJson.compact ≠ (pingModule emptyResponse).toJson.compact := by
  have first : build "ping-api" {} { operations := [quietOperation] } =
      .ok (pingModule quietOperation) := by
    have sound : Schema.validate {} { operations := [quietOperation] } = [] := by decide +kernel
    rw [build, sound]
    rfl
  have second : build "ping-api" {} { operations := [emptyResponse] } =
      .ok (pingModule emptyResponse) := by
    have sound : Schema.validate {} { operations := [emptyResponse] } = [] := by decide +kernel
    rw [build, sound]
    rfl
  refine ⟨first, second, fun same => ?_⟩
  obtain ⟨-, tells, -⟩ := provenance_text_tells_schema _ _ _ _ _ _ _ _ first second
  exact absurd (tells.mp same) (by decide)

end ApiContract.Emit
