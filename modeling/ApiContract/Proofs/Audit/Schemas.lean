import ApiContract.Audit.Schemas
import ApiContract.Proofs.Project.Loads

/-!
An audit of schemas beside the loading of them: the audit passes exactly where all that is selected
loads, and each source has a share of its own in the findings, in the order of the sources.
-/

set_option autoImplicit false

namespace ApiContract.Audit

open Files (Disk)
open Schema (Source SourceError Violation loadAll validate)

structure TellsOf (source : Source) (v : Violation) (finding : Finding) : Prop where
  module_eq : finding.module = source.name
  kind_eq : finding.kind = .schema
  subject_eq : finding.subject = v.subject
  tells_rule : finding.actual = some v.message

-- What one source adds to the findings: nothing where it loads, one finding where a file of it
-- cannot be read or parsed, and else one for each violation that its loading is refused with.
inductive Share (disk : Disk) (source : Source) : List Finding → Prop
  | loaded (m : Schema.Module) (loads : source.load disk = .ok m) : Share disk source []
  | unread (error : SourceError) (fails : source.read disk = .error error) (finding : Finding)
      (module_eq : finding.module = source.name) (kind_eq : finding.kind = .schema) :
      Share disk source [finding]
  | refused (violations : List Violation) (findings : List Finding)
      (refuses : source.load disk = .error (.load (.unsound source.name violations)))
      (told : List.Forall₂ (TellsOf source) violations findings) (broken : violations ≠ []) :
      Share disk source findings

theorem check_error_iff (disk : Disk) (source : Source) (error : SourceError) :
    source.check disk = .error error ↔ source.read disk = .error error := by
  rw [Source.check]
  cases source.read disk with
  | error found => simp [Except.map]
  | ok files => simp [Except.map]

theorem read_models_error (path text : String) (error : Schema.LoadError)
    (fails : Schema.readModels path text = .error error) : ∃ cause, error = .malformed path cause := by
  rw [Schema.readModels] at fails
  split at fails
  · cases fails
  · exact map_error_error _ _ error fails

theorem read_api_error (path text : String) (error : Schema.LoadError)
    (fails : Schema.readApi path text = .error error) : ∃ cause, error = .malformed path cause := by
  rw [Schema.readApi] at fails
  split at fails
  · cases fails
  · exact map_error_error _ _ error fails

-- Reading checks no rules, so that the violations of a module never come as an error of reading.
theorem read_error_kinds (disk : Disk) (source : Source) (error : SourceError)
    (fails : source.read disk = .error error) :
    (∃ fault, error = .file fault) ∨ ∃ path cause, error = .load (.malformed path cause) := by
  rw [Source.read] at fails
  split at fails
  · exact .inl ⟨_, (Except.error.inj fails).symm⟩
  · split at fails
    · rename_i found malformed
      obtain ⟨cause, rfl⟩ := read_models_error _ _ found malformed
      exact .inr ⟨_, cause, (Except.error.inj fails).symm⟩
    · split at fails
      · cases fails
      · split at fails
        · exact .inl ⟨_, (Except.error.inj fails).symm⟩
        · split at fails
          · rename_i found malformed
            obtain ⟨cause, rfl⟩ := read_api_error _ _ found malformed
            exact .inr ⟨_, cause, (Except.error.inj fails).symm⟩
          · cases fails

theorem load_of_read (disk : Disk) (source : Source) (files : Schema.Models × Schema.Api)
    (reads : source.read disk = .ok files) :
    source.load disk = (Schema.build source.name files.1 files.2).mapError .load := by
  rw [Source.load, reads]

theorem violations_told (source : Source) (violations : List Violation) :
    List.Forall₂ (TellsOf source) violations (violations.map (violationFinding source)) := by
  induction violations with
  | nil => exact .nil
  | cons v rest ih => exact .cons ⟨rfl, rfl, rfl, rfl⟩ ih

-- The check of a source has findings to tell, whatever is wrong with it.
theorem source_has_share (disk : Disk) (source : Source) :
    ∃ findings, checkSource disk source = .ok findings ∧ Share disk source findings := by
  rw [checkSource]
  cases reads : source.read disk with
  | error error =>
      rw [(check_error_iff disk source error).mpr reads]
      rcases read_error_kinds disk source error reads with ⟨fault, rfl⟩ | ⟨path, cause, rfl⟩
      · exact ⟨_, rfl, .unread _ reads _ rfl rfl⟩
      · exact ⟨_, rfl, .unread _ reads _ rfl rfl⟩
  | ok files =>
      have checked : source.check disk = .ok (validate files.1 files.2) := by
        rw [Source.check, reads]
        rfl
      have loads := load_of_read disk source files reads
      rw [checked]
      refine ⟨_, rfl, ?_⟩
      cases found : validate files.1 files.2 with
      | nil => exact .loaded (.of source.name files.1 files.2) (by rw [loads, Schema.build, found]; rfl)
      | cons v rest =>
          refine .refused (v :: rest) _ ?_ (violations_told source (v :: rest))
            (List.cons_ne_nil v rest)
          rw [loads, Schema.build, found]
          rfl

structure Told (disk : Disk) (source : Source) (findings : List Finding) : Prop where
  checked : checkSource disk source = .ok findings
  share : Share disk source findings

theorem sources_told (disk : Disk) (sources : List Source) :
    ∃ shares, checkSources disk sources = .ok shares.flatten ∧
      List.Forall₂ (Told disk) sources shares := by
  induction sources with
  | nil => exact ⟨[], rfl, .nil⟩
  | cons source rest ih =>
      obtain ⟨findings, checked, share⟩ := source_has_share disk source
      obtain ⟨shares, others, each⟩ := ih
      refine ⟨findings :: shares, ?_, .cons ⟨checked, share⟩ each⟩
      rw [checkSources, checked, others]
      rfl

theorem schemas_told (disk : Disk) (sources : List Source) (glob : String)
    (pattern : Glob.Pattern) (valid : Glob.Pattern.parse glob = .ok pattern) :
    ∃ shares log, auditSchemas disk sources glob = .ok (⟨.schema, shares.flatten, []⟩, log) ∧
      List.Forall₂ (Told disk) (sources.filter fun source => pattern.matches source.name)
        shares := by
  obtain ⟨shares, checked, each⟩ :=
    sources_told disk (sources.filter fun source => pattern.matches source.name)
  simp only [auditSchemas, valid, checked]
  exact ⟨shares, _, rfl, each⟩

theorem share_empty_iff (disk : Disk) (source : Source) (findings : List Finding)
    (share : Share disk source findings) :
    findings = [] ↔ ∃ m, source.load disk = .ok m := by
  cases share with
  | loaded m loads => exact ⟨fun _ => ⟨m, loads⟩, fun _ => rfl⟩
  | unread error fails finding =>
      refine ⟨fun empty => absurd empty (List.cons_ne_nil _ _), fun ⟨m, loads⟩ => ?_⟩
      rw [Source.load, fails] at loads
      cases loads
  | refused violations _ refuses told broken =>
      refine ⟨fun empty => ?_, fun ⟨m, loads⟩ => ?_⟩
      · subst empty
        cases told
        exact absurd rfl broken
      · rw [refuses] at loads
        cases loads

theorem shares_empty_iff (disk : Disk) (sources : List Source) (shares : List (List Finding))
    (each : List.Forall₂ (Share disk) sources shares) :
    shares.flatten = [] ↔ ∀ source ∈ sources, ∃ m, source.load disk = .ok m := by
  induction each with
  | nil => simp
  | cons share _ ih =>
      rw [List.flatten_cons, List.append_eq_nil_iff, ih, List.forall_mem_cons,
        share_empty_iff disk _ _ share]

theorem load_all_ok_iff (disk : Disk) (sources : List Source) :
    (∃ modules, loadAll disk sources = .ok modules) ↔
      ∀ source ∈ sources, ∃ m, source.load disk = .ok m := by
  induction sources with
  | nil => exact ⟨fun _ => by simp, fun _ => ⟨[], rfl⟩⟩
  | cons source rest ih =>
      rw [List.forall_mem_cons, ← ih]
      constructor
      · rintro ⟨modules, loaded⟩
        obtain ⟨m, others, first, later, -⟩ :=
          (Schema.load_all_cons_ok disk source rest modules).mp loaded
        exact ⟨⟨m, first⟩, others, later⟩
      · rintro ⟨⟨m, first⟩, others, later⟩
        exact ⟨m :: others, (Schema.load_all_cons_ok disk source rest _).mpr
          ⟨m, others, first, later, rfl⟩⟩

theorem schema_audit_agrees_with_loading (disk : Disk) (sources : List Source) (glob : String)
    (pattern : Glob.Pattern) (valid : Glob.Pattern.parse glob = .ok pattern) :
    ∃ selected report log,
      Project.select sources glob = .ok selected ∧
      auditSchemas disk sources glob = .ok (report, log) ∧
      (report.passed = true ↔ ∃ modules, loadAll disk selected = .ok modules) ∧
      (∃ shares, report.findings = shares.flatten ∧
        List.Forall₂ (Share disk) selected shares) ∧
      ∀ source ∈ selected, ∀ error, source.check disk = .error error →
        (∃ fault, error = .file fault) ∨ ∃ path cause, error = .load (.malformed path cause) := by
  obtain ⟨shares, log, audited, each⟩ := schemas_told disk sources glob pattern valid
  have each := each.imp fun _ _ told => told.share
  refine ⟨_, _, log, (Project.select_ok sources _ glob).mpr ⟨pattern, valid, rfl⟩, audited, ?_,
    ⟨shares, rfl, each⟩, fun source _ error fails => ?_⟩
  · rw [load_all_ok_iff, Report.passed, List.isEmpty_iff, shares_empty_iff disk _ shares each]
  · exact read_error_kinds disk source error ((check_error_iff disk source error).mp fails)

-- A disk with one schema, whose relation leads nowhere.
def unfinished : Disk where
  root := .directory [("users-api", .directory [("models.yaml", .file (String.toUTF8
    "entities: [\x7b name: User, relations: [\x7b name: team, target: Team \x7d] \x7d]\n"))])]
  here := []

def threeSources : List Source :=
  [⟨"gone-api", "gone-api/models.yaml", none⟩, ⟨"notes", "notes/models.yaml", none⟩,
   ⟨"users-api", "users-api/models.yaml", none⟩]

theorem unfinished_schemas_audited :
    Glob.Pattern.parse "*-api" = .ok ⟨[.anySequence, .char '-', .char 'a', .char 'p', .char 'i']⟩ ∧
      ∃ report log, auditSchemas unfinished threeSources "*-api" = .ok (report, log) ∧
        report.passed = false ∧
        ∃ ofGone ofUsers, report.findings = ofGone ++ ofUsers ∧
          Share unfinished ⟨"gone-api", "gone-api/models.yaml", none⟩ ofGone ∧
          Share unfinished ⟨"users-api", "users-api/models.yaml", none⟩ ofUsers := by
  have valid : Glob.Pattern.parse "*-api" =
      .ok ⟨[.anySequence, .char '-', .char 'a', .char 'p', .char 'i']⟩ := by decide
  obtain ⟨selected, report, log, chosen, audited, passed, ⟨shares, whole, each⟩, -⟩ :=
    schema_audit_agrees_with_loading unfinished threeSources "*-api" _ valid
  have kept : Project.select threeSources "*-api" = .ok
      [⟨"gone-api", "gone-api/models.yaml", none⟩, ⟨"users-api", "users-api/models.yaml", none⟩] := by
    decide +kernel
  cases chosen.symm.trans kept
  have gone : Source.load unfinished ⟨"gone-api", "gone-api/models.yaml", none⟩ =
      .error (.file .notFound) := rfl
  cases each with
  | @cons _ ofGone _ _ first later =>
      cases later with
      | @cons _ ofUsers _ _ second none =>
          cases none
          refine ⟨valid, report, log, audited, ?_, ofGone, ofUsers, by simpa using whole, first, second⟩
          rw [← Bool.not_eq_true, passed, load_all_ok_iff]
          intro loads
          obtain ⟨m, loaded⟩ := loads _ List.mem_cons_self
          rw [gone] at loaded
          cases loaded

end ApiContract.Audit
