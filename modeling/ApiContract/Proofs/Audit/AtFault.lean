import ApiContract.Proofs.Audit.Schemas

/-!
Which file of a source is at fault, and which file the finding of a schema audit names.
-/

set_option autoImplicit false

namespace ApiContract.Audit

open Files (Disk)
open Schema (Api LoadError Models Source SourceError readApi readModels)

variable {α : Type} {disk : Disk} {source : Source} {path : String} {error : SourceError}

-- One file of a source, read and parsed.
def readFile (parse : String → String → Except LoadError α) (disk : Disk) (path : String) :
    Except SourceError α :=
  match disk.readText path with
  | .error fault => .error (.file fault)
  | .ok text => (parse path text).mapError .load

-- The file whose reading or parsing fails: that of operations only where that of entities is fine.
inductive AtFault (disk : Disk) (source : Source) : String → SourceError → Prop where
  | models (error : SourceError) (fails : readFile readModels disk source.models = .error error) :
      AtFault disk source source.models error
  | api (models : Models) (path : String) (error : SourceError)
      (reads : readFile readModels disk source.models = .ok models) (listed : source.api = some path)
      (fails : readFile readApi disk path = .error error) : AtFault disk source path error

def readApiOf (disk : Disk) (source : Source) : Except SourceError Api :=
  match source.api with
  | none => .ok {}
  | some path => readFile readApi disk path

theorem file_unread (parse : String → String → Except LoadError α) (fault : Files.Fault)
    (fails : disk.readText path = .error fault) : readFile parse disk path = .error (.file fault) := by
  rw [readFile, fails]

theorem file_parsed (parse : String → String → Except LoadError α) (text : String)
    (reads : disk.readText path = .ok text) :
    readFile parse disk path = (parse path text).mapError .load := by
  rw [readFile, reads]

theorem read_in_turn (disk : Disk) (source : Source) :
    source.read disk = (readFile readModels disk source.models).bind fun models =>
      (readApiOf disk source).map fun api => (models, api) := by
  rw [Source.read]
  cases first : disk.readText source.models with
  | error fault =>
      rw [file_unread readModels fault first]
      rfl
  | ok text =>
      rw [file_parsed readModels text first]
      dsimp only
      cases readModels source.models text with
      | error failure => rfl
      | ok models =>
          rw [readApiOf]
          cases source.api with
          | none => rfl
          | some path =>
              dsimp only
              cases second : disk.readText path with
              | error fault =>
                  rw [file_unread readApi fault second]
                  rfl
              | ok text =>
                  rw [file_parsed readApi text second]
                  dsimp only
                  cases readApi path text with
                  | error failure => rfl
                  | ok api => rfl

theorem api_error_iff (disk : Disk) (source : Source) (error : SourceError) :
    readApiOf disk source = .error error ↔
      ∃ path, source.api = some path ∧ readFile readApi disk path = .error error := by
  rw [readApiOf]
  cases source.api with
  | none => simp
  | some path => simp

theorem read_error_iff (disk : Disk) (source : Source) (error : SourceError) :
    source.read disk = .error error ↔ ∃ path, AtFault disk source path error := by
  rw [read_in_turn, bind_error_iff]
  simp only [map_error_iff, api_error_iff]
  constructor
  · intro fails
    rcases fails with fails | ⟨models, reads, path, listed, fails⟩
    · exact ⟨_, .models error fails⟩
    · exact ⟨path, .api models path error reads listed fails⟩
  · intro atFault
    obtain ⟨_, atFault⟩ := atFault
    cases atFault with
    | models _ fails => exact .inl fails
    | api models _ _ reads listed fails => exact .inr ⟨models, reads, _, listed, fails⟩

theorem at_fault_unique (atFault : AtFault disk source path error) (other : String)
    (found : SourceError) (another : AtFault disk source other found) :
    other = path ∧ found = error := by
  cases atFault with
  | models _ fails =>
      cases another with
      | models _ failsToo => exact ⟨rfl, Except.error.inj (failsToo.symm.trans fails)⟩
      | api _ _ _ reads _ _ => exact nomatch reads.symm.trans fails
  | api _ _ _ reads listed fails =>
      cases another with
      | models _ failsToo => exact nomatch reads.symm.trans failsToo
      | api _ _ _ _ listedToo failsToo =>
          obtain rfl := Option.some.inj (listedToo.symm.trans listed)
          exact ⟨rfl, Except.error.inj (failsToo.symm.trans fails)⟩

theorem file_error_kinds (parse : String → String → Except LoadError α)
    (told : ∀ text failure, parse path text = .error failure →
      ∃ cause, failure = .malformed path cause)
    (fails : readFile parse disk path = .error error) :
    (∃ fault, error = .file fault) ∨ ∃ cause, error = .load (.malformed path cause) := by
  cases reads : disk.readText path with
  | error fault =>
      rw [file_unread parse fault reads] at fails
      exact .inl ⟨fault, (Except.error.inj fails).symm⟩
  | ok text =>
      rw [file_parsed parse text reads] at fails
      cases parsed : parse path text with
      | error failure =>
          obtain ⟨cause, rfl⟩ := told text failure parsed
          rw [parsed] at fails
          exact .inr ⟨cause, (Except.error.inj fails).symm⟩
      | ok value =>
          rw [parsed] at fails
          cases fails

theorem fault_kinds (atFault : AtFault disk source path error) :
    (∃ fault, error = .file fault) ∨ ∃ cause, error = .load (.malformed path cause) := by
  cases atFault with
  | models _ fails => exact file_error_kinds readModels (read_models_error _) fails
  | api _ _ _ _ _ fails => exact file_error_kinds readApi (read_api_error _) fails

theorem fault_told (atFault : AtFault disk source path error) :
    ∃ finding, checkSource disk source = .ok [finding] ∧ finding.module = source.name ∧
      (finding.file = some path ↔
        path = source.models ∨ ∃ cause, error = .load (.malformed path cause)) := by
  have fails := (check_error_iff disk source error).mpr
    ((read_error_iff disk source error).mpr ⟨path, atFault⟩)
  rw [checkSource, fails]
  rcases fault_kinds atFault with ⟨fault, rfl⟩ | ⟨cause, rfl⟩
  · refine ⟨unreadableFinding source fault, rfl, rfl, ?_⟩
    simp [unreadableFinding, eq_comm]
  · refine ⟨malformedFinding source path cause, rfl, rfl, ?_⟩
    simp [malformedFinding]

theorem file_told_of_fault (findings : List Finding)
    (checks : checkSource disk source = .ok findings) (finding : Finding)
    (member : finding ∈ findings) (told : finding.file ≠ none) :
    ∃ path error, AtFault disk source path error := by
  cases checked : source.check disk with
  | error error =>
      obtain ⟨path, atFault⟩ := (read_error_iff disk source error).mp
        ((check_error_iff disk source error).mp checked)
      exact ⟨path, error, atFault⟩
  | ok violations =>
      rw [checkSource, checked] at checks
      cases checks
      obtain ⟨v, -, rfl⟩ := List.mem_map.mp member
      exact absurd rfl told

theorem finding_names_failing_file_iff (disk : Disk) (sources : List Source) (glob : String)
    (pattern : Glob.Pattern) (valid : Glob.Pattern.parse glob = .ok pattern) :
    ∃ selected shares report log,
      Project.select sources glob = .ok selected ∧
      auditSchemas disk sources glob = .ok (report, log) ∧
      report.findings = shares.flatten ∧
      List.Forall₂ (fun source findings => checkSource disk source = .ok findings) selected shares ∧
      ∀ source ∈ selected, ∃ findings, checkSource disk source = .ok findings ∧
        (∀ finding ∈ findings, finding.file ≠ none →
          ∃ path error, AtFault disk source path error) ∧
        ∀ path error, AtFault disk source path error →
          (∀ other found, AtFault disk source other found → other = path ∧ found = error) ∧
          ∃ finding, findings = [finding] ∧ finding.module = source.name ∧
            (finding.file = some path ↔
              path = source.models ∨ ∃ cause, error = .load (.malformed path cause)) := by
  obtain ⟨shares, log, audited, each⟩ := schemas_told disk sources glob pattern valid
  refine ⟨_, shares, _, log, (Project.select_ok sources _ glob).mpr ⟨pattern, valid, rfl⟩, audited,
    rfl, each.imp fun _ _ told => told.checked, fun source _ => ?_⟩
  obtain ⟨findings, checked, -⟩ := source_has_share disk source
  refine ⟨findings, checked, file_told_of_fault findings checked, fun path error atFault => ?_⟩
  obtain ⟨finding, only, named, told⟩ := fault_told atFault
  exact ⟨at_fault_unique atFault, finding, Except.ok.inj (checked.symm.trans only), named, told⟩

def usersSource : Source :=
  ⟨"users-api", "users-api/models.yaml", some "users-api/api.yaml"⟩

def apiPattern : Glob.Pattern :=
  ⟨[.anySequence, .char '-', .char 'a', .char 'p', .char 'i']⟩

theorem api_pattern_parsed : Glob.Pattern.parse "*-api" = .ok apiPattern := by decide

-- A disk whose entities are fine, beside operations of any content.
def usersDisk (operations : ByteArray) : Disk where
  root := .directory [("users-api", .directory [("api.yaml", .file operations),
    ("models.yaml", .file (String.toUTF8
      "entities: [\x7b name: User, fields: [\x7b name: id, type: uuid \x7d] \x7d]\n"))])]
  here := []

theorem users_models_read (operations : ByteArray) :
    ∃ models, readFile readModels (usersDisk operations) usersSource.models = .ok models := by
  have reads : (usersDisk operations).readText usersSource.models =
      .ok "entities: [\x7b name: User, fields: [\x7b name: id, type: uuid \x7d] \x7d]\n" := rfl
  rw [file_parsed readModels _ reads]
  exact ok_of_is_ok _ (by decide +kernel)

theorem only_share (disk : Disk) (source : Source) (shares : List (List Finding))
    (turns : List.Forall₂ (fun source findings => checkSource disk source = .ok findings) [source]
      shares) : ∃ share, shares = [share] ∧ checkSource disk source = .ok share := by
  cases turns with
  | cons told later =>
      cases later
      exact ⟨_, rfl, told⟩

theorem malformed_operations_named :
    Glob.Pattern.parse "*-api" = .ok apiPattern ∧
      ∃ report log, auditSchemas (usersDisk "operations: [\n".toUTF8) [usersSource] "*-api" =
          .ok (report, log) ∧
        ∃ finding, report.findings = [finding] ∧ finding.file = some "users-api/api.yaml" := by
  have kept : Project.select [usersSource] "*-api" = .ok [usersSource] := by decide +kernel
  obtain ⟨models, first⟩ := users_models_read "operations: [\n".toUTF8
  have reads : (usersDisk "operations: [\n".toUTF8).readText "users-api/api.yaml" =
      .ok "operations: [\n" := rfl
  obtain ⟨failure, fails⟩ :=
    error_of_not_ok (readApi "users-api/api.yaml" "operations: [\n") (by decide +kernel)
  obtain ⟨cause, rfl⟩ := read_api_error _ _ failure fails
  have atFault : AtFault (usersDisk "operations: [\n".toUTF8) usersSource "users-api/api.yaml"
      (.load (.malformed "users-api/api.yaml" cause)) := by
    refine .api models _ _ first rfl ?_
    rw [file_parsed readApi _ reads, fails]
    rfl
  obtain ⟨selected, shares, report, log, chosen, audited, findings, turns, each⟩ :=
    finding_names_failing_file_iff (usersDisk "operations: [\n".toUTF8) [usersSource] "*-api"
      apiPattern api_pattern_parsed
  cases chosen.symm.trans kept
  obtain ⟨own, checked, -, ofFault⟩ := each usersSource List.mem_cons_self
  obtain ⟨-, finding, rfl, -, named⟩ := ofFault _ _ atFault
  obtain ⟨share, rfl, told⟩ := only_share _ _ _ turns
  cases checked.symm.trans told
  exact ⟨api_pattern_parsed, report, log, audited, finding, findings,
    named.mpr (.inr ⟨cause, rfl⟩)⟩

theorem unreadable_operations_told_as_models :
    AtFault (usersDisk ⟨#[255]⟩) usersSource "users-api/api.yaml" (.file .notText) ∧
      ∃ report log, auditSchemas (usersDisk ⟨#[255]⟩) [usersSource] "*-api" = .ok (report, log) ∧
        ∃ finding, report.findings = [finding] ∧ finding.file = some "users-api/models.yaml" := by
  obtain ⟨models, first⟩ := users_models_read ⟨#[255]⟩
  have unread : (usersDisk ⟨#[255]⟩).readText "users-api/api.yaml" = .error .notText := rfl
  have atFault : AtFault (usersDisk ⟨#[255]⟩) usersSource "users-api/api.yaml" (.file .notText) :=
    .api models _ _ first rfl (file_unread readApi _ unread)
  have fails := (check_error_iff _ _ _).mpr ((read_error_iff _ _ _).mpr ⟨_, atFault⟩)
  have checked : checkSource (usersDisk ⟨#[255]⟩) usersSource =
      .ok [unreadableFinding usersSource .notText] := by
    rw [checkSource, fails]
  obtain ⟨shares, log, audited, each⟩ :=
    schemas_told (usersDisk ⟨#[255]⟩) [usersSource] "*-api" apiPattern api_pattern_parsed
  have kept : ([usersSource].filter fun source => apiPattern.matches source.name) = [usersSource] := by
    decide +kernel
  rw [kept] at each
  obtain ⟨share, rfl, told⟩ := only_share _ _ _ (each.imp fun _ _ told => told.checked)
  cases checked.symm.trans told
  exact ⟨atFault, _, log, audited, _, rfl, rfl⟩

end ApiContract.Audit
