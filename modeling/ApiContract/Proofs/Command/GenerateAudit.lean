import ApiContract.Command.Run
import ApiContract.Proofs.Audit.Clean
import ApiContract.Proofs.Project.Loads

/-!
Generating files and auditing them right afterwards: the audit ends as the generation did, finds
nothing missing and nothing changed, and fails where the generation failed. Both work on the project
that is found and the modules that are loaded for a pattern, and these are the same on a disk that
has grown without any write to their files.
-/

set_option autoImplicit false

namespace ApiContract.Command

open Audit (OnlyExtra Report)
open Emit (GeneratedFile)
open Files (Disk IsName)
open Files.Disk (Grew)
open Project (Sourced Spares)
open Script (Parser)

structure Prepared where
  project : Project
  pattern : String
  modules : List Schema.Module

def prepare (asked : Option String) (start : String) (disk : Disk) : Except Error Prepared :=
  match discover disk start with
  | .error error => .error error
  | .ok project =>
      let pattern := asked.getD project.options.moduleGlob
      match selectSources project disk pattern with
      | .error error => .error error
      | .ok sources => (loadSources disk sources).map fun modules => ⟨project, pattern, modules⟩

structure Prepares (asked : Option String) (start : String) (disk : Disk) (p : Prepared)
    (all sources : List Schema.Source) : Prop where
  discovered : Project.discover disk start = .ok p.project
  pattern_eq : p.pattern = asked.getD p.project.options.moduleGlob
  listed : Project.sourcesIn disk p.project.schemaDir = .ok all
  selected : Project.select all p.pattern = .ok sources
  loaded : Schema.loadAll disk sources = .ok p.modules

theorem select_sources_ok (project : Project) (disk : Disk) (pattern : String)
    (sources : List Schema.Source) :
    selectSources project disk pattern = .ok sources ↔
      ∃ all, Project.sourcesIn disk project.schemaDir = .ok all ∧
        Project.select all pattern = .ok sources := by
  rw [selectSources, Project.sources]
  cases Project.sourcesIn disk project.schemaDir with
  | error fault => simp
  | ok all => simp [map_error_ok_iff]

theorem prepare_ok (asked : Option String) (start : String) (disk : Disk) (p : Prepared) :
    prepare asked start disk = .ok p ↔ ∃ all sources, Prepares asked start disk p all sources := by
  constructor
  · intro succeeds
    rw [prepare] at succeeds
    split at succeeds
    · cases succeeds
    · rename_i project found
      simp only at succeeds
      split at succeeds
      · cases succeeds
      · rename_i sources chosen
        obtain ⟨modules, loaded, rfl⟩ := (map_ok_iff _ _ _).mp succeeds
        obtain ⟨all, listed, selected⟩ := (select_sources_ok project disk _ sources).mp chosen
        exact ⟨all, sources, (map_error_ok_iff _ _ _).mp found, rfl, listed, selected,
          (map_error_ok_iff _ _ _).mp loaded⟩
  · rintro ⟨all, sources, discovered, pattern, listed, selected, loaded⟩
    obtain ⟨project, used, modules⟩ := p
    change used = asked.getD project.options.moduleGlob at pattern
    subst pattern
    have found : discover disk start = .ok project := (map_error_ok_iff _ _ _).mpr discovered
    have chosen := (select_sources_ok project disk _ sources).mpr ⟨all, listed, selected⟩
    have loads : loadSources disk sources = .ok modules := (map_error_ok_iff _ _ _).mpr loaded
    simp only [prepare, found, chosen, loads]
    rfl

theorem prepare_grew (written : List String → Prop) (before after : Disk)
    (grew : Grew written before after) (sound : before.Sound) (spares : Spares written)
    (asked : Option String) (start : String) (p : Prepared)
    (succeeds : prepare asked start before = .ok p) : prepare asked start after = .ok p := by
  obtain ⟨all, sources, prepares⟩ := (prepare_ok asked start before p).mp succeeds
  have sourced := Project.select_sourced _ all sources _
    (Project.sources_in_sourced before sound _ all prepares.listed) prepares.selected
  refine (prepare_ok asked start after p).mpr ⟨all, sources, ?_, prepares.pattern_eq, ?_,
    prepares.selected, ?_⟩
  · exact Project.discover_grew written before after grew sound spares start _ prepares.discovered
  · exact Project.sources_in_grew written before after grew sound spares _ all prepares.listed
  · exact Project.load_all_grew written before after grew sound spares _ sources _ sourced.stand_in
      prepares.loaded

structure Selection (p : Prepared) (pattern : Glob.Pattern) : Prop where
  parsed : Glob.Pattern.parse p.pattern = .ok pattern
  names_match : ∀ m ∈ p.modules, pattern.matches m.name = true
  names_distinct : (p.modules.map Schema.Module.name).Nodup
  names_plain : ∀ m ∈ p.modules, IsName m.name

theorem prepared_selection (asked : Option String) (start : String) (disk : Disk)
    (sound : disk.Sound) (p : Prepared) (succeeds : prepare asked start disk = .ok p) :
    ∃ pattern, Selection p pattern := by
  obtain ⟨all, sources, prepares⟩ := (prepare_ok asked start disk p).mp succeeds
  have sourced := Project.select_sourced _ all sources _
    (Project.sources_in_sourced disk sound _ all prepares.listed) prepares.selected
  have names := Project.load_all_names disk sources p.modules prepares.loaded
  have source_of : ∀ m ∈ p.modules, ∃ source ∈ sources, source.name = m.name := by
    intro m member
    have named : m.name ∈ sources.map Schema.Source.name := names ▸ List.mem_map_of_mem member
    exact List.mem_map.mp named
  obtain ⟨pattern, parsed, chosen⟩ := (Project.select_ok all sources p.pattern).mp prepares.selected
  refine ⟨pattern, parsed, fun m member => ?_, ?_, fun m member => ?_⟩
  · obtain ⟨source, inSources, named⟩ := source_of m member
    rw [← chosen] at inSources
    rw [← named]
    exact (List.mem_filter.mp inSources).2
  · rw [names]
    exact sourced.names_distinct
  · obtain ⟨source, inSources, named⟩ := source_of m member
    rw [← named]
    exact sourced.names_plain source inSources

def emitted (what : Generation) (p : Prepared) : Emit.Output :=
  let settings := p.project.options.settings
  (Emit.emitAll { settings with header := settings.header && !what.noHeader } p.modules).1

def emission (what : Generation) (start : String) (disk : Disk) : Except Error Emit.Output :=
  (prepare what.pattern start disk).map (emitted what)

def inspection [Parser] (what : Inspection) (start : String) (disk : Disk) : Except Error Report :=
  match prepare what.pattern start disk with
  | .error error => .error error
  | .ok p =>
      (Audit.auditFiles p.project.options.settings (what.directory.getD p.project.outputDir) disk
        p.modules p.pattern).1.mapError auditError

def reportText (asJson : Bool) (report : Report) : String :=
  if asJson then report.toJson.pretty ++ "\n" else report.render

def failureLines (failures : List Emit.Failure) : String :=
  onLines (failures.map fun failure => "✗ " ++ failure.describe)

def writing (what : Generation) (p : Prepared) (disk : Disk) : Emit.Writing :=
  Emit.writeFiles (what.directory.getD p.project.outputDir) disk (emitted what p).files

structure Finished (what : Generation) (p : Prepared) (disk : Disk) (made : Run) : Prop where
  written : ∃ summary, (writing what p disk).outcome = .ok summary
  disk_eq : made.disk = (writing what p disk).disk
  status_eq : made.status = .ofPassed (emitted what p).failures.isEmpty
  err_eq : made.err = failureLines (emitted what p).failures

theorem emit_modules_finished (what : Generation) (p : Prepared) (disk : Disk)
    (wet : what.dryRun = false)
    (finished : (emitModules what p.project disk p.modules).status ≠ .broken) :
    Finished what p disk (emitModules what p.project disk p.modules) := by
  cases outcome : (writing what p disk).outcome with
  | error fault =>
      have broken : emitModules what p.project disk p.modules =
          .ofError (writing what p disk).disk (.file fault) := by
        rw [writing, emitted] at outcome
        simp only [emitModules, wet, outcome]
        rfl
      rw [broken] at finished
      exact absurd rfl finished
  | ok summary =>
      refine ⟨⟨summary, outcome⟩, ?_, ?_, ?_⟩
      all_goals
        rw [writing, emitted] at outcome
        simp only [emitModules, wet, outcome]
        rfl

theorem generate_finished (what : Generation) (start : String) (disk : Disk)
    (wet : what.dryRun = false) (finished : (generate what start disk).status ≠ .broken) :
    ∃ p, prepare what.pattern start disk = .ok p ∧
      Finished what p disk (generate what start disk) := by
  rw [generate] at finished ⊢
  rw [prepare]
  cases discovered : discover disk start with
  | error error => simp [discovered, Run.ofError] at finished
  | ok project =>
      simp only [discovered] at finished ⊢
      cases selected : selectSources project disk
          (what.pattern.getD project.options.moduleGlob) with
      | error error => simp [selected, Run.ofError] at finished
      | ok sources =>
          cases sources with
          | nil => exact ⟨_, rfl, ⟨_, rfl⟩, rfl, rfl, rfl⟩
          | cons first others =>
              simp only [selected] at finished ⊢
              cases loaded : loadSources disk (first :: others) with
              | error error => simp [loaded, Run.ofError] at finished
              | ok modules =>
                  simp only [loaded] at finished
                  refine ⟨_, rfl, ?_⟩
                  exact emit_modules_finished what ⟨project, _, modules⟩ disk wet finished

theorem audit_normal [Parser] (what : Inspection) (start : String) (disk : Disk)
    (files : what.schemaOnly = false) :
    audit what start disk =
      match inspection what start disk with
      | .error error => .ofError disk error
      | .ok report => ⟨disk, .ofPassed report.passed, reportText what.asJson report, ""⟩ := by
  rw [audit, inspection, prepare]
  cases discover disk start with
  | error error => rfl
  | ok project =>
      simp only [files, inspectFiles]
      cases selectSources project disk (what.pattern.getD project.options.moduleGlob) with
      | error error => rfl
      | ok sources =>
          simp only
          cases loadSources disk sources with
          | error error => rfl
          | ok modules => rfl

theorem written_spared (files : List Emit.GeneratedFile) : Project.Spares (Emit.WrittenBy files) := by
  rintro name own names ⟨file, -, others, same⟩
  have last : name = file.kind.fileName := by
    simpa using congrArg List.getLast? same
  rw [last] at own
  revert own
  cases file.kind <;> decide

theorem emitted_plain (what : Generation) (p : Prepared) (plain : what.noHeader = false) :
    emitted what p = (Emit.emitAll p.project.options.settings p.modules).1 := by
  simp only [emitted, plain, Bool.not_false, Bool.and_true]

-- What a generation that has come to its end leaves: all that is emitted is in its place, and what
-- was prepared before is what would be prepared now.
structure Settled (what : Generation) (start : String) (p : Prepared) (disk : Disk) : Prop where
  sound : disk.Sound
  prepared : prepare what.pattern start disk = .ok p
  present : Audit.Present (what.directory.getD p.project.outputDir) disk (emitted what p).files
  clear : disk.AbsentOrDirectory (what.directory.getD p.project.outputDir)
  listable : disk.withholds (disk.landing (what.directory.getD p.project.outputDir)) = none

theorem writing_settled (what : Generation) (start : String) (disk : Disk) (sound : disk.Sound)
    (p : Prepared) (plain : what.noHeader = false)
    (prepared : prepare what.pattern start disk = .ok p)
    (clear : disk.AbsentOrDirectory (what.directory.getD p.project.outputDir))
    (listable : disk.withholds (disk.landing (what.directory.getD p.project.outputDir)) = none)
    (summary : Emit.Summary) (outcome : (writing what p disk).outcome = .ok summary) :
    (writing what p disk).disk.here = disk.here ∧
      Settled what start p (writing what p disk).disk := by
  obtain ⟨pattern, selection⟩ := prepared_selection what.pattern start disk sound p prepared
  have placed : ∀ file ∈ (emitted what p).files,
      Emit.Placed file ∧ Files.IsName file.module := by
    intro file member
    rw [emitted_plain what p plain] at member
    obtain ⟨placed, m, inModules, named⟩ := Emit.emit_all_placed _ _ file member
    exact ⟨placed, named ▸ selection.names_plain m inModules⟩
  have distinct : ((emitted what p).files.map Emit.key).Nodup := by
    rw [emitted_plain what p plain]
    exact Emit.emit_all_distinct _ _ selection.names_distinct
  obtain ⟨grew, reads⟩ := Emit.write_files_hold _ _ disk placed distinct summary outcome
  have soundAfter := Disk.sound_grew _ disk _ grew sound
  refine ⟨grew.same_place, soundAfter, ?_, fun file member => ⟨(placed file member).1, reads file member⟩,
    ?_, ?_⟩
  · exact prepare_grew _ disk _ grew sound (written_spared _) what.pattern start p prepared
  · cases files : (emitted what p).files with
    | nil =>
        rw [writing, files]
        exact clear
    | cons file rest =>
        have member : file ∈ (emitted what p).files := files ▸ List.mem_cons_self
        exact Emit.directory_of_placed _ soundAfter _ file (placed file member).1
          (placed file member).2 _ (reads file member)
  · rw [writing, Disk.landing_grew _ disk _ grew]
    exact Disk.granted_grew _ disk _ grew _ listable

theorem settled_inspection [Parser] (made : Generation) (what : Inspection) (start : String)
    (p : Prepared) (disk : Disk) (samePattern : what.pattern = made.pattern)
    (sameDirectory : what.directory = made.directory) (plain : made.noHeader = false)
    (settled : Settled made start p disk) :
    ∃ report, inspection what start disk = .ok report ∧
      report.failures = (emitted made p).failures ∧ OnlyExtra report.findings ∧
      report.passed = (emitted made p).failures.isEmpty := by
  obtain ⟨pattern, selection⟩ := prepared_selection _ start disk settled.sound p settled.prepared
  have output := Emit.emit_all_eq p.project.options.settings p.modules
  rw [← emitted_plain made p plain] at output
  have present := settled.present
  rw [output] at present ⊢
  obtain ⟨report, audited, mode, failures, extra⟩ :=
    Audit.audit_files_clean p.project.options.settings _ disk p.modules p.pattern pattern
      selection.parsed selection.names_match present settled.clear settled.listable
  refine ⟨report, ?_, failures, extra, ?_⟩
  · rw [inspection, samePattern, sameDirectory, settled.prepared]
    exact (map_error_ok_iff _ _ _).mpr audited
  · rw [Audit.passed_iff_no_failures report mode extra, failures]

-- The output directory is not there when the generation starts, or it may be listed.
theorem audit_after_generate_is_clean [Parser] (disk : Disk) (sound : disk.Sound)
    (dir name out : Option String) (asJson : Bool)
    (clear : ∀ project,
      Project.discover disk (dir.getD (Disk.absolute disk.here)) = .ok project →
        disk.AbsentOrDirectory (out.getD project.outputDir) ∧
          disk.withholds (disk.landing (out.getD project.outputDir)) = none)
    (finished : let made := Invocation.run ⟨dir, .generate ⟨name, out, false, false⟩⟩ disk
      made.status.code = 0 ∨ made.status.code = 1) :
    let start := dir.getD (Disk.absolute disk.here)
    let made := Invocation.run ⟨dir, .generate ⟨name, out, false, false⟩⟩ disk
    let checked := Invocation.run ⟨dir, .audit ⟨name, false, asJson, out⟩⟩ made.disk
    ∃ output report,
      emission ⟨name, out, false, false⟩ start disk = .ok output ∧
      made.err = failureLines output.failures ∧
      inspection ⟨name, false, asJson, out⟩ start made.disk = .ok report ∧
      checked = ⟨made.disk, made.status, reportText asJson report, ""⟩ ∧
      report.failures = output.failures ∧
      ∀ finding ∈ report.findings,
        finding.severity ≠ .missing ∧ finding.severity ≠ .mismatched := by
  intro start made checked
  have unbroken : made.status ≠ .broken := by
    intro broken
    have code : made.status.code = 2 := by rw [broken]; rfl
    rcases finished with passed | failed
    · exact absurd (passed.symm.trans code) (by decide)
    · exact absurd (failed.symm.trans code) (by decide)
  obtain ⟨p, prepared, done⟩ :=
    generate_finished ⟨name, out, false, false⟩ start disk rfl unbroken
  obtain ⟨all, sources, prepares⟩ := (prepare_ok name start disk p).mp prepared
  obtain ⟨summary, outcome⟩ := done.written
  obtain ⟨absentOrThere, listable⟩ := clear p.project prepares.discovered
  obtain ⟨here, settled⟩ := writing_settled ⟨name, out, false, false⟩ start disk sound p rfl prepared
    absentOrThere listable summary outcome
  obtain ⟨report, inspected, failures, extra, passed⟩ :=
    settled_inspection ⟨name, out, false, false⟩ ⟨name, false, asJson, out⟩ start p _ rfl rfl rfl
      settled
  have sameDisk : made.disk = (writing ⟨name, out, false, false⟩ p disk).disk := done.disk_eq
  rw [← sameDisk] at inspected here
  have again : checked = audit ⟨name, false, asJson, out⟩ start made.disk := by
    change audit _ (dir.getD (Disk.absolute made.disk.here)) made.disk = _
    rw [here]
  have status : made.status = .ofPassed report.passed := done.status_eq.trans (by rw [passed])
  refine ⟨_, report, (map_ok_iff _ _ _).mpr ⟨p, prepared, rfl⟩, done.err_eq, inspected, ?_, failures,
    fun finding member => ?_⟩
  · rw [again, audit_normal _ start made.disk rfl, inspected, status]
  · rw [extra finding member]
    decide

def shop : Disk where
  root := .directory [("shop", .directory
    [("schema", .directory
      [("users-api", .directory [("models.yaml", .file (String.toUTF8
        "entities: [\x7b name: User, fields: [\x7b name: id, type: uuid \x7d] \x7d]\n"))])]),
     ("generated", .directory [])])]
  here := ["shop"]

theorem shop_sound : shop.Sound := by
  have users := Files.tidy_directory
    [("models.yaml", .file (String.toUTF8
      "entities: [\x7b name: User, fields: [\x7b name: id, type: uuid \x7d] \x7d]\n"))]
    (by simp) (by simpa using ⟨by decide, Files.tidy_file _⟩)
  have schema := Files.tidy_directory [("users-api", .directory _)] (by simp)
    (by simpa using ⟨by decide, users⟩)
  have generated := Files.tidy_directory [] List.nodup_nil (by simp)
  have project := Files.tidy_directory [("schema", .directory _), ("generated", .directory [])]
    (by simp) (by simpa using ⟨⟨by decide, schema⟩, by decide, generated⟩)
  exact ⟨Files.tidy_directory [("shop", .directory _)] (by simp) (by simpa using ⟨by decide, project⟩),
    ["schema", "generated"], rfl⟩

def generateShop : Run :=
  Invocation.run ⟨none, .generate ⟨none, some "generated", false, false⟩⟩ shop

theorem shop_generated_and_audited :
    shop.Sound ∧ shop.isDirectory "generated" = true ∧ generateShop.status.code = 0 ∧
      generateShop.disk.isFile "generated/users-api/types.ts" = true ∧
      ∃ report,
        Invocation.run ⟨none, .audit ⟨none, false, true, some "generated"⟩⟩ generateShop.disk =
          ⟨generateShop.disk, generateShop.status, reportText true report, ""⟩ ∧
        ∀ finding ∈ report.findings,
          finding.severity ≠ .missing ∧ finding.severity ≠ .mismatched := by
  have clear : shop.isDirectory "generated" = true := by decide +kernel
  -- In one step, so that the run is evaluated once.
  have ⟨code, written⟩ : generateShop.status.code = 0 ∧
      generateShop.disk.isFile "generated/users-api/types.ts" = true := by decide +kernel
  obtain ⟨output, report, -, -, -, checked, -, clean⟩ :=
    audit_after_generate_is_clean shop shop_sound none none (some "generated") true
      (fun _ _ => ⟨.inr clear, rfl⟩) (.inl code)
  exact ⟨shop_sound, clear, code, written, report, checked, clean⟩

end ApiContract.Command
