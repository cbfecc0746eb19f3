import ApiContract.Proofs.Audit.Differences
import ApiContract.Proofs.Audit.OwnFiles
import ApiContract.Proofs.Emit.Header
import ApiContract.Proofs.Files.Writing

/-!
A file that was made with a header and one that was made without are the same to an audit, whichever
of the two it expects, and whichever parser reads them that keeps the laws of lines.
-/

set_option autoImplicit false

namespace ApiContract.Audit

open Emit (FileKind GeneratedFile Settings emitFile? emitModule)
open Files (Disk)
open Outline (Declaration Method Property)
open Script (LineLaws Parser isLineEnd)

theorem agrees_self (d : Declaration) (properties : (d.properties.map Property.name).Nodup)
    (methods : (d.methods.map Method.name).Nodup) : Agrees d d where
  kind_eq := rfl
  aliased_eq := rfl
  properties_answered := (answers_iff_perm Property.name _ _ properties properties).mpr (.refl _)
  methods_answered := (answers_iff_perm Method.name _ _ methods methods).mpr (.refl _)

theorem diff_same_declarations (module path : String) (expected actual : Outline.Module)
    (distinct : NamesDistinct expected) (same : expected.declarations = actual.declarations) :
    diff module path expected actual = [] := by
  have each : List.Forall₂ (fun want got => want.name = got.name ∧ Agrees want got)
      expected.declarations expected.declarations :=
    List.forall₂_same.mpr fun d member =>
      ⟨rfl, agrees_self d (distinct.properties d member) (distinct.methods d member)⟩
  rw [diff_none_iff_answers, ← same]
  exact answers_of_reordered Declaration.name Agrees _ _ distinct.declarations _ (.refl _) each

theorem names_distinct_same (first second : Outline.Module) (distinct : NamesDistinct first)
    (same : second.declarations = first.declarations) : NamesDistinct second where
  declarations := same ▸ distinct.declarations
  properties := same ▸ distinct.properties
  methods := same ▸ distinct.methods

theorem kind_path_injective (module : String) (kind other : FileKind)
    (same : kind.path module = other.path module) : kind = other := by
  have chars := congrArg String.toList same
  have relative (kind : FileKind) := (Files.below_name _ (Emit.file_name_is_name kind)).relative
  rw [FileKind.path, FileKind.path, Files.join_path_chars _ _ (relative kind),
    Files.join_path_chars _ _ (relative other)] at chars
  refine Emit.file_name_injective kind other (String.toList_inj.mp ?_)
  split at chars
  · exact chars
  · split at chars
    · exact List.append_cancel_left chars
    · exact (List.cons.inj (List.append_cancel_left chars)).2

theorem emitted_file_found (s : Settings) (m : Schema.Module) (files : List GeneratedFile)
    (emitted : (emitModule s m).1 = .ok files) (kind : FileKind) (file : GeneratedFile)
    (made : emitFile? s m kind = .ok (some file)) :
    files.find? (fun file => decide (file.kind = kind)) = some file := by
  obtain ⟨types, client, typesMade, clientMade, rfl⟩ := (Emit.emit_module_ok s m files).mp emitted
  cases kind with
  | types =>
      rw [emitFile?, typesMade] at made
      obtain ⟨source, rfl, rfl⟩ := Option.map_eq_some_iff.mp (Except.ok.inj made)
      rfl
  | client =>
      rw [emitFile?, clientMade] at made
      obtain ⟨source, rfl, rfl⟩ := Option.map_eq_some_iff.mp (Except.ok.inj made)
      cases types <;> rfl

-- What the audit of a module tells of the path of one kind is what its audit of that kind tells.
theorem module_findings_of_kind [Parser] (s : Settings) (directory : String) (disk : Disk)
    (m : Schema.Module) (kind : FileKind) (f : Finding)
    (told : f ∈ (auditModule s directory disk m).1.findings)
    (about : f.file = some (kind.path m.name)) :
    ∃ files findings, (emitModule s m).1 = .ok files ∧
      (auditKind directory disk m.name files kind).1 = .ok findings ∧ f ∈ findings := by
  rw [auditModule] at told
  cases emitted : (emitModule s m).1 with
  | error failure => simp [emitted] at told
  | ok files =>
      rw [emitted] at told
      have own : OwnFiles m.name files := (Emit.emit_module_placed s m files emitted).1
      obtain ⟨other, findings, outcome, member⟩ :=
        (audit_kinds_about directory disk m.name FileKind.all).1 f told
      have path := (audit_kind_about directory disk m.name own other findings outcome f member).2
      rw [about] at path
      cases kind_path_injective m.name kind other (Option.some.inj path)
      exact ⟨files, findings, rfl, outcome, member⟩

theorem compare_file_same_read [Parser] (directory : String) (disk : Disk) (file : GeneratedFile)
    (actual : String) (reads : disk.readText (joinPath directory file.path) = .ok actual)
    (distinct : NamesDistinct (Outline.Module.ofCode file.content))
    (same : (Outline.Module.ofCode file.content).declarations =
      (Outline.Module.ofCode actual).declarations) :
    (compareFile directory disk file).1 = .ok [] := by
  have none := diff_same_declarations file.module file.path _ _ distinct same
  rw [compareFile]
  simp only [reads, compareTexts, none]
  split <;> rfl

theorem report_findings_of [Parser] (s : Settings) (directory : String) (disk : Disk)
    (modules : List Schema.Module) (distinct : (modules.map Schema.Module.name).Nodup)
    (pattern : Glob.Pattern) (others : List Finding)
    (scanned : orphans directory disk modules pattern = .ok others) (m : Schema.Module)
    (member : m ∈ modules) (f : Finding)
    (told : f ∈ (reportOf s directory disk (selected modules pattern) others).findings)
    (named : f.module = m.name) : f ∈ (auditModule s directory disk m).1.findings := by
  rcases List.mem_append.mp told with ofModule | ofOther
  · obtain ⟨n, chosen, own⟩ := List.mem_flatMap.mp ofModule
    have same := ((audit_module_named s directory disk n).1 f own).symm.trans named
    have inModules := (List.mem_filter.mp chosen).1
    cases List.inj_on_of_nodup_map distinct inModules member same
    exact own
  · exact absurd named
      (orphans_not_of directory disk modules pattern others scanned m member f ofOther)

theorem header_setting_never_drifts [Parser] (laws : LineLaws) (types : TypeMap)
    (m : Schema.Module) (whole : ∀ c ∈ m.name.toList, isLineEnd c = false) (kind : FileKind)
    (bare : GeneratedFile) (emitted : emitFile? ⟨types, false⟩ m kind = .ok (some bare))
    (parses : (Outline.Module.ofCode bare.content).syntaxErrors = []) :
    (∀ header, ∃ file, emitFile? ⟨types, header⟩ m kind = .ok (some file) ∧
        (Outline.Module.ofCode file.content).declarations =
          (Outline.Module.ofCode bare.content).declarations ∧
        (Outline.Module.ofCode file.content).syntaxErrors = []) ∧
      (NamesDistinct (Outline.Module.ofCode bare.content) →
        ∀ (written audited : Bool) (file : GeneratedFile),
          emitFile? ⟨types, written⟩ m kind = .ok (some file) →
          ∀ (directory : String) (disk : Disk),
            disk.readText (joinPath directory (kind.path m.name)) = .ok file.content →
            ∀ (modules : List Schema.Module) (glob : String) (finish : Finish) (report : Report),
              m ∈ modules → (modules.map Schema.Module.name).Nodup →
              (auditFilesBy finish ⟨types, audited⟩ directory disk modules glob).1 = .ok report →
              ∀ f ∈ report.findings, ¬ f.IsAbout m.name (kind.path m.name)) := by
  have always (header : Bool) :=
    Emit.emitted_reads_as_bare laws types m whole kind bare emitted parses header
  refine ⟨always, ?_⟩
  · intro distinct written audited file made directory disk reads modules glob finish report member
      distinctModules outcome f told about
    obtain ⟨one, madeOne, sameOne, -⟩ := always written
    rw [made, Except.ok.injEq, Option.some.injEq] at madeOne
    subst madeOne
    obtain ⟨expected, madeExpected, sameExpected, -⟩ := always audited
    obtain ⟨pattern, others, -, scanned, rfl⟩ := (audit_files_by_ok _ _ _ _ _ _ _).mp outcome
    have own := report_findings_of _ directory disk modules distinctModules pattern others scanned m
      member f told about.1
    obtain ⟨files, findings, all, compared, inFindings⟩ :=
      module_findings_of_kind _ directory disk m kind f own about.2
    have found := emitted_file_found _ m files all kind expected madeExpected
    have placed := found_own m.name (Emit.emit_module_placed _ m files all).1 kind expected found
    have clean := compare_file_same_read directory disk expected file.content (placed.2 ▸ reads)
      (names_distinct_same _ _ distinct sameExpected) (sameExpected.trans sameOne.symm)
    rw [auditKind, found, clean] at compared
    cases compared
    cases inFindings

def stocked (content : String) : Disk where
  root := .directory [("generated", .directory
    [("library-api", .directory [("types.ts", .file content.toUTF8)])])]
  here := []

theorem stocked_reads (content : String) :
    (stocked content).readText (joinPath "generated" (FileKind.types.path "library-api")) =
      .ok content := by
  have isModule : Files.IsName "library-api" := by decide
  have isFile := Emit.file_name_is_name .types
  have inner := Files.below_name _ isFile
  have names : Files.segments (FileKind.types.path "library-api") =
      ["library-api", "types.ts"] := by
    rw [FileKind.path, Files.segments_join _ _ inner.relative, Files.segments_name _ isModule,
      Files.segments_name _ isFile]
    rfl
  have found := Disk.get_join (stocked content) "generated" (FileKind.types.path "library-api")
    (Files.below_join _ _ (Files.below_name _ isModule) inner)
    (by rw [names]; simpa using ⟨isModule, isFile⟩) ["generated"] _ rfl rfl
  rw [names, show Files.Entry.get _ _ = .ok (.file content.toUTF8) from rfl] at found
  rw [Disk.read_text_open _ (fun _ => rfl), found]
  simp only [Disk.decode_encoded]

theorem library_header_never_drifts :
    ∃ bare headed report,
      emitFile? ⟨TypeMap.standard, false⟩ Emit.library .types = .ok (some bare) ∧
      emitFile? ⟨TypeMap.standard, true⟩ Emit.library .types = .ok (some headed) ∧
      (Outline.Module.ofCode bare.content).syntaxErrors = [] ∧
      (Outline.Module.ofCode headed.content).declarations =
        (Outline.Module.ofCode bare.content).declarations ∧
      (auditFilesBy .inTurn ⟨TypeMap.standard, false⟩ "generated" (stocked headed.content)
        [Emit.library] "*").1 = .ok report ∧
      ∀ f ∈ report.findings, ¬ f.IsAbout "library-api" (FileKind.types.path "library-api") := by
  have accepted : Schema.Accepted Emit.library :=
    ⟨"library-api", ⟨Emit.library.entities⟩, ⟨Emit.library.basePath, Emit.library.operations⟩, rfl⟩
  obtain ⟨decls, succeeds⟩ : ∃ decls, Emit.typeDecls TypeMap.standard Emit.library = .ok decls :=
    ⟨_, rfl⟩
  have emitted : emitFile? ⟨TypeMap.standard, false⟩ Emit.library .types =
      .ok (some (Emit.generated Emit.library .types (Code.SourceFile.render ⟨[], [], decls⟩))) := by
    rw [emitFile?, Emit.source?, if_neg (by decide), succeeds]
    rfl
  have read := Emit.types_read_back Emit.library accepted Emit.library_plain (by decide) decls
    succeeds [] (by simp) (Script.reader_follows _)
  have distinct : NamesDistinct ⟨Emit.typesOutline Emit.library, []⟩ :=
    ⟨by decide +kernel, by decide +kernel, by decide +kernel⟩
  rw [← read] at distinct
  have parses := congrArg Outline.Module.syntaxErrors read
  have whole := Emit.hyphen_no_line_end Emit.library.name Emit.library_plain.named
  obtain ⟨alike, clean⟩ := header_setting_never_drifts Script.reader_laws TypeMap.standard
    Emit.library whole .types _ emitted parses
  obtain ⟨headed, made, same, -⟩ := alike true
  obtain ⟨report, audited⟩ : ∃ report, (auditFilesBy .inTurn ⟨TypeMap.standard, false⟩
      "generated" (stocked headed.content) [Emit.library] "*").1 = .ok report :=
    ⟨_, (audit_files_by_ok _ _ _ _ _ _ _).mpr ⟨_, _, rfl, rfl, rfl⟩⟩
  exact ⟨_, headed, report, emitted, made, parses, same, audited,
    clean distinct true false headed made "generated" (stocked headed.content)
      (stocked_reads headed.content) [Emit.library] "*" .inTurn report (by simp) (by decide)
      audited⟩

end ApiContract.Audit
