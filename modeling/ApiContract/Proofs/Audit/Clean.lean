import ApiContract.Proofs.Audit.Workers
import ApiContract.Proofs.Emit.Write

/-!
Auditing a disk that holds every file that is emitted: nothing is missing and nothing differs, and
what fails is what could not be emitted.
-/

set_option autoImplicit false

namespace ApiContract.Audit

open Emit (FileKind GeneratedFile Placed Settings failuresOf filesOf)
open Files (Disk)
open Script (Parser)

def OnlyExtra (findings : List Finding) : Prop :=
  ∀ finding ∈ findings, finding.severity = .extra

def Present (directory : String) (disk : Disk) (files : List GeneratedFile) : Prop :=
  ∀ file ∈ files, Placed file ∧ disk.readText (joinPath directory file.path) = .ok file.content

theorem only_extra_append (first others : List Finding) :
    OnlyExtra (first ++ others) ↔ OnlyExtra first ∧ OnlyExtra others :=
  List.forall_mem_append

theorem compare_file_clean [Parser] (directory : String) (disk : Disk) (file : GeneratedFile)
    (placed : Placed file)
    (reads : disk.readText (joinPath directory file.path) = .ok file.content) :
    (compareFile directory disk file).1 = .ok [] := by
  rw [compareFile]
  simp only [reads, compareTexts, placed.hash_eq, if_true]

theorem unexpected_file_extra (directory : String) (disk : Disk) (module : String)
    (kind : FileKind) : OnlyExtra (unexpectedFile directory disk module kind) := by
  intro finding member
  unfold unexpectedFile at member
  simp only at member
  split at member
  · rw [List.mem_singleton.mp member]
  · cases member

theorem audit_kind_clean [Parser] (directory : String) (disk : Disk) (module : String)
    (expected : List GeneratedFile) (present : Present directory disk expected) (kind : FileKind) :
    ∃ findings, (auditKind directory disk module expected kind).1 = .ok findings ∧
      OnlyExtra findings := by
  rw [auditKind]
  split
  · rename_i file found
    obtain ⟨placed, reads⟩ := present file (List.mem_of_find?_eq_some found)
    exact ⟨[], compare_file_clean directory disk file placed reads, by simp [OnlyExtra]⟩
  · exact ⟨_, rfl, unexpected_file_extra directory disk module kind⟩

theorem audit_kinds_clean [Parser] (directory : String) (disk : Disk) (module : String)
    (expected : List GeneratedFile) (present : Present directory disk expected)
    (kinds : List FileKind) :
    (auditKinds directory disk module expected kinds).1.failures = [] ∧
      OnlyExtra (auditKinds directory disk module expected kinds).1.findings := by
  induction kinds with
  | nil => exact ⟨rfl, by simp [OnlyExtra, auditKinds]⟩
  | cons kind rest ih =>
      obtain ⟨findings, outcome, extra⟩ :=
        audit_kind_clean directory disk module expected present kind
      simp only [auditKinds, outcome]
      exact ⟨ih.1, (only_extra_append _ _).mpr ⟨extra, ih.2⟩⟩

theorem audit_module_clean [Parser] (s : Settings) (directory : String) (disk : Disk)
    (m : Schema.Module) (present : Present directory disk (filesOf s m)) :
    (auditModule s directory disk m).1.failures = failuresOf s m ∧
      OnlyExtra (auditModule s directory disk m).1.findings := by
  rw [filesOf] at present
  cases emitted : (Emit.emitModule s m).1 with
  | error failure =>
      simp only [auditModule, failuresOf, emitted]
      exact ⟨trivial, by simp [OnlyExtra]⟩
  | ok files =>
      rw [emitted] at present
      simp only [auditModule, failuresOf, emitted]
      exact audit_kinds_clean directory disk m.name files present FileKind.all

theorem orphans_extra (directory : String) (disk : Disk) (modules : List Schema.Module)
    (pattern : Glob.Pattern) (clear : disk.AbsentOrDirectory directory)
    (listable : disk.withholds (disk.landing directory) = none) :
    ∃ findings, orphans directory disk modules pattern = .ok findings ∧ OnlyExtra findings := by
  rw [orphans]
  rcases clear with absent | isDirectory
  · exact ⟨[], by rw [Disk.list_unseen disk directory _ absent], by simp [OnlyExtra]⟩
  · obtain ⟨names, listed, resolved, stands⟩ := (Disk.is_directory_iff disk directory).mp isDirectory
    obtain ⟨entries, found, -⟩ := (Files.Entry.shape_at_directory disk.root names listed).mp stands
    rw [← Disk.resolve_landing disk directory names resolved] at listable
    rw [(Disk.list_iff disk directory entries).mpr ⟨names, resolved, found, listable⟩]
    refine ⟨_, rfl, fun finding member => ?_⟩
    obtain ⟨name, -, rfl⟩ := List.mem_map.mp member
    rfl

theorem audit_files_clean [Parser] (s : Settings) (directory : String) (disk : Disk)
    (modules : List Schema.Module) (glob : String) (pattern : Glob.Pattern)
    (parsed : Glob.Pattern.parse glob = .ok pattern)
    (selected : ∀ m ∈ modules, pattern.matches m.name = true)
    (present : Present directory disk (modules.flatMap (filesOf s)))
    (clear : disk.AbsentOrDirectory directory)
    (listable : disk.withholds (disk.landing directory) = none) :
    ∃ report, (auditFiles s directory disk modules glob).1 = .ok report ∧ report.mode = .normal ∧
      report.failures = modules.flatMap (failuresOf s) ∧ OnlyExtra report.findings := by
  obtain ⟨others, scanned, othersExtra⟩ :=
    orphans_extra directory disk modules pattern clear listable
  have clean : ∀ m ∈ modules, (auditModule s directory disk m).1.failures = failuresOf s m ∧
      OnlyExtra (auditModule s directory disk m).1.findings := fun m member =>
    audit_module_clean s directory disk m fun file own =>
      present file (List.mem_flatMap.mpr ⟨m, member, own⟩)
  rw [auditFiles, audit_files_by_eq]
  simp only [parsed, scanned, Audit.selected, List.filter_eq_self.mpr selected, reportOf]
  refine ⟨_, rfl, rfl, ?_, (only_extra_append _ _).mpr ⟨fun finding member => ?_, othersExtra⟩⟩
  · exact List.flatMap_congr fun m member => (clean m member).1
  · obtain ⟨m, inModules, own⟩ := List.mem_flatMap.mp member
    exact (clean m inModules).2 finding own

theorem passed_iff_no_failures (report : Report) (mode : report.mode = .normal)
    (extra : OnlyExtra report.findings) : report.passed = report.failures.isEmpty := by
  rw [Report.passed]
  rw [mode]
  have all : (report.findings.all fun f => decide (f.severity = .extra)) = true := by
    simp only [List.all_eq_true, decide_eq_true_eq]
    exact extra
  simp only [all, Bool.and_true]

end ApiContract.Audit
