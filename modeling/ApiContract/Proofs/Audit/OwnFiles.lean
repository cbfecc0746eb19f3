import ApiContract.Proofs.Audit.Workers
import ApiContract.Proofs.Emit.Output

/-!
The audit of a module reads the two files of the module and tells of these alone, so that in a
report the findings of a module can be told from those of others by its name.
-/

set_option autoImplicit false

namespace ApiContract.Audit

open Emit (Failure FileKind GeneratedFile Placed Settings)
open Files (Disk)
open Script (Parser)

def Finding.IsAbout (f : Finding) (module path : String) : Prop :=
  f.module = module ∧ f.file = some path

theorem diff_about (module path : String) (expected actual : Outline.Module) :
    ∀ f ∈ diff module path expected actual, f.IsAbout module path := by
  intro f member
  obtain ⟨difference, -, rfl⟩ := List.mem_map.mp member
  exact ⟨rfl, rfl⟩

theorem compare_texts_about [Parser] (path : String) (file : GeneratedFile) (actual : String) :
    ∀ f ∈ (compareTexts path file actual).1, f.IsAbout file.module file.path := by
  rw [compareTexts]
  split
  · simp
  · exact diff_about file.module file.path _ _

section Module

variable (directory : String) (disk : Disk) (module : String)

theorem compare_file_about [Parser] (file : GeneratedFile) (findings : List Finding)
    (compared : (compareFile directory disk file).1 = .ok findings) :
    ∀ f ∈ findings, f.IsAbout file.module file.path := by
  rw [compareFile] at compared
  simp only at compared
  split at compared
  · cases compared
    exact compare_texts_about _ file _
  · cases compared
    simp [missingFile, Finding.IsAbout]
  · cases compared

theorem unexpected_file_about (kind : FileKind) :
    ∀ f ∈ unexpectedFile directory disk module kind, f.IsAbout module (kind.path module) := by
  intro f member
  unfold unexpectedFile at member
  simp only at member
  split at member
  · rw [List.mem_singleton.mp member]
    exact ⟨rfl, rfl⟩
  · cases member

def OwnFiles (expected : List GeneratedFile) : Prop :=
  ∀ file ∈ expected, Placed file ∧ file.module = module

variable {expected : List GeneratedFile} (own : OwnFiles module expected)

include own

theorem found_own (kind : FileKind) (file : GeneratedFile)
    (found : expected.find? (fun file => decide (file.kind = kind)) = some file) :
    file.module = module ∧ file.path = kind.path module := by
  obtain ⟨placed, named⟩ := own file (List.mem_of_find?_eq_some found)
  have sameKind : file.kind = kind := by simpa using List.find?_some found
  exact ⟨named, by rw [placed.path_eq, named, sameKind]⟩

theorem audit_kind_about [Parser] (kind : FileKind) (findings : List Finding)
    (audited : (auditKind directory disk module expected kind).1 = .ok findings) :
    ∀ f ∈ findings, f.IsAbout module (kind.path module) := by
  rw [auditKind] at audited
  split at audited
  · rename_i file found
    obtain ⟨named, path⟩ := found_own module own kind file found
    have about := compare_file_about directory disk file findings audited
    rwa [named, path] at about
  · cases audited
    exact unexpected_file_about directory disk module kind

omit own in
theorem audit_kinds_about [Parser] (kinds : List FileKind) :
    (∀ f ∈ (auditKinds directory disk module expected kinds).1.findings, ∃ kind findings,
        (auditKind directory disk module expected kind).1 = .ok findings ∧ f ∈ findings) ∧
      ∀ f ∈ (auditKinds directory disk module expected kinds).1.failures, f.module = module := by
  induction kinds with
  | nil => simp [auditKinds]
  | cons kind rest ih =>
      rw [auditKinds]
      simp only
      cases audited : (auditKind directory disk module expected kind).1 with
      | error fault =>
          exact ⟨ih.1, List.forall_mem_cons.mpr ⟨rfl, ih.2⟩⟩
      | ok findings =>
          simp only [List.forall_mem_append]
          exact ⟨⟨fun f member => ⟨kind, findings, audited, member⟩, ih.1⟩, ih.2⟩

end Module

theorem emit_kinds_named (s : Settings) (m : Schema.Module) (kinds : List FileKind)
    (failure : Failure) (fails : (Emit.emitKinds s m kinds).1 = .error failure) :
    failure.module = m.name := by
  induction kinds with
  | nil => cases fails
  | cons kind rest ih =>
      rw [Emit.emitKinds] at fails
      split at fails
      · cases fails
        rfl
      · exact ih fails
      · cases others : (Emit.emitKinds s m rest).1 with
        | error later =>
            simp only [others] at fails
            exact ih (others.trans fails)
        | ok files =>
            simp only [others] at fails
            cases fails

theorem audit_module_named [Parser] (s : Settings) (directory : String) (disk : Disk)
    (m : Schema.Module) :
    (∀ f ∈ (auditModule s directory disk m).1.findings, f.module = m.name) ∧
      ∀ f ∈ (auditModule s directory disk m).1.failures, f.module = m.name := by
  rw [auditModule]
  cases emitted : (Emit.emitModule s m).1 with
  | error failure => simpa using emit_kinds_named s m _ failure emitted
  | ok files =>
      have own : OwnFiles m.name files := (Emit.emit_module_placed s m files emitted).1
      obtain ⟨findings, failures⟩ :=
        audit_kinds_about directory disk m.name FileKind.all
      refine ⟨fun f member => ?_, failures⟩
      obtain ⟨kind, told, audited, inTold⟩ := findings f member
      exact (audit_kind_about directory disk m.name own kind told audited f inTold).1

-- What an audit asks a disk about a module.
structure ReadsAlike (directory module : String) (first second : Disk) : Prop where
  read_eq : ∀ kind : FileKind, first.readText (joinPath directory (kind.path module)) =
    second.readText (joinPath directory (kind.path module))
  file_eq : ∀ kind : FileKind, first.isFile (joinPath directory (kind.path module)) =
    second.isFile (joinPath directory (kind.path module))

theorem audit_kinds_same [Parser] (directory module : String) (first second : Disk)
    (alike : ReadsAlike directory module first second) (expected : List GeneratedFile)
    (own : OwnFiles module expected) (kinds : List FileKind) :
    auditKinds directory first module expected kinds =
      auditKinds directory second module expected kinds := by
  have each (kind : FileKind) : auditKind directory first module expected kind =
      auditKind directory second module expected kind := by
    rw [auditKind, auditKind]
    cases found : expected.find? fun file => decide (file.kind = kind) with
    | none => simp only [unexpectedFile, alike.file_eq kind]
    | some file =>
        simp only [compareFile, (found_own module own kind file found).2, alike.read_eq kind]
  induction kinds with
  | nil => rfl
  | cons kind rest ih => rw [auditKinds, auditKinds, each kind, ih]

theorem audit_module_same [Parser] (s : Settings) (directory : String) (first second : Disk)
    (m : Schema.Module) (alike : ReadsAlike directory m.name first second) :
    auditModule s directory first m = auditModule s directory second m := by
  rw [auditModule, auditModule]
  cases emitted : (Emit.emitModule s m).1 with
  | error failure => rfl
  | ok files =>
      simp only
      rw [audit_kinds_same directory m.name first second alike files
        (Emit.emit_module_placed s m files emitted).1]

def Report.findingsOf (r : Report) (module : String) : List Finding :=
  r.findings.filter fun f => f.module == module

def Report.failuresOf (r : Report) (module : String) : List Failure :=
  r.failures.filter fun f => f.module == module

-- Where each item brings what bears its name, and no name is repeated, what bears the name of an
-- item is what the item brings.
theorem filter_own {α β : Type} (name : α → String) (tag : β → String) (brings : α → List β)
    (items : List α) (distinct : (items.map name).Nodup)
    (tagged : ∀ a ∈ items, ∀ b ∈ brings a, tag b = name a) (a : α) (member : a ∈ items) :
    (items.flatMap brings).filter (fun b => tag b == name a) = brings a := by
  induction items with
  | nil => cases member
  | cons first rest ih =>
      obtain ⟨fresh, distinctRest⟩ := List.nodup_cons.mp distinct
      obtain ⟨taggedFirst, taggedRest⟩ := List.forall_mem_cons.mp tagged
      rw [List.flatMap_cons, List.filter_append]
      rcases List.mem_cons.mp member with rfl | below
      · have kept : (brings a).filter (fun b => tag b == name a) = brings a :=
          List.filter_eq_self.mpr fun b inOwn => by simpa using taggedFirst b inOwn
        have dropped : (rest.flatMap brings).filter (fun b => tag b == name a) = [] := by
          refine List.filter_eq_nil_iff.mpr fun b inRest => ?_
          obtain ⟨other, inItems, inOther⟩ := List.mem_flatMap.mp inRest
          have different : name other ≠ name a := fun same =>
            fresh (same ▸ List.mem_map_of_mem inItems)
          simpa [taggedRest other inItems b inOther] using different
        rw [kept, dropped, List.append_nil]
      · have different : name first ≠ name a := fun same =>
          fresh (same ▸ List.mem_map_of_mem below)
        have dropped : (brings first).filter (fun b => tag b == name a) = [] :=
          List.filter_eq_nil_iff.mpr fun b inFirst => by
            simpa [taggedFirst b inFirst] using different
        rw [dropped, List.nil_append, ih distinctRest taggedRest below]

theorem orphans_not_of (directory : String) (disk : Disk) (modules : List Schema.Module)
    (pattern : Glob.Pattern) (others : List Finding)
    (scanned : orphans directory disk modules pattern = .ok others) (m : Schema.Module)
    (member : m ∈ modules) : ∀ f ∈ others, f.module ≠ m.name := by
  rw [orphans] at scanned
  split at scanned
  · cases scanned
    simp
  · cases scanned
  · cases scanned
    intro f told
    obtain ⟨name, sorted, rfl⟩ := List.mem_map.mp told
    obtain ⟨entry, kept, rfl⟩ := List.mem_map.mp (List.mem_mergeSort.mp sorted)
    have unknown := (Bool.and_eq_true_iff.mp (List.mem_filter.mp kept).2).2
    simp only [Bool.not_eq_true', List.any_eq_false, beq_iff_eq] at unknown
    exact fun same => unknown m member same.symm

-- In a report a module has what its own audit has brought.
theorem report_of_module [Parser] (s : Settings) (directory : String) (disk : Disk)
    (modules : List Schema.Module) (distinct : (modules.map Schema.Module.name).Nodup)
    (pattern : Glob.Pattern) (others : List Finding)
    (scanned : orphans directory disk modules pattern = .ok others) (m : Schema.Module)
    (member : m ∈ modules) (chosen : pattern.matches m.name = true) :
    let report := reportOf s directory disk (selected modules pattern) others
    report.findingsOf m.name = (auditModule s directory disk m).1.findings ∧
      report.failuresOf m.name = (auditModule s directory disk m).1.failures := by
  have inSelected : m ∈ selected modules pattern := List.mem_filter.mpr ⟨member, chosen⟩
  have distinctSelected : ((selected modules pattern).map Schema.Module.name).Nodup :=
    distinct.sublist (List.filter_sublist.map _)
  have noOrphan : others.filter (fun f => f.module == m.name) = [] :=
    List.filter_eq_nil_iff.mpr fun f told => by
      simpa using orphans_not_of directory disk modules pattern others scanned m member f told
  constructor
  · rw [reportOf, Report.findingsOf, List.filter_append, noOrphan, List.append_nil]
    exact filter_own Schema.Module.name Finding.module _ _ distinctSelected
      (fun n _ => (audit_module_named s directory disk n).1) m inSelected
  · exact filter_own Schema.Module.name Failure.module _ _ distinctSelected
      (fun n _ => (audit_module_named s directory disk n).2) m inSelected

end ApiContract.Audit
