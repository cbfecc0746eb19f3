import ApiContract.Audit.Diff
import ApiContract.Audit.Report
import ApiContract.Emit.Output
import ApiContract.Files.Disk
import ApiContract.Glob
import ApiContract.Outline.Code

/-!
Auditing generated files: each file that a schema implies is compared with the one on the disk, by
its outline when the texts differ.
-/

set_option autoImplicit false

namespace ApiContract.Audit

open Emit (Failure FileKind GeneratedFile Settings)
open Files (Disk)
open Outline (Module)
open Script (Parser)

structure ModuleAudit where
  findings : List Finding := []
  failures : List Failure := []

def missingFile (file : GeneratedFile) : Finding :=
  ⟨file.module, some file.path, file.path, .file, .missing, some file.hash, none⟩

def warnings (path : String) (found : Module) : Log :=
  match found.syntaxErrors with
  | [] => []
  | first :: _ =>
      [⟨.warn, path ++ " has syntax errors (first at line " ++ toString first.line ++ ", column " ++
        toString first.column ++ ")"⟩]

def compareTexts [Parser] (path : String) (expected : GeneratedFile) (actual : String) :
    List Finding × Log :=
  if Digest.ofText actual = expected.hash then ([], [])
  else
    let found := Module.ofCode actual
    let findings := diff expected.module expected.path (Module.ofCode expected.content) found
    let notes : Log :=
      if findings.isEmpty then [⟨.debug, path ++ " differs only in formatting"⟩] else []
    (findings, warnings path found ++ notes)

def compareFile [Parser] (directory : String) (disk : Disk) (expected : GeneratedFile) :
    Except Files.Fault (List Finding) × Log :=
  let path := joinPath directory expected.path
  match disk.readText path with
  | .ok actual =>
      let result := compareTexts path expected actual
      (.ok result.1, result.2)
  | .error .notFound => (.ok [missingFile expected], [])
  | .error fault => (.error fault, [])

def unexpectedFile (directory : String) (disk : Disk) (module : String) (kind : FileKind) :
    List Finding :=
  let path := kind.path module
  if disk.isFile (joinPath directory path) then
    [⟨module, some path, path, .file, .extra, none, some "present"⟩]
  else []

def auditKind [Parser] (directory : String) (disk : Disk) (module : String)
    (expected : List GeneratedFile) (kind : FileKind) : Except Files.Fault (List Finding) × Log :=
  match expected.find? fun file => decide (file.kind = kind) with
  | some file => compareFile directory disk file
  | none => (.ok (unexpectedFile directory disk module kind), [])

def auditKinds [Parser] (directory : String) (disk : Disk) (module : String)
    (expected : List GeneratedFile) : List FileKind → ModuleAudit × Log
  | [] => ({}, [])
  | kind :: rest =>
      let one := auditKind directory disk module expected kind
      let others := auditKinds directory disk module expected rest
      match one.1 with
      | .ok findings =>
          ({ others.1 with findings := findings ++ others.1.findings }, one.2 ++ others.2)
      | .error fault =>
          let failure : Failure := ⟨module, kind, "IO error: " ++ fault.message⟩
          ({ others.1 with failures := failure :: others.1.failures },
            one.2 ++ ⟨.error, failure.describe⟩ :: others.2)

-- All files of a module. A module that cannot be emitted in full is not compared at all.
def auditModule [Parser] (settings : Settings) (directory : String) (disk : Disk)
    (m : Schema.Module) : ModuleAudit × Log :=
  let emitted := Emit.emitModule settings m
  match emitted.1 with
  | .error failure =>
      ({ failures := [failure] }, emitted.2 ++ [⟨.error, failure.describe⟩])
  | .ok files =>
      let result := auditKinds directory disk m.name files FileKind.all
      (result.1, emitted.2 ++ result.2 ++
        [⟨.debug, m.name ++ ": " ++ toString result.1.findings.length ++ " finding(s)"⟩])

def orphan (name : String) : Finding :=
  ⟨name, some name, name, .file, .extra, none, some "no schema module"⟩

def orphans (directory : String) (disk : Disk) (modules : List Schema.Module)
    (pattern : Glob.Pattern) : Except Files.Fault (List Finding) :=
  match disk.list directory with
  | .error .notFound => .ok []
  | .error fault => .error fault
  | .ok entries =>
      let names := (entries.filter fun entry =>
        entry.2.isDirectory && pattern.matches entry.1 &&
          !modules.any fun m => m.name == entry.1).map Prod.fst
      .ok ((names.mergeSort fun a b => decide (a ≤ b)).map orphan)

inductive AuditFault where
  | pattern (error : Glob.PatternError)
  | file (fault : Files.Fault)

def startMessage (directory glob : String) (count : Nat) : LogEntry :=
  ⟨.info, "auditing " ++ toString count ++ " module(s) matching '" ++ glob ++ "' in " ++ directory⟩

def endMessage (report : Report) : LogEntry :=
  ⟨.info, "audit finished: " ++ toString report.findings.length ++ " finding(s), " ++
    toString report.failures.length ++ " failure(s)"⟩

-- What the worker of a module brings, with the place of the module among all.
abbrev Brought := Nat × ModuleAudit × Log

-- The order in which the workers come to an end. Each of them does.
structure Finish where
  order : List Brought → List Brought
  keeps_all : ∀ brought, (order brought).Perm brought

def Finish.inTurn : Finish := ⟨id, fun _ => .refl _⟩

def byPlace (brought : List Brought) : List Brought :=
  brought.mergeSort fun a b => decide (a.1 ≤ b.1)

-- Audits the modules whose names match a pattern, each by a worker of its own, and tells which
-- directories belong to no module. The log has the order in which the workers come to an end, the
-- report has that of the modules.
def auditFilesBy [Parser] (finish : Finish) (settings : Settings) (directory : String) (disk : Disk)
    (modules : List Schema.Module) (glob : String) : Except AuditFault Report × Log :=
  match Glob.Pattern.parse glob with
  | .error e => (.error (.pattern e), [])
  | .ok pattern =>
      let selected := modules.zipIdx.filter fun m => pattern.matches m.1.name
      let brought := finish.order (selected.map fun m =>
        (m.2, auditModule settings directory disk m.1))
      let log := startMessage directory glob selected.length :: brought.flatMap fun one => one.2.2
      match orphans directory disk modules pattern with
      | .error fault => (.error (.file fault), log)
      | .ok others =>
          let audits := (byPlace brought).map fun one => one.2.1
          let report : Report :=
            ⟨.normal, (audits.flatMap fun a => a.findings) ++ others,
              audits.flatMap fun a => a.failures⟩
          (.ok report, log ++ [endMessage report])

def auditFiles [Parser] : Settings → String → Disk → List Schema.Module → String →
    Except AuditFault Report × Log :=
  auditFilesBy .inTurn

end ApiContract.Audit
