import ApiContract.Audit.Files
import ApiContract.Audit.Schemas
import ApiContract.Command.Arguments
import ApiContract.Emit.Write
import ApiContract.Error
import ApiContract.Script.Reader

/-!
The command: a run takes a disk to what it prints, to whether it passed, and to the disk that it
leaves. Only generation changes files.
-/

set_option autoImplicit false

namespace ApiContract.Command

open Files (Disk)
open Script (Parser)

inductive Status where
  | passed
  | failed
  | broken
deriving DecidableEq

def Status.code : Status → Nat
  | .passed => 0
  | .failed => 1
  | .broken => 2

def Status.ofPassed (passed : Bool) : Status :=
  if passed then .passed else .failed

structure Run where
  disk : Disk
  status : Status
  out : String
  err : String

def Run.ofError (disk : Disk) (error : Error) : Run :=
  ⟨disk, .broken, "", "Error: " ++ error.message ++ "\n"⟩

def onLines (texts : List String) : String :=
  String.join (texts.map fun text => text ++ "\n")

def selectSources (project : Project) (disk : Disk) (pattern : String) :
    Except Error (List Schema.Source) :=
  match project.sources disk with
  | .error fault => .error (.ofListing fault)
  | .ok sources => (Project.select sources pattern).mapError .pattern

def discover (disk : Disk) (start : String) : Except Error Project :=
  (Project.discover disk start).mapError .ofOptions

def loadSources (disk : Disk) (sources : List Schema.Source) : Except Error (List Schema.Module) :=
  (Schema.loadAll disk sources).mapError .ofSource

def tally (output : Emit.Output) (modules : List Schema.Module) : String :=
  "\n" ++ toString output.files.length ++ " module file(s) from " ++ toString modules.length ++
    " schema module(s), " ++ toString output.failures.length ++ " failure(s)\n"

def Run.ofOutput (disk : Disk) (files : String) (output : Emit.Output)
    (modules : List Schema.Module) : Run :=
  ⟨disk, .ofPassed output.failures.isEmpty, files ++ tally output modules,
    onLines (output.failures.map fun failure => "✗ " ++ failure.describe)⟩

-- Emits the files of some modules; they are written unless the run is a dry one.
def emitModules (what : Generation) (project : Project) (disk : Disk)
    (modules : List Schema.Module) : Run :=
  let settings := project.options.settings
  let output := (Emit.emitAll { settings with header := settings.header && !what.noHeader } modules).1
  let directory := what.directory.getD project.outputDir
  if what.dryRun then
    let line (file : Emit.GeneratedFile) : String :=
      file.hash ++ "  " ++ joinPath directory file.path
    .ofOutput disk (onLines (output.files.map line)) output modules
  else
    let writing := Emit.writeFiles directory disk output.files
    match writing.outcome with
    | .error fault => .ofError writing.disk (.file fault)
    | .ok summary =>
        let lines := summary.written.map (fun path => "✓ wrote " ++ path) ++
          summary.unchanged.map fun path => "  unchanged " ++ path
        .ofOutput writing.disk (onLines lines) output modules

def generate (what : Generation) (start : String) (disk : Disk) : Run :=
  match discover disk start with
  | .error error => .ofError disk error
  | .ok project =>
      let pattern := what.pattern.getD project.options.moduleGlob
      match selectSources project disk pattern with
      | .error error => .ofError disk error
      | .ok [] => ⟨disk, .passed, "No schema modules match '" ++ pattern ++ "'\n", ""⟩
      | .ok sources =>
          match loadSources disk sources with
          | .error error => .ofError disk error
          | .ok modules => emitModules what project disk modules

def auditError : Audit.AuditFault → Error
  | .pattern error => .pattern error
  | .file fault => .file fault

def inspectSchemas (project : Project) (disk : Disk) (pattern : String) :
    Except Error Audit.Report :=
  match project.sources disk with
  | .error fault => .error (.ofListing fault)
  | .ok sources =>
      ((Audit.auditSchemas disk sources pattern).mapError .pattern).map Prod.fst

def inspectFiles [Parser] (project : Project) (disk : Disk) (pattern directory : String) :
    Except Error Audit.Report :=
  match selectSources project disk pattern with
  | .error error => .error error
  | .ok sources =>
      match loadSources disk sources with
      | .error error => .error error
      | .ok modules =>
          (Audit.auditFiles project.options.settings directory disk modules pattern).1.mapError
            auditError

def audit [Parser] (what : Inspection) (start : String) (disk : Disk) : Run :=
  match discover disk start with
  | .error error => .ofError disk error
  | .ok project =>
      let pattern := what.pattern.getD project.options.moduleGlob
      let report :=
        if what.schemaOnly then inspectSchemas project disk pattern
        else inspectFiles project disk pattern (what.directory.getD project.outputDir)
      match report with
      | .error error => .ofError disk error
      | .ok report =>
          let text := if what.asJson then report.toJson.pretty ++ "\n" else report.render
          ⟨disk, .ofPassed report.passed, text, ""⟩

def render (file start : String) (disk : Disk) : Run :=
  let path := joinPath start file
  match disk.readText path with
  | .error fault => .ofError disk (.file fault)
  | .ok text =>
      let fragment :=
        if Files.extension? path == some "json" then Code.Fragment.ofJsonText text
        else Code.Fragment.ofYamlText text
      match fragment with
      | .error error => .ofError disk error
      | .ok fragment => ⟨disk, .passed, fragment.render ++ "\n", ""⟩

def formatList : String :=
  onLines
    ["Available schemas:",
     "  models   models.yaml (entities, fields, relations)",
     "  api      api.yaml (operations)",
     "  config   sdkforge.yaml (project configuration)",
     "",
     "Usage: sdkforge schema <name>"]

def describeFormat (format : Option FileFormat) (disk : Disk) : Run :=
  match format with
  | some format => ⟨disk, .passed, format.schema.pretty ++ "\n", ""⟩
  | none => ⟨disk, .passed, formatList, ""⟩

-- Does what is asked for. Without a directory to start in, the current one is taken.
def Invocation.run [Parser] (what : Invocation) (disk : Disk) : Run :=
  let start := what.start.getD (Disk.absolute disk.here)
  match what.action with
  | .generate options => generate options start disk
  | .audit options => audit options start disk
  | .render file => render file start disk
  | .schema format => describeFormat format disk

def usage : String :=
  onLines
    ["Usage: sdkforge [-C DIR] [-v] <command>",
     "",
     "  generate [NAME] [-o DIR] [--dry-run] [--no-header]",
     "  audit [NAME] [--schema] [--json] [-o DIR]",
     "  render FILE",
     "  schema [NAME]"]

def versionLine : String := "sdkforge 0.0.2\n"

def needsFiles (arguments : List String) : Bool :=
  match Invocation.ofArguments arguments with
  | .ok ⟨_, .schema _⟩ => false
  | .ok _ => true
  | .error _ => false

def run [Parser] (arguments : List String) (disk : Disk) : Run :=
  match Invocation.ofArguments arguments with
  | .error .version => ⟨disk, .passed, versionLine, ""⟩
  | .error .help => ⟨disk, .passed, usage, ""⟩
  | .error .usage => ⟨disk, .broken, "", usage⟩
  | .ok what => what.run disk

end ApiContract.Command
