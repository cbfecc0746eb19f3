import ApiContract.Audit.Report
import ApiContract.Error

/-!
Auditing schemas alone: whether their files can be read and keep all rules.
-/

set_option autoImplicit false

namespace ApiContract.Audit

open Files (Disk)
open Schema (LoadError Rule Source SourceError Violation)

def ruleSeverity : Rule → Severity
  | .duplicateName => .extra
  | .undefinedRelationTarget _ => .missing
  | .undefinedEntity _ => .missing
  | .unknownRequestField _ _ => .missing
  | _ => .mismatched

def violationFinding (source : Source) (v : Violation) : Finding :=
  ⟨source.name, none, v.subject, .schema, ruleSeverity v.rule, none, some v.message⟩

def placeText : Option Yaml.Mark → String
  | some mark =>
      "line " ++ toString (mark.line + 1) ++ ", column " ++ toString (mark.column + 1)
  | none => "document"

def malformedFinding (source : Source) (path : String) (cause : Yaml.Error) : Finding :=
  ⟨source.name, some path, placeText cause.mark?, .schema, .mismatched,
    some "well-formed schema", some cause.message⟩

-- A file that cannot be read is told as the file of entities, whichever it is.
def unreadableFinding (source : Source) (fault : Files.Fault) : Finding :=
  ⟨source.name, some source.models, source.name, .schema, .missing,
    some "readable schema file", some fault.message⟩

def checkSource (disk : Disk) (source : Source) : Except SourceError (List Finding) :=
  match source.check disk with
  | .ok violations => .ok (violations.map (violationFinding source))
  | .error (.file fault) => .ok [unreadableFinding source fault]
  | .error (.load (.malformed path cause)) => .ok [malformedFinding source path cause]
  | .error error => .error error

def checkSources (disk : Disk) : List Source → Except SourceError (List Finding)
  | [] => .ok []
  | source :: rest =>
      match checkSource disk source with
      | .error error => .error error
      | .ok findings => (checkSources disk rest).map (findings ++ ·)

inductive SchemaFault where
  | pattern (error : Glob.PatternError)
  | source (error : SourceError)

def SchemaAudit := Except SchemaFault (Report × Log)

-- The audit among all errors, where those of a pattern are told in a way of their own.
def SchemaAudit.mapError (audit : SchemaAudit) (ofPattern : Glob.PatternError → Error) :
    Except Error (Report × Log) :=
  match audit with
  | .ok told => .ok told
  | .error (.pattern error) => .error (ofPattern error)
  | .error (.source error) => .error (.ofSource error)

def auditSchemas (disk : Disk) (sources : List Source) (glob : String) : SchemaAudit :=
  match Glob.Pattern.parse glob with
  | .error error => .error (.pattern error)
  | .ok pattern =>
      let selected := sources.filter fun source => pattern.matches source.name
      match checkSources disk selected with
      | .error error => .error (.source error)
      | .ok findings =>
          let log : Log := selected.map fun source => ⟨.debug, "checking schema for " ++ source.name⟩
          let notes : Log :=
            if findings.isEmpty then []
            else [⟨.warn, toString findings.length ++ " schema finding(s)"⟩]
          .ok (⟨.schema, findings, []⟩, log ++ notes)

end ApiContract.Audit
