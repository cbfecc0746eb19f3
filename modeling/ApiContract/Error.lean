import ApiContract.Code.Fragment
import ApiContract.Json.Reader
import ApiContract.Project.Basic

/-!
All that can go wrong, and how it is told.
-/

set_option autoImplicit false

namespace ApiContract

inductive JsonError where
  | malformed (fault : Json.SyntaxFault)
  | record (fault : Record.Fault)

def JsonError.message : JsonError → String
  | .malformed fault => fault.message
  | .record fault => fault.message .json

inductive Error where
  | schema (error : Schema.LoadError)
  | emission (error : Emit.EmitError)
  | fragment (error : Code.ConfigError)
  | options (fault : Project.OptionsFault)
  | optionsFile (path : String) (fault : Project.OptionsFault)
  | schemaDirectoryMissing (path : String)
  | pattern (error : Glob.PatternError)
  | file (fault : Files.Fault)
  | yaml (error : Yaml.Error)
  | json (error : JsonError)

namespace Error

def summary : List Schema.Violation → String
  | [] => "no violations"
  | [only] => only.message
  | first :: rest => first.message ++ " (and " ++ toString rest.length ++ " more)"

def yamlMessage (error : Yaml.Error) : String :=
  "YAML error: " ++ error.message

def placeSuffix : Option Yaml.Mark → String
  | some mark =>
      " (line " ++ toString (mark.line + 1) ++ ", column " ++ toString (mark.column + 1) ++ ")"
  | none => ""

def schemaMessage : Schema.LoadError → String
  | .malformed path cause =>
      "Schema parse error in " ++ path ++ placeSuffix cause.mark? ++ ": " ++ cause.message
  | .unsound module violations =>
      "Schema integrity error in module '" ++ module ++ "': " ++ summary violations

def optionsMessage : Project.OptionsFault → String
  | .malformed cause => yamlMessage cause
  | .unsupportedVersion version =>
      "Config error: Unsupported config version: " ++ toString version

def message : Error → String
  | .schema error => schemaMessage error
  | .emission error => error.message
  | .fragment error => error.message
  | .options fault => optionsMessage fault
  | .optionsFile path fault => "Config error: " ++ path ++ ": " ++ optionsMessage fault
  | .schemaDirectoryMissing path => "Config error: Schema directory not found: " ++ path
  | .pattern error => "Invalid module pattern: " ++ error.message
  | .file fault => "IO error: " ++ fault.message
  | .yaml error => yamlMessage error
  | .json error => "JSON error: " ++ error.message

def ofSource : Schema.SourceError → Error
  | .file fault => .file fault
  | .load error => .schema error

def ofOptions : Project.LoadFault → Error
  | .file fault => .file fault
  | .options path fault => .optionsFile path fault

def ofListing : Project.ListFault → Error
  | .directoryMissing path => .schemaDirectoryMissing path
  | .file fault => .file fault

end Error

def Code.Fragment.ofJsonText (text : String) : Except Error Code.Fragment :=
  match Json.parse text with
  | .error fault => .error (.json (.malformed fault))
  | .ok value => (Code.Fragment.ofJson value).mapError .fragment

def Code.Fragment.ofYamlText (text : String) : Except Error Code.Fragment :=
  match Yaml.jsonOfText text with
  | .error error => .error (.yaml error)
  | .ok value => (Code.Fragment.ofJson value).mapError .fragment

end ApiContract
