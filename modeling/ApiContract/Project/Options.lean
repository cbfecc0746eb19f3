import ApiContract.Emit.Output
import ApiContract.Text.Blank
import ApiContract.Yaml.Decode

/-!
The options of a project: where its schemas and its generated files are, and what is generated.
-/

set_option autoImplicit false

namespace ApiContract.Project

open Yaml (Layout readFlag readMap readRecord readText readTextAs readWord32)

structure Options where
  version : Nat := 1
  schemaDir : String := "schema"
  outputDir : String := "generated"
  moduleGlob : String := "*-api"
  header : Bool := true
  types : List (String × String) := []

inductive OptionsFault where
  | malformed (cause : Yaml.Error)
  | unsupportedVersion (version : Nat)

namespace Options

def layout : Layout Options where
  title := "struct ProjectConfig"
  names := ["version", "schema_dir", "output_dir", "module_glob", "header", "types"]
  empty := {}
  put s name path node :=
    match name with
    | "version" => do return { s with version := ← readWord32 path node }
    | "schema_dir" => do return { s with schemaDir := ← readTextAs "path string" path node }
    | "output_dir" => do return { s with outputDir := ← readTextAs "path string" path node }
    | "module_glob" => do return { s with moduleGlob := ← readText path node }
    | "header" => do return { s with header := ← readFlag path node }
    | _ => do return { s with types := ← readMap readText path node }

-- Reads options; what is not said has a default. There is only one version.
def ofYaml (text : String) : Except OptionsFault Options :=
  if (Text.trim text.toList).isEmpty then .ok {}
  else
    match Yaml.readDocument (readRecord layout fun s => .ok s) {} text with
    | .error cause => .error (.malformed cause)
    | .ok options =>
        if options.version = 1 then .ok options else .error (.unsupportedVersion options.version)

def toJson (o : Options) : Json :=
  .object ([("version", .int o.version), ("schema_dir", .text o.schemaDir),
    ("output_dir", .text o.outputDir), ("module_glob", .text o.moduleGlob),
    ("header", .bool o.header)] ++
    (if o.types.isEmpty then []
     else [("types", .object (o.types.map fun entry => (entry.1, .text entry.2)))]))

def settings (o : Options) : Emit.Settings :=
  ⟨TypeMap.withTypes o.types, o.header⟩

end Options

end ApiContract.Project
