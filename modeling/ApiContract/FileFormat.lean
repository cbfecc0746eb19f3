import ApiContract.Json.Printer
import ApiContract.Project.Options
import ApiContract.Schema.Model

/-!
The formats of the files of a project, described in JSON Schema.
-/

set_option autoImplicit false

namespace ApiContract

inductive FileFormat where
  | models
  | api
  | options
deriving DecidableEq

namespace FileFormat

def word : FileFormat → String
  | .models => "models"
  | .api => "api"
  | .options => "config"

def all : List FileFormat :=
  [.models, .api, .options]

def ofWord? (name : String) : Option FileFormat :=
  all.find? fun format => format.word == name

abbrev Clause := String × Json

def described (text : String) : List Clause := [("description", .text text)]

def typed (type : String) : List Clause := [("type", .text type)]

def text : List Clause := typed "string"

def flag : List Clause := typed "boolean"

def optionalText : List Clause := [("type", Json.texts ["string", "null"])]

def optionalTexts : List Clause := [("type", Json.texts ["array", "null"]), ("items", .object text)]

def byDefault (value : Json) : List Clause := [("default", value)]

def reference (name : String) : List Clause := [("$ref", .text ("#/$defs/" ++ name))]

def listOf (name : String) : List Clause := typed "array" ++ [("items", .object (reference name))]

def optionally (name : String) : List Clause :=
  [("anyOf", .array [.object (reference name), .object (typed "null")])]

def oneOf (values : List String) : List Clause := typed "string" ++ [("enum", Json.texts values)]

def record (fields : List (String × List Clause)) : List Clause :=
  typed "object" ++
    [("properties", .object (fields.map fun field => (field.1, .object field.2))),
     ("additionalProperties", .bool false)]

def required (names : List String) : List Clause := [("required", Json.texts names)]

def entity : List Clause :=
  described "A named record type" ++
  record
    [("name", described "PascalCase identifier, unique within the module" ++ text),
     ("description", optionalText),
     ("fields", listOf "Field" ++ byDefault (.array [])),
     ("relations", listOf "Relation")] ++
  required ["name"]

def field : List Clause :=
  described "An entity field" ++
  record
    [("name", text),
     ("type", described "Type name, resolved at emission time" ++ text),
     ("required", described "Absent from the payload when false" ++ flag),
     ("nullable", flag),
     ("list", flag),
     ("values", described "Allowed values, only for \x60enum\x60" ++ optionalTexts),
     ("description", optionalText)] ++
  required ["name", "type"]

def relation : List Clause :=
  described "A link to another entity in the same module" ++
  record
    [("name", text),
     ("target", text),
     ("cardinality", reference "Cardinality" ++ byDefault (.text Schema.Cardinality.one.word))] ++
  required ["name", "target"]

def operation : List Clause :=
  described "An HTTP operation" ++
  record
    [("name", described "camelCase identifier, becomes the client method name" ++ text),
     ("method", reference "HttpMethod"),
     ("path", described "Path with \x60\x7bparam\x7d\x60 placeholders" ++ text),
     ("params",
       described "Typing for path placeholders; undeclared ones are strings" ++ listOf "PathParam"),
     ("request", optionally "RequestShape"),
     ("response", optionally "ResponseShape"),
     ("description", optionalText)] ++
  required ["name", "method", "path"]

def pathParam : List Clause :=
  record [("name", text), ("type", text ++ byDefault (.text "string"))] ++ required ["name"]

def requestShape : List Clause :=
  described "Request body shape" ++
  record
    [("entity", text),
     ("fields", described "Subset of entity fields; all fields when absent" ++ optionalTexts),
     ("partial", described "Every property optional" ++ flag)] ++
  required ["entity"]

def responseShape : List Clause :=
  described "Response body shape; no entity means no body" ++
  record [("entity", optionalText), ("list", flag)]

def methods : List Schema.HttpMethod :=
  [.get, .post, .put, .patch, .delete]

def title : FileFormat → String
  | .models => "sdkforge models"
  | .api => "sdkforge api"
  | .options => "sdkforge config"

def summary : FileFormat → String
  | .models => "Entity, field and relation definitions"
  | .api => "Operation and request/response shapes"
  | .options => "Project configuration"

def optionFields (o : Project.Options) : List (String × List Clause) :=
  [("version",
     described "Config format version" ++ typed "integer" ++
       [("format", .text "uint32"), ("minimum", .int 0)] ++ byDefault (.int o.version)),
   ("schema_dir",
     described "Directory holding one subdirectory per schema module" ++ text ++
       byDefault (.text o.schemaDir)),
   ("output_dir",
     described "Directory generated modules are written to and audited in" ++ text ++
       byDefault (.text o.outputDir)),
   ("module_glob",
     described "Modules selected when no name is given" ++ text ++ byDefault (.text o.moduleGlob)),
   ("header",
     described "Emit the provenance comment at the top of each file" ++ flag ++
       byDefault (.bool o.header)),
   ("types",
     described "Extra schema type → TypeScript type mappings" ++ typed "object" ++
       [("additionalProperties", .object text)])]

def fields : FileFormat → List (String × List Clause)
  | .models =>
      [("entities",
        described "Entities in declaration order" ++ listOf "Entity" ++ byDefault (.array []))]
  | .api =>
      [("base_path", described "Prefix prepended to every operation path" ++ optionalText),
       ("operations",
        described "Operations in declaration order" ++ listOf "Operation" ++ byDefault (.array []))]
  | .options => optionFields {}

def definitions : FileFormat → List (String × List Clause)
  | .models =>
      [("Entity", entity), ("Field", field), ("Relation", relation),
       ("Cardinality", oneOf ([Schema.Cardinality.one, .many].map (·.word)))]
  | .api =>
      [("Operation", operation), ("HttpMethod", oneOf (methods.map Schema.HttpMethod.word)),
       ("PathParam", pathParam), ("RequestShape", requestShape), ("ResponseShape", responseShape)]
  | .options => []

def dialect : String :=
  "https" ++ "://json-schema.org/draft/2020-12/schema"

def schema (format : FileFormat) : Json :=
  .object ([("$schema", .text dialect), ("title", .text format.title)] ++ described format.summary ++
    record format.fields ++
    (match format.definitions with
     | [] => []
     | known => [("$defs", .object (known.map fun entry => (entry.1, .object entry.2)))]))

end FileFormat

end ApiContract
