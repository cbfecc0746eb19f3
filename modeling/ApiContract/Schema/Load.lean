import ApiContract.Files.Disk
import ApiContract.Schema.Integrity
import ApiContract.Schema.Reader
import ApiContract.Text.Blank

/-!
Loading schemas: a module is read from its files and has to keep all rules. Nothing is loaded when
anything is wrong.
-/

set_option autoImplicit false

namespace ApiContract.Schema

inductive LoadError where
  | malformed (path : String) (cause : Yaml.Error)
  | unsound (module : String) (violations : List Violation)

def modelsFile : String := "models.yaml"

def apiFile : String := "api.yaml"

def isBare (text : String) : Bool :=
  (Text.lines (Text.trim text.toList)).all fun line =>
    let rest := Text.trimLeft line
    rest.isEmpty || rest.head? == some '#'

def readModels (path : String) (text : String) : Except LoadError Models :=
  if isBare text then .ok {} else (Models.ofYaml text).mapError (.malformed path)

def readApi (path : String) (text : String) : Except LoadError Api :=
  if isBare text then .ok {} else (Api.ofYaml text).mapError (.malformed path)

def Module.of (name : String) (models : Models) (api : Api) : Module :=
  ⟨name, collectNamed Entity.name models.entities, api.basePath,
    collectNamed Operation.name api.operations⟩

def build (name : String) (models : Models) (api : Api) : Except LoadError Module :=
  match validate models api with
  | [] => .ok (Module.of name models api)
  | violations => .error (.unsound name violations)

def Module.ofTexts (name : String) (models : String) (api : Option String) :
    Except LoadError Module :=
  match readModels (joinPath name modelsFile) models with
  | .error e => .error e
  | .ok models =>
      match api with
      | none => build name models {}
      | some text =>
          match readApi (joinPath name apiFile) text with
          | .error e => .error e
          | .ok api => build name models api

structure Source where
  name : String
  models : String
  api : Option String
deriving DecidableEq

inductive SourceError where
  | file (fault : Files.Fault)
  | load (error : LoadError)

def Source.read (disk : Files.Disk) (source : Source) : Except SourceError (Models × Api) :=
  match disk.readText source.models with
  | .error fault => .error (.file fault)
  | .ok text =>
      match readModels source.models text with
      | .error e => .error (.load e)
      | .ok models =>
          match source.api with
          | none => .ok (models, {})
          | some path =>
              match disk.readText path with
              | .error fault => .error (.file fault)
              | .ok text =>
                  match readApi path text with
                  | .error e => .error (.load e)
                  | .ok api => .ok (models, api)

def Source.check (disk : Files.Disk) (source : Source) : Except SourceError (List Violation) :=
  (source.read disk).map fun files => validate files.1 files.2

def Source.load (disk : Files.Disk) (source : Source) : Except SourceError Module :=
  match source.read disk with
  | .error e => .error e
  | .ok files => (build source.name files.1 files.2).mapError .load

def loadAll (disk : Files.Disk) : List Source → Except SourceError (List Module)
  | [] => .ok []
  | source :: rest =>
      match source.load disk with
      | .error e => .error e
      | .ok m => (loadAll disk rest).map (m :: ·)

end ApiContract.Schema
