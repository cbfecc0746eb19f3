import ApiContract.Code.SourceFile
import ApiContract.Digest
import ApiContract.Emit.Client
import ApiContract.Emit.Types
import ApiContract.Json.Printer
import ApiContract.Log
import ApiContract.Schema.Record

/-!
The files made from schemas. A module gives all its files or none: when one of them cannot be made,
the module counts as failed, and the others are not affected.
-/

set_option autoImplicit false

namespace ApiContract.Emit

open Schema (Module)

structure GeneratedFile where
  module : String
  kind : FileKind
  path : String
  content : String
  hash : String
deriving DecidableEq

structure Failure where
  module : String
  kind : FileKind
  message : String
deriving DecidableEq

def Failure.describe (f : Failure) : String :=
  f.module ++ " (" ++ f.kind.word ++ "): " ++ f.message

structure Output where
  files : List GeneratedFile
  failures : List Failure

structure Settings where
  types : TypeMap
  header : Bool

def provenance (m : Module) : List String :=
  ["GENERATED FROM: " ++ m.name ++ " schema",
   "SCHEMA HASH: " ++ Digest.ofText m.toJson.compact,
   "DO NOT EDIT: regenerate with \x60sdkforge generate\x60"]

def header (s : Settings) (m : Module) : List String :=
  if s.header then provenance m else []

-- The source of one kind of file; none when the module has nothing of that kind.
def source? (s : Settings) (m : Module) (kind : FileKind) :
    Except EmitError (Option Code.SourceFile) :=
  match kind with
  | .types =>
      if m.entities.isEmpty then .ok none
      else
        (typeDecls s.types m).map fun decls =>
          some { header := header s m, items := decls }
  | .client =>
      if m.operations.isEmpty then .ok none
      else
        (clientClass s.types m).map fun decl =>
          some { header := header s m, imports := importDecls m, items := [decl] }

def generated (m : Module) (kind : FileKind) (content : String) : GeneratedFile :=
  ⟨m.name, kind, kind.path m.name, content, Digest.ofText content⟩

-- One kind of file of a module; none when the module has nothing of that kind.
def emitFile? (s : Settings) (m : Module) (kind : FileKind) :
    Except EmitError (Option GeneratedFile) :=
  (source? s m kind).map fun source => source.map fun file => generated m kind file.render

def emittedMessage (file : GeneratedFile) : LogEntry :=
  ⟨.debug, "emitted " ++ file.path ++ " (" ++ toString file.content.utf8ByteSize ++ " bytes, " ++
    file.hash ++ ")"⟩

-- Makes the files of the given kinds up to the first failure; the log tells those made.
def emitKinds (s : Settings) (m : Module) : List FileKind → Except Failure (List GeneratedFile) × Log
  | [] => (.ok [], [])
  | kind :: rest =>
      match emitFile? s m kind with
      | .error e => (.error ⟨m.name, kind, e.message⟩, [])
      | .ok none => emitKinds s m rest
      | .ok (some file) =>
          let others := emitKinds s m rest
          (others.1.map (file :: ·), emittedMessage file :: others.2)

def emitModule (s : Settings) (m : Module) : Except Failure (List GeneratedFile) × Log :=
  emitKinds s m FileKind.all

-- Whether a file is asked for; every file is when no kind is named.
def isAsked (only : Option FileKind) (file : GeneratedFile) : Bool :=
  match only with
  | none => true
  | some kind => decide (file.kind = kind)

def Output.add (only : Option FileKind) (outcome : Except Failure (List GeneratedFile))
    (others : Output) : Output :=
  match outcome with
  | .ok files => ⟨files.filter (isAsked only) ++ others.files, others.failures⟩
  | .error failure => ⟨others.files, failure :: others.failures⟩

def emitEach (s : Settings) (only : Option FileKind) : List Module → Output × Log
  | [] => (⟨[], []⟩, [])
  | m :: rest =>
      let one := emitModule s m
      let others := emitEach s only rest
      (Output.add only one.1 others.1, one.2 ++ others.2)

def emit (s : Settings) (only : Option FileKind) (modules : List Module) : Output × Log :=
  let result := emitEach s only modules
  (result.1, result.2 ++ result.1.failures.map fun f => ⟨.error, f.describe⟩)

def emitAll (s : Settings) (modules : List Module) : Output × Log :=
  emit s none modules

-- The files of one kind of all modules; a module that fails in any kind gives none.
def emitOnly (s : Settings) (kind : FileKind) (modules : List Module) : Output × Log :=
  emit s (some kind) modules

end ApiContract.Emit
