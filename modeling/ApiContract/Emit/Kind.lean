import ApiContract.Files.Path

/-!
The kinds of files that are made from a module.
-/

set_option autoImplicit false

namespace ApiContract

namespace Emit

inductive FileKind where
  | types
  | client
deriving DecidableEq

namespace FileKind

def all : List FileKind := [.types, .client]

def word : FileKind → String
  | .types => "types"
  | .client => "client"

def fileName : FileKind → String
  | .types => "types.ts"
  | .client => "client.ts"

def path (kind : FileKind) (module : String) : String :=
  joinPath module kind.fileName

def ofFileName? (name : String) : Option FileKind :=
  all.find? fun kind => kind.fileName == name

end FileKind

inductive EmitError where
  | unsupportedType (module : String) (subject : String) (type : String)
  | unknownEntity (operation : String) (entity : String)
deriving DecidableEq

def EmitError.message : EmitError → String
  | .unsupportedType module subject type =>
      "Unsupported field type '" ++ type ++ "' for " ++ subject ++ " in module '" ++ module ++ "'"
  | .unknownEntity operation entity =>
      "operation '" ++ operation ++ "' references unknown entity '" ++ entity ++ "'"

def mapAll {α β ε : Type} (f : α → Except ε β) : List α → Except ε (List β)
  | [] => .ok []
  | a :: rest =>
      match f a with
      | .error e => .error e
      | .ok b => (mapAll f rest).map (b :: ·)

end Emit

end ApiContract
