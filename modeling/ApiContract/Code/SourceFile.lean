import ApiContract.Code.Decl

/-!
A whole file of generated code: header comment, imports, then declarations.
-/

set_option autoImplicit false

namespace ApiContract.Code

structure SourceFile where
  header : List String := []
  imports : List Decl := []
  items : List Decl := []

def SourceFile.render (file : SourceFile) : String :=
  let header :=
    if file.header.isEmpty then [] else [Text.join "\n" (file.header.map ("// " ++ ·))]
  let imports :=
    if file.imports.isEmpty then [] else [stack 0 (file.imports.map Decl.render)]
  let items :=
    if file.items.isEmpty then [] else [stackApart 0 (file.items.map Decl.render)]
  Text.join "\n\n" (header ++ imports ++ items) ++ "\n"

end ApiContract.Code
