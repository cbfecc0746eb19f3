import ApiContract.Audit.Finding
import ApiContract.Outline.Basic

/-!
The differences between the outline that a schema implies and the outline of a file. Declarations
and members are matched by name, so their order does not matter.
-/

set_option autoImplicit false

namespace ApiContract.Audit

open Outline (Declaration Method Module Property)

structure Difference where
  subject : String
  kind : Subject
  severity : Severity
  expected : Option String
  actual : Option String
deriving DecidableEq

def missing (kind : Subject) (subject : String) (expected : String) : Difference :=
  ⟨subject, kind, .missing, some expected, none⟩

def extra (kind : Subject) (subject : String) (actual : String) : Difference :=
  ⟨subject, kind, .extra, none, some actual⟩

def memberName (owner : String) (member : String) : String :=
  owner ++ "." ++ member

def diffProperty (owner : String) (have_ : Declaration) (want : Property) : List Difference :=
  match have_.property? want.name with
  | none => [missing .field (memberName owner want.name) want.describe]
  | some found =>
      if found = want then []
      else
        [⟨memberName owner want.name, .field, .mismatched, some want.describe, some found.describe⟩]

def extraProperty (owner : String) (want : Declaration) (found : Property) : List Difference :=
  if (want.property? found.name).isSome then []
  else [extra .field (memberName owner found.name) found.describe]

def methodTexts (want : Method) (found : Method) : Option String × Option String :=
  if found.describe = want.describe then (want.endpoint, found.endpoint)
  else (some want.describe, some found.describe)

def diffMethod (owner : String) (have_ : Declaration) (want : Method) : List Difference :=
  match have_.method? want.name with
  | none => [missing .operation (memberName owner want.name) want.describe]
  | some found =>
      if found = want then []
      else
        let texts := methodTexts want found
        [⟨memberName owner want.name, .operation, .mismatched, texts.1, texts.2⟩]

def extraMethod (owner : String) (want : Declaration) (found : Method) : List Difference :=
  if (want.method? found.name).isSome then []
  else [extra .operation (memberName owner found.name) found.describe]

def diffMembers (want : Declaration) (have_ : Declaration) : List Difference :=
  want.properties.flatMap (diffProperty want.name have_) ++
    have_.properties.flatMap (extraProperty want.name want) ++
    want.methods.flatMap (diffMethod want.name have_) ++
    have_.methods.flatMap (extraMethod want.name want)

-- Two declarations of one name; the members are compared only when the kinds agree.
def diffDeclaration (want : Declaration) (have_ : Declaration) : List Difference :=
  (if want.kind = have_.kind ∧ want.aliased = have_.aliased then []
   else [⟨want.name, .type, .mismatched, some want.describe, some have_.describe⟩]) ++
    (if want.kind = have_.kind then diffMembers want have_ else [])

def diffExpected (actual : Module) (want : Declaration) : List Difference :=
  match actual.declaration? want.name with
  | none => [missing .type want.name want.describe]
  | some have_ => diffDeclaration want have_

def diffExtra (expected : Module) (have_ : Declaration) : List Difference :=
  if (expected.declaration? have_.name).isSome then []
  else [extra .type have_.name have_.describe]

def differences (expected : Module) (actual : Module) : List Difference :=
  expected.declarations.flatMap (diffExpected actual) ++
    actual.declarations.flatMap (diffExtra expected)

def Difference.finding (module : String) (file : String) (d : Difference) : Finding :=
  ⟨module, some file, d.subject, d.kind, d.severity, d.expected, d.actual⟩

def diff (module : String) (file : String) (expected : Module) (actual : Module) : List Finding :=
  (differences expected actual).map (Difference.finding module file)

end ApiContract.Audit
