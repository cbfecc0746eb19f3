import ApiContract.Outline.Basic
import ApiContract.Record.Slots

/-!
Outlines as JSON values. Absent texts and empty lists are left out where reading takes their absence
for the same.
-/

set_option autoImplicit false

namespace ApiContract.Outline

open Json (nonEmpty optional)
open Record (Fault Layout readSlots require)

def nullable (value : Option String) : Json :=
  match value with
  | some text => .text text
  | none => .null

def DeclKind.word : DeclKind → String
  | .typeAlias => "alias"
  | .interface => "interface"
  | .class_ => "class"

def declKinds : List (String × DeclKind) :=
  [DeclKind.typeAlias, .interface, .class_].map fun kind => (kind.word, kind)

def Property.toJson (p : Property) : Json :=
  .object [("name", .text p.name), ("ty", nullable p.type), ("optional", .bool p.optional)]

def Param.toJson (p : Param) : Json :=
  .object [("name", .text p.name), ("ty", nullable p.type), ("optional", .bool p.optional)]

def Method.toJson (m : Method) : Json :=
  .object ([("name", .text m.name), ("params", .array (m.params.map Param.toJson)),
    ("returns", nullable m.returns)] ++ optional "endpoint" (m.endpoint.map Json.text))

def Declaration.toJson (d : Declaration) : Json :=
  .object ([("name", .text d.name), ("kind", .text d.kind.word)] ++
    optional "alias" (d.aliased.map Json.text) ++ nonEmpty "properties" (d.properties.map Property.toJson) ++
    nonEmpty "methods" (d.methods.map Method.toJson))

def SyntaxError.toJson (e : SyntaxError) : Json :=
  .object [("line", .int e.line), ("column", .int e.column)]

def Module.toJson (m : Module) : Json :=
  .object ([("declarations", .array (m.declarations.map Declaration.toJson))] ++
    nonEmpty "syntax_errors" (m.syntaxErrors.map SyntaxError.toJson))

structure TypedSlots where
  name : Option String := none
  type : Option (Option String) := none
  optional : Option Bool := none

def typedLayout (title : String) : Layout TypedSlots where
  title := title
  empty := {}
  fields := [("name", false), ("ty", false), ("optional", false)]
  put s name value :=
    match name with
    | "name" => (Record.readText value).map fun text => { s with name := some text }
    | "ty" =>
        (Record.readOptional Record.readText value).map fun type => { s with type := some type }
    | "optional" => (Record.readFlag value).map fun flag => { s with optional := some flag }
    | _ => .ok s

def readProperty (value : Json) : Except Fault Property := do
  let s ← readSlots (typedLayout "struct PropertyView") value
  return ⟨← require "name" s.name, s.type.getD none, ← require "optional" s.optional⟩

def readParam (value : Json) : Except Fault Param := do
  let s ← readSlots (typedLayout "struct ParamView") value
  return ⟨← require "name" s.name, s.type.getD none, ← require "optional" s.optional⟩

structure MethodSlots where
  name : Option String := none
  params : Option (List Param) := none
  returns : Option (Option String) := none
  endpoint : Option (Option String) := none

def methodLayout : Layout MethodSlots where
  title := "struct MethodView"
  empty := {}
  fields := [("name", false), ("params", false), ("returns", false), ("endpoint", true)]
  put s name value :=
    match name with
    | "name" => (Record.readText value).map fun text => { s with name := some text }
    | "params" =>
        (Record.readList readParam value).map fun params => { s with params := some params }
    | "returns" =>
        (Record.readOptional Record.readText value).map fun type => { s with returns := some type }
    | "endpoint" =>
        (Record.readOptional Record.readText value).map fun text => { s with endpoint := some text }
    | _ => .ok s

def readMethod (value : Json) : Except Fault Method := do
  let s ← readSlots methodLayout value
  return ⟨← require "name" s.name, ← require "params" s.params, s.returns.getD none,
    s.endpoint.getD none⟩

structure DeclarationSlots where
  name : Option String := none
  kind : Option DeclKind := none
  aliased : Option (Option String) := none
  properties : Option (List Property) := none
  methods : Option (List Method) := none

def declarationLayout : Layout DeclarationSlots where
  title := "struct DeclView"
  empty := {}
  fields :=
    [("name", false), ("kind", false), ("alias", true), ("properties", true), ("methods", true)]
  put s name value :=
    match name with
    | "name" => (Record.readText value).map fun text => { s with name := some text }
    | "kind" => (Record.readWord declKinds value).map fun kind => { s with kind := some kind }
    | "alias" =>
        (Record.readOptional Record.readText value).map fun text => { s with aliased := some text }
    | "properties" =>
        (Record.readList readProperty value).map fun items => { s with properties := some items }
    | "methods" =>
        (Record.readList readMethod value).map fun items => { s with methods := some items }
    | _ => .ok s

def readDeclaration (value : Json) : Except Fault Declaration := do
  let s ← readSlots declarationLayout value
  return ⟨← require "name" s.name, ← require "kind" s.kind, s.aliased.getD none,
    s.properties.getD [], s.methods.getD []⟩

structure SyntaxErrorSlots where
  line : Option Nat := none
  column : Option Nat := none

def syntaxErrorLayout : Layout SyntaxErrorSlots where
  title := "struct SyntaxError"
  empty := {}
  fields := [("line", false), ("column", false)]
  put s name value :=
    match name with
    | "line" => (Record.readCount value).map fun count => { s with line := some count }
    | "column" => (Record.readCount value).map fun count => { s with column := some count }
    | _ => .ok s

def readSyntaxError (value : Json) : Except Fault SyntaxError := do
  let s ← readSlots syntaxErrorLayout value
  return ⟨← require "line" s.line, ← require "column" s.column⟩

structure ModuleSlots where
  declarations : Option (List Declaration) := none
  syntaxErrors : Option (List SyntaxError) := none

def moduleLayout : Layout ModuleSlots where
  title := "struct ModuleView"
  empty := {}
  fields := [("declarations", false), ("syntax_errors", true)]
  put s name value :=
    match name with
    | "declarations" =>
        (Record.readList readDeclaration value).map fun items =>
          { s with declarations := some items }
    | "syntax_errors" =>
        (Record.readList readSyntaxError value).map fun items =>
          { s with syntaxErrors := some items }
    | _ => .ok s

def Module.ofJson (value : Json) : Except Fault Module := do
  let s ← readSlots moduleLayout value
  return ⟨← require "declarations" s.declarations, s.syntaxErrors.getD []⟩

end ApiContract.Outline
