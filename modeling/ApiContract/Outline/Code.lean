import ApiContract.Outline.Basic
import ApiContract.Outline.Request

/-!
The outline of a text of code, taken from its syntax tree: the type aliases, interfaces and classes at
its top level, exported or not.
-/

set_option autoImplicit false

namespace ApiContract.Outline

open Script (Node Parser)

def nodeText (n : Node) : String :=
  String.ofList n.text

def fieldText? (n : Node) (field : String) : Option String :=
  (n.child? field).map nodeText

-- The type of an annotation, without the colon in front of it.
def annotationType (n : Node) : String :=
  String.ofList (canonicalChars
    (if n.kind == "type_annotation" then (Text.trimLeft n.text).dropWhile (· == ':') else n.text))

def Property.ofNode? (n : Node) : Option Property :=
  (fieldText? n "name").map fun name =>
    ⟨name, (n.child? "type").map annotationType, n.children.any fun c => c.kind == "?"⟩

def Param.ofNode? (n : Node) : Option Param :=
  if n.kind == "required_parameter" || n.kind == "optional_parameter" then
    (fieldText? n "pattern").map fun name =>
      ⟨name, (n.child? "type").map annotationType, n.kind == "optional_parameter"⟩
  else none

def paramsOf (n : Node) : List Param :=
  ((n.child? "parameters").map Node.namedChildren).getD [] |>.filterMap Param.ofNode?

def Method.ofNode? (n : Node) : Option Method :=
  (fieldText? n "name").map fun name =>
    ⟨name, paramsOf n, (n.child? "return_type").map annotationType, (n.child? "body").bind endpoint?⟩

def membersOf (n : Node) (kind : String) : List Node :=
  (((n.child? "body").map Node.namedChildren).getD []).filter fun member => member.kind == kind

-- The methods of a class, without its constructor.
def classMethods (n : Node) : List Method :=
  ((membersOf n "method_definition").filterMap Method.ofNode?).filter fun m => m.name != "constructor"

def Declaration.ofNode? (n : Node) : Option Declaration :=
  (fieldText? n "name").bind fun name =>
    if n.kind == "type_alias_declaration" then
      some ⟨name, .typeAlias,
        (n.child? "value").map fun type => String.ofList (canonicalChars type.text), [], []⟩
    else if n.kind == "interface_declaration" then
      some ⟨name, .interface, none, (membersOf n "property_signature").filterMap Property.ofNode?,
        (membersOf n "method_signature").filterMap Method.ofNode?⟩
    else if n.kind == "class_declaration" || n.kind == "abstract_class_declaration" then
      some ⟨name, .class_, none, [], classMethods n⟩
    else none

def declared? (statement : Node) : Option Declaration :=
  if statement.kind == "export_statement" then
    (statement.child? "declaration").bind Declaration.ofNode?
  else Declaration.ofNode? statement

def SyntaxError.ofLeft (text : List Char) (left : Nat) : SyntaxError :=
  let before := (text.take (text.length - left)).reverse
  let line := before.takeWhile (· != '\n')
  ⟨before.count '\n' + 1, line.foldl (fun bytes c => bytes + c.utf8Size) 1⟩

def Module.ofTree (text : String) (root : Node) : Module :=
  ⟨root.children.filterMap declared?,
    if root.hasError then root.errors.map (SyntaxError.ofLeft text.toList) else []⟩

def Module.ofCode [Parser] (text : String) : Module :=
  Module.ofTree text (Parser.parse text)

end ApiContract.Outline
