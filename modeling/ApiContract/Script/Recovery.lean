import ApiContract.Script.Statement
import ApiContract.Script.Tree
import ApiContract.Text.Lines

/-!
The tree of a code of which only the declarations are read, and what their members are made of; what
cannot be read becomes an error. Of a body only the calls are told, and of a call its arguments.
-/

set_option autoImplicit false

namespace ApiContract.Script

-- The runs of items between commas, with the comments around them.
inductive Run where
  | comment (n : Node)
  | code (items : List Item)

def runsOf (items : List Item) (closing : Option Token) : List Run :=
  (runsFrom ((closing.map Token.lead).getD []) 0 items).flatMap fun (items, gap) =>
    match items with
    | [] => (commentNodes gap 0).map .comment
    | item :: _ =>
        (commentNodes item.first.lead item.left).map Run.comment ++
          .code items :: (commentNodes gap 0).map .comment

def partNode : Item → Node
  | .token t => t.leaf "string_fragment"
  | .group opening items closing =>
      nodeOf (if opening.text == ['$', '\x7b'] then "template_substitution" else "template_string")
        [.group opening items closing] []

def valueNode : List Item → Node
  | [.token t] => t.leaf (if t.kind == .string then "string" else "identifier")
  | items => nodeOf "expression" items []

def pairNode : List Item → Node
  | key :: colon :: value =>
      if key.startsName && colon.isMark ":" then
        nodeOf "pair" (key :: colon :: value)
          [(nodeOf "property_identifier" [key] []).as "key", (valueNode value).as "value"]
      else nodeOf "expression" (key :: colon :: value) []
  | items => nodeOf "expression" items []

def Run.node : Run → Node
  | .comment n => n
  | .code [.group opening items closing] =>
      let group := Item.group opening items closing
      if opening.text == ['\x60'] then nodeOf "template_string" [group] (items.map partNode)
      else if opening.text == ['\x7b'] then
        nodeOf "object" [group] ((runsFrom [] 0 items).map fun run => pairNode run.1)
      else nodeOf "expression" [group] []
  | .code items => nodeOf "expression" items []

def isQualified (before : Option Item) : Bool :=
  before.any fun item =>
    item.isMark "." || item.isMark "?." || item.isOneOf ["new", "function"]

def isDefinition (before : Option Item) (after : List Item) : Bool :=
  match after with
  | [] => false
  | next :: _ =>
      let starts :=
        match before with
        | none => true
        | some item =>
            item.isMark "," || item.isMark ";" || item.isGroup "\x7b" ||
              item.isOneOf classModifiers
      (next.isGroup "\x7b" && !next.onNewLine) || (next.isMark ":" && starts)

-- The arguments that a name is called with, if it is.
def arguments? (before : Option Item) (items : List Item) : Option Node :=
  let items := if items.head?.any (·.isMark "?.") then items.drop 1 else items
  match afterTypeParameters? items with
  | some (.group opening inner closing :: after) =>
      let group := Item.group opening inner closing
      if opening.text == ['('] then
        if isDefinition before after then none
        else some (nodeOf "arguments" [group] ((runsOf inner closing).map Run.node))
      else if opening.text == ['\x60'] then
        some (nodeOf "template_string" [group] (inner.map partNode))
      else none
  | _ => none

def call? (before : Option Item) (item : Item) (rest : List Item) : Option Node :=
  if item.isName && !isQualified before then
    (arguments? before rest).map fun arguments =>
      nodeOf "call_expression" (item :: rest)
        [(nodeOf "identifier" [item] []).as "function", arguments.as "arguments"]
  else none

mutual

def callsWithin : Item → List Node
  | .token _ => []
  | .group _ items _ => callsIn none items

-- The calls of names among some items.
def callsIn : Option Item → List Item → List Node
  | _, [] => []
  | before, item :: rest =>
      (call? before item rest).toList ++ (callsWithin item ++ callsIn (some item) rest)

end

def Ascription.node (a : Ascription) : Node :=
  ⟨none, if isPredicate a.type then "type_predicate_annotation" else "type_annotation", true, false,
    a.colon.first.text ++ charsOf a.type, a.colon.left, []⟩

def Parameter.node (p : Parameter) : Node :=
  nodeOf (if p.optional then "optional_parameter" else "required_parameter") p.pattern
    ((nodeOf "pattern" p.pattern []).as "pattern" :: p.type.toList.map fun a => a.node.as "type")

def optionalSign (name : Item) : Node :=
  ⟨none, "?", false, false, ['?'], name.leftAfter, []⟩

def nameOf (name : Item) : Node :=
  (nodeOf "property_identifier" [name] []).as "name"

def Member.node? : Member → Option Node
  | .field name optional type =>
      some (nodeOf "property_signature" [name]
        (nameOf name :: ((if optional then [optionalSign name] else []) ++
          type.toList.map fun a => a.node.as "type")))
  | .method name parameters result body =>
      some (nodeOf (if body.isSome then "method_definition" else "method_signature") [name]
        (nameOf name ::
          (nodeOf "formal_parameters" [name] (parameters.map Parameter.node)).as "parameters" ::
            ((result.toList.map fun a => a.node.as "return_type") ++
              body.toList.map fun items =>
                (nodeOf "statement_block" items (callsIn none items)).as "body")))
  | .unnamed => none

def Declaration.node : Declaration → Node
  | .typeAlias name type =>
      nodeOf "type_alias_declaration" [name] [nameOf name, (nodeOf "type" type []).as "value"]
  | .interface name members =>
      nodeOf "interface_declaration" [name]
        [nameOf name, (nodeOf "interface_body" [name] (members.filterMap Member.node?)).as "body"]
  | .class_ name members =>
      nodeOf "class_declaration" [name]
        [nameOf name, (nodeOf "class_body" [name] (members.filterMap Member.node?)).as "body"]

def errorNode (left : Nat) : Node :=
  ⟨none, "ERROR", true, false, [], left, []⟩

-- The nodes of a code that is read as far as it goes.
def recoveredNodes (ts : List Token) : List Node :=
  let (declarations, faults) := readStatements (ts.length + 1) (itemsOf ts)
  declarations.map Declaration.node ++ faults.map errorNode

end ApiContract.Script
