import ApiContract.Proofs.Script.Standing
import ApiContract.Script.Tree

/-!
The part of the language that generated files are written in, as a grammar: which items make up a
phrase, and the nodes that stand for them in the syntax tree of a text. Nothing here depends on how a
parser works. A phrase stands in one line, but for the rows of a block, each of which begins where it
likes with its comments in front.
-/

set_option autoImplicit false

namespace ApiContract.Script

-- Phrases with commas between them.
inductive Separated (phrase : List Item → Node → Prop) : List Item → List Node → Prop
  | last {items : List Item} {n : Node} (own : phrase items n) : Separated phrase items [n]
  | more {items others : List Item} {n : Node} {comma : Token} {nodes : List Node}
      (own : phrase items n) (between : comma.isSign "," = true)
      (later : Separated phrase others nodes) :
      Separated phrase (items ++ .token comma :: others) (n :: comma.plain :: nodes)

inductive Listed (phrase : List Item → Node → Prop) : List Item → List Node → Prop
  | none : Listed phrase [] []
  | some {items : List Item} {nodes : List Node} (all : Separated phrase items nodes) :
      Listed phrase items nodes

-- Rows one after the other, with the comments in front of each.
inductive Rows (row : List Item → List Node → Prop) : List Item → List Node → Prop
  | none : Rows row [] []
  | next {item : Item} {items rest : List Item} {nodes others : List Node}
      {comments : List (List Char × Nat)} (gap : GapOf item.first.lead comments)
      (own : row (item :: items) nodes) (later : Rows row rest others) :
      Rows row (item :: items ++ rest) (commentsAt item.left comments ++ (nodes ++ others))

inductive TypeForm where
  | primary
  | whole
  | arguments

inductive TypeNodes : TypeForm → List Item → List Node → Prop
  | word {t : Token} {n : Node} (found : typeName? t = some n) : TypeNodes .primary [.token t] [n]
  | array {items : List Item} {n : Node} {opening closing : Token}
      (element : TypeNodes .primary items [n]) (opens : opening.isTightly "[" = true)
      (closes : closing.isTightly "]" = true) :
      TypeNodes .primary (items ++ [.group opening [] (some closing)])
        [nodeOf "array_type" (items ++ [.group opening [] (some closing)])
          [n, opening.plain, closing.plain]]
  | parens {items : List Item} {n : Node} {opening closing : Token}
      (inner : TypeNodes .whole items [n]) (between : isParens opening closing = true) :
      TypeNodes .primary [.group opening items (some closing)]
        [nodeOf "parenthesized_type" [.group opening items (some closing)]
          (enclosed opening [n] closing)]
  | generic {items : List Item} {nodes : List Node} {name opening closing : Token}
      (tight : name.isTight = true) (plain : name.isPlainName = true)
      (opens : opening.isSign "<" = true) (arguments : TypeNodes .arguments items nodes)
      (closes : closing.isSign ">" = true) :
      TypeNodes .primary (.token name :: .token opening :: (items ++ [.token closing]))
        [nodeOf "generic_type" (.token name :: .token opening :: (items ++ [.token closing]))
          [(name.leaf "type_identifier").as "name",
            (nodeOf "type_arguments" (.token opening :: (items ++ [.token closing]))
              (enclosed opening nodes closing)).as "type_arguments"]]
  | single {items : List Item} {n : Node} (only : TypeNodes .primary items [n]) :
      TypeNodes .whole items [n]
  | union {items others : List Item} {n m : Node} {bar : Token}
      (front : TypeNodes .whole items [n]) (between : bar.isSign "|" = true)
      (last : TypeNodes .primary others [m]) :
      TypeNodes .whole (items ++ .token bar :: others)
        [nodeOf "union_type" (items ++ .token bar :: others) [n, bar.plain, m]]
  | last {items : List Item} {n : Node} (own : TypeNodes .whole items [n]) :
      TypeNodes .arguments items [n]
  | more {items others : List Item} {n : Node} {comma : Token} {nodes : List Node}
      (own : TypeNodes .whole items [n]) (between : comma.isSign "," = true)
      (later : TypeNodes .arguments others nodes) :
      TypeNodes .arguments (items ++ .token comma :: others) (n :: comma.plain :: nodes)

inductive ValueForm where
  | primary
  | unary
  | whole
  | pair
  -- One or more entries with commas between, and any number of them.
  | entries (pairs : Bool)
  | inside (pairs : Bool)
  | pieces

def ValueForm.entry (pairs : Bool) : ValueForm :=
  if pairs then .pair else .whole

inductive ValueNodes : ValueForm → List Item → List Node → Prop
  | operand {t : Token} {n : Node} (found : operand? t = some n) :
      ValueNodes .primary [.token t] [n]
  | template {items : List Item} {nodes : List Node} {opening closing : Token}
      (opens : opening.text = "\x60".toList) (closes : closing.text = "\x60".toList)
      (inner : ValueNodes .pieces items nodes) :
      ValueNodes .primary [.group opening items (some closing)]
        [nodeOf "template_string" [.group opening items (some closing)]
          (enclosed opening nodes closing)]
  | parens {items : List Item} {n : Node} {opening closing : Token}
      (opens : opening.text = "(".toList) (closes : closing.isTightly ")" = true)
      (starts : startsTight items = true) (inner : ValueNodes .whole items [n]) :
      ValueNodes .primary [.group opening items (some closing)]
        [nodeOf "parenthesized_expression" [.group opening items (some closing)]
          (enclosed opening [n] closing)]
  | object {items : List Item} {nodes : List Node} {opening closing : Token}
      (opens : opening.text = "\x7b".toList) (closes : closing.isTightly "\x7d" = true)
      (inner : ValueNodes (.inside true) items nodes) :
      ValueNodes .primary [.group opening items (some closing)]
        [nodeOf "object" [.group opening items (some closing)] (enclosed opening nodes closing)]
  | member {items : List Item} {n : Node} {dot name : Token} (front : ValueNodes .primary items [n])
      (between : dot.isSign "." = true) (tight : name.isTight = true)
      (plain : name.isPlainName = true) :
      ValueNodes .primary (items ++ [.token dot, .token name])
        [memberNode (items ++ [.token dot, .token name]) n dot name]
  | call {items inner : List Item} {n : Node} {nodes : List Node} {opening closing : Token}
      (front : ValueNodes .primary items [n]) (between : isParens opening closing = true)
      (arguments : ValueNodes (.inside false) inner nodes) :
      ValueNodes .primary (items ++ [.group opening inner (some closing)])
        [callNode (items ++ [.group opening inner (some closing)]) n opening inner nodes closing]
  | chain {items : List Item} {n : Node} (all : ValueNodes .primary items [n]) :
      ValueNodes .unary items [n]
  | await {t : Token} {items : List Item} {n : Node} (starts : t.isWord "await" = true)
      (tight : startsTight items = true) (value : ValueNodes .unary items [n]) :
      ValueNodes .unary (.token t :: items)
        [nodeOf "await_expression" (.token t :: items) [t.plain, n]]
  | not {t : Token} {items : List Item} {n : Node} (starts : t.isMark "!" = true)
      (tight : startsTight items = true) (value : ValueNodes .unary items [n]) :
      ValueNodes .unary (.token t :: items)
        [nodeOf "unary_expression" (.token t :: items) [t.plain.as "operator", n.as "argument"]]
  | new {t name opening closing : Token} {inner : List Item} {nodes : List Node}
      (starts : t.isWord "new" = true) (tight : name.isTight = true)
      (plain : name.isPlainName = true) (between : isParens opening closing = true)
      (arguments : ValueNodes (.inside false) inner nodes) :
      ValueNodes .unary [.token t, .token name, .group opening inner (some closing)]
        [nodeOf "new_expression" [.token t, .token name, .group opening inner (some closing)]
          [t.plain, (name.leaf "identifier").as "constructor",
            (nodeOf "arguments" [.group opening inner (some closing)]
              (enclosed opening nodes closing)).as "arguments"]]
  | single {items : List Item} {n : Node} (only : ValueNodes .unary items [n]) :
      ValueNodes .whole items [n]
  | bare {t : Token} (named : t.isName = true) : ValueNodes .whole [.token t] [t.nameNode]
  | cast {items others : List Item} {n type : Node} {as : Token}
      (value : ValueNodes .unary items [n]) (between : as.isKey "as" = true)
      (typed : TypeNodes .whole others [type]) :
      ValueNodes .whole (items ++ .token as :: others)
        [nodeOf "as_expression" (items ++ .token as :: others) [n, as.plain, type]]
  | assignment {items others : List Item} {n value : Node} {sign : Token}
      (place : ValueNodes .unary items [n]) (property : n.kind = "member_expression")
      (between : sign.isSign "=" = true) (tight : startsTight others = true)
      (given : ValueNodes .whole others [value]) :
      ValueNodes .whole (items ++ .token sign :: others)
        [nodeOf "assignment_expression" (items ++ .token sign :: others)
          [n.as "left", sign.plain, value.as "right"]]
  | pair {name colon : Token} {items : List Item} {key n : Node} (keyed : keyNode? name = some key)
      (between : colon.isSign ":" = true) (tight : startsTight items = true)
      (value : ValueNodes .whole items [n]) :
      ValueNodes .pair (.token name :: .token colon :: items)
        [nodeOf "pair" (.token name :: .token colon :: items)
          [key.as "key", colon.plain, n.as "value"]]
  | last {pairs : Bool} {items : List Item} {n : Node} (tight : startsTight items = true)
      (own : ValueNodes (.entry pairs) items [n]) : ValueNodes (.entries pairs) items [n]
  | more {pairs : Bool} {items others : List Item} {n : Node} {comma : Token} {nodes : List Node}
      (tight : startsTight items = true) (own : ValueNodes (.entry pairs) items [n])
      (between : comma.isSign "," = true) (later : ValueNodes (.entries pairs) others nodes) :
      ValueNodes (.entries pairs) (items ++ .token comma :: others) (n :: comma.plain :: nodes)
  | noEntries {pairs : Bool} : ValueNodes (.inside pairs) [] []
  | someEntries {pairs : Bool} {items : List Item} {nodes : List Node}
      (all : ValueNodes (.entries pairs) items nodes) : ValueNodes (.inside pairs) items nodes
  | noPieces : ValueNodes .pieces [] []
  | chars {t : Token} {rest : List Item} {nodes : List Node} (means : t.kind = .chars)
      (later : ValueNodes .pieces rest nodes) :
      ValueNodes .pieces (.token t :: rest) (t.leaf "string_fragment" :: nodes)
  | hole {opening closing : Token} {items rest : List Item} {n : Node} {nodes : List Node}
      (opens : opening.text = "$\x7b".toList) (closes : closing.isTightly "\x7d" = true)
      (starts : startsTight items = true) (inner : ValueNodes .whole items [n])
      (later : ValueNodes .pieces rest nodes) :
      ValueNodes .pieces (.group opening items (some closing) :: rest)
        (nodeOf "template_substitution" [.group opening items (some closing)]
          (enclosed opening [n] closing) :: nodes)

inductive StatementForm where
  | one
  | rows

inductive StatementNodes : StatementForm → List Item → List Node → Prop
  | const {start name sign semicolon : Token} {items : List Item} {value : Node}
      (starts : start.isWord "const" = true) (tight : name.isTight = true)
      (plain : name.isPlainName = true) (between : sign.isSign "=" = true)
      (onward : startsTight items = true) (given : ValueNodes .whole items [value])
      (ends : semicolon.isSign ";" = true) :
      StatementNodes .one
        (.token start :: .token name :: .token sign :: (items ++ [.token semicolon]))
        [nodeOf "lexical_declaration"
          (.token start :: .token name :: .token sign :: (items ++ [.token semicolon]))
          [start.plain.as "kind",
            nodeOf "variable_declarator" (.token name :: .token sign :: items)
              [(name.leaf "identifier").as "name", sign.plain, value.as "value"],
            semicolon.plain]]
  | throw {start semicolon : Token} {items : List Item} {value : Node}
      (starts : start.isWord "throw" = true) (onward : startsTight items = true)
      (given : ValueNodes .whole items [value]) (ends : semicolon.isSign ";" = true) :
      StatementNodes .one (.token start :: (items ++ [.token semicolon]))
        [nodeOf "throw_statement" (.token start :: (items ++ [.token semicolon]))
          [start.plain, value, semicolon.plain]]
  | return_ {start semicolon : Token} {items : List Item} {value : Node}
      (starts : start.isWord "return" = true) (onward : startsTight items = true)
      (given : ValueNodes .whole items [value]) (ends : semicolon.isSign ";" = true) :
      StatementNodes .one (.token start :: (items ++ [.token semicolon]))
        [nodeOf "return_statement" (.token start :: (items ++ [.token semicolon]))
          [start.plain, value, semicolon.plain]]
  | branch {start first last opening closing : Token} {condition items : List Item} {n : Node}
      {nodes : List Node} (starts : start.isWord "if" = true)
      (parens : isParens first last = true) (onward : startsTight condition = true)
      (asked : ValueNodes .whole condition [n]) (braces : isBraces opening closing = true)
      (inner : StatementNodes .rows items nodes) :
      StatementNodes .one
        [.token start, .group first condition (some last), .group opening items (some closing)]
        [nodeOf "if_statement"
          [.token start, .group first condition (some last), .group opening items (some closing)]
          [start.plain,
            (nodeOf "parenthesized_expression" [.group first condition (some last)]
              (enclosed first [n] last)).as "condition",
            (nodeOf "statement_block" [.group opening items (some closing)]
              (enclosed opening nodes closing)).as "consequence"]]
  | expression {start semicolon : Token} {items : List Item} {value : Node}
      (starts : start.isWord "this" = true ∨ start.isPlainName = true)
      (given : ValueNodes .whole (.token start :: items) [value])
      (ends : semicolon.isSign ";" = true) :
      StatementNodes .one (.token start :: (items ++ [.token semicolon]))
        [nodeOf "expression_statement" (.token start :: (items ++ [.token semicolon]))
          [value, semicolon.plain]]
  | none : StatementNodes .rows [] []
  | next {item : Item} {items rest : List Item} {nodes others : List Node}
      {comments : List (List Char × Nat)} (gap : GapOf item.first.lead comments)
      (own : StatementNodes .one (item :: items) nodes) (later : StatementNodes .rows rest others) :
      StatementNodes .rows (item :: items ++ rest)
        (commentsAt item.left comments ++ (nodes ++ others))

inductive AnnotationNode : List Item → Node → Prop
  | mk {colon : Token} {items : List Item} {n : Node} (starts : colon.isSign ":" = true)
      (typed : TypeNodes .whole items [n]) :
      AnnotationNode (.token colon :: items)
        (nodeOf "type_annotation" (.token colon :: items) [colon.plain, n])

inductive ParameterNode : List Item → Node → Prop
  | mk {name : Token} {items : List Item} {type : Node} (tight : name.isTight = true)
      (named : name.isName = true) (typed : AnnotationNode items type) :
      ParameterNode (.token name :: items)
        (nodeOf "required_parameter" (.token name :: items)
          [name.nameNode.as "pattern", type.as "type"])

inductive ParametersNode : List Item → Node → Prop
  | mk {opening closing : Token} {items : List Item} {nodes : List Node}
      (between : isParens opening closing = true) (inner : Listed ParameterNode items nodes) :
      ParametersNode [.group opening items (some closing)]
        (nodeOf "formal_parameters" [.group opening items (some closing)]
          (enclosed opening nodes closing))

inductive PropertyNodes : List Item → List Node → Prop
  | required {name semicolon : Token} {items : List Item} {type : Node}
      (plain : name.isPlainName = true) (typed : AnnotationNode items type)
      (ends : semicolon.isSign ";" = true) :
      PropertyNodes (.token name :: (items ++ [.token semicolon]))
        [nodeOf "property_signature" (.token name :: items)
          [(name.leaf "property_identifier").as "name", type.as "type"], semicolon.plain]
  | optional {name sign semicolon : Token} {items : List Item} {type : Node}
      (plain : name.isPlainName = true) (asks : sign.isSign "?" = true)
      (typed : AnnotationNode items type) (ends : semicolon.isSign ";" = true) :
      PropertyNodes (.token name :: .token sign :: (items ++ [.token semicolon]))
        [nodeOf "property_signature" (.token name :: .token sign :: items)
          [(name.leaf "property_identifier").as "name", sign.plain, type.as "type"],
          semicolon.plain]

inductive BodyNode : List Item → Node → Prop
  | mk {opening closing : Token} {items : List Item} {nodes : List Node}
      (braces : isBraces opening closing = true) (inner : StatementNodes .rows items nodes) :
      BodyNode [.group opening items (some closing)]
        (nodeOf "statement_block" [.group opening items (some closing)]
          (enclosed opening nodes closing))

inductive MemberNodes : List Item → List Node → Prop
  | field {start readonly name semicolon : Token} {items : List Item} {type : Node}
      (starts : start.isWord "private" = true) (fixed : readonly.isKey "readonly" = true)
      (tight : name.isTight = true) (plain : name.isPlainName = true)
      (typed : AnnotationNode items type) (ends : semicolon.isSign ";" = true) :
      MemberNodes
        (.token start :: .token readonly :: .token name :: (items ++ [.token semicolon]))
        [nodeOf "public_field_definition"
          (.token start :: .token readonly :: .token name :: items)
          [nodeOf "accessibility_modifier" [.token start] [start.plain], readonly.plain,
            (name.leaf "property_identifier").as "name", type.as "type"], semicolon.plain]
  | async {start name : Token} {params items block : List Item} {list type body : Node}
      (starts : start.isWord "async" = true) (tight : name.isTight = true)
      (plain : name.isPlainName = true) (takes : ParametersNode params list)
      (typed : AnnotationNode items type) (does : BodyNode block body) :
      MemberNodes (.token start :: .token name :: (params ++ (items ++ block)))
        [nodeOf "method_definition" (.token start :: .token name :: (params ++ (items ++ block)))
          [start.plain, (name.leaf "property_identifier").as "name", list.as "parameters",
            type.as "return_type", body.as "body"]]
  | method {name : Token} {params block : List Item} {list body : Node}
      (plain : name.isPlainName = true) (takes : ParametersNode params list)
      (does : BodyNode block body) :
      MemberNodes (.token name :: (params ++ block))
        [nodeOf "method_definition" (.token name :: (params ++ block))
          [(name.leaf "property_identifier").as "name", list.as "parameters", body.as "body"]]

inductive DeclarationNode : List Item → Node → Prop
  | typeAlias {start name sign semicolon : Token} {items : List Item} {type : Node}
      (starts : start.isKey "type" = true) (tight : name.isTight = true)
      (plain : name.isPlainName = true) (between : sign.isSign "=" = true)
      (typed : TypeNodes .whole items [type]) (ends : semicolon.isSign ";" = true) :
      DeclarationNode
        (.token start :: .token name :: .token sign :: (items ++ [.token semicolon]))
        (nodeOf "type_alias_declaration"
          (.token start :: .token name :: .token sign :: (items ++ [.token semicolon]))
          [start.plain, (name.leaf "type_identifier").as "name", sign.plain, type.as "value",
            semicolon.plain])
  | interface {start name opening closing : Token} {items : List Item} {nodes : List Node}
      (starts : start.isKey "interface" = true) (tight : name.isTight = true)
      (plain : name.isPlainName = true) (braces : isBraces opening closing = true)
      (inner : Rows PropertyNodes items nodes) :
      DeclarationNode [.token start, .token name, .group opening items (some closing)]
        (nodeOf "interface_declaration"
          [.token start, .token name, .group opening items (some closing)]
          [start.plain, (name.leaf "type_identifier").as "name",
            (nodeOf "interface_body" [.group opening items (some closing)]
              (enclosed opening nodes closing)).as "body"])
  | class_ {start name opening closing : Token} {items : List Item} {nodes : List Node}
      (starts : start.isKey "class" = true) (tight : name.isTight = true)
      (plain : name.isPlainName = true) (braces : isBraces opening closing = true)
      (inner : Rows MemberNodes items nodes) :
      DeclarationNode [.token start, .token name, .group opening items (some closing)]
        (nodeOf "class_declaration"
          [.token start, .token name, .group opening items (some closing)]
          [start.plain, (name.leaf "type_identifier").as "name",
            (nodeOf "class_body" [.group opening items (some closing)]
              (enclosed opening nodes closing)).as "body"])

inductive SpecifierNode : List Item → Node → Prop
  | mk {name : Token} (tight : name.isTight = true) (plain : name.isPlainName = true) :
      SpecifierNode [.token name]
        (nodeOf "import_specifier" [.token name] [(name.leaf "identifier").as "name"])

-- What stands at the top of a program.
inductive TopNodes : List Item → List Node → Prop
  | export_ {start : Token} {items : List Item} {declared : Node}
      (starts : start.isWord "export" = true) (declares : DeclarationNode items declared) :
      TopNodes (.token start :: items)
        [nodeOf "export_statement" (.token start :: items)
          [start.plain, declared.as "declaration"]]
  | import_ {start type opening closing from_ source semicolon : Token} {items : List Item}
      {nodes : List Node} (starts : start.isWord "import" = true) (types : type.isKey "type" = true)
      (opens : opening.isTightly "\x7b" = true) (closes : closing.isTightly "\x7d" = true)
      (inner : Listed SpecifierNode items nodes) (behind : from_.isKey "from" = true)
      (tight : source.isTight = true) (plain : source.isPlainString = true)
      (ends : semicolon.isSign ";" = true) :
      TopNodes
        [.token start, .token type, .group opening items (some closing), .token from_,
          .token source, .token semicolon]
        [nodeOf "import_statement"
          [.token start, .token type, .group opening items (some closing), .token from_,
            .token source, .token semicolon]
          [start.plain, type.plain,
            nodeOf "import_clause" [.group opening items (some closing)]
              [nodeOf "named_imports" [.group opening items (some closing)]
                (enclosed opening nodes closing)],
            from_.plain, source.stringNode.as "source", semicolon.plain]]

-- The syntax tree of a text that is a program of the grammar: its items, each at its place, with
-- nothing but blanks behind them.
inductive Parses : String → Node → Prop
  | mk {source : String} {items : List Item} {tail : List Char} {nodes : List Node}
      (some_ : items ≠ []) (spells : source.toList = charsOf items ++ tail)
      (fits : FitAll false items tail) (blank : tail.all isBlank = true)
      (rows : Rows TopNodes (settleAll tail.length items) nodes) :
      Parses source (programNode source.toList nodes)

-- What a parser of the language does on a text of this grammar.
def FollowsGrammar [Parser] (source : String) : Prop :=
  ∀ tree, Parses source tree → Parser.parse source = tree

end ApiContract.Script
