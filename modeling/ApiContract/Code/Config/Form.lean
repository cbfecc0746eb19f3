import ApiContract.Code.Decl

/-!
The written forms of code fragments: which kinds there are, to which family each belongs, and which
fields a record of each kind has.
-/

set_option autoImplicit false

namespace ApiContract.Code.Config

inductive Shape where
  | text
  | flag
  | type
  | expr
  | stmt
  | decl
  | member
  | literal
  | binaryOp
  | unaryOp
  | binding
  | visibility
  | objectField
  | part
  | param
  | property
  | list (item : Shape)
  | optional (value : Shape)

inductive Form where
  | ident
  | literal
  | call
  | construct
  | member
  | index
  | binary
  | unary
  | await
  | object
  | array
  | template
  | arrow
  | cast
  | conditional
  | expression
  | throw
  | return_
  | declare
  | branch
  | forOf
  | comment
  | import_
  | interface
  | typeAlias
  | const
  | function
  | class_
  | field
  | constructor_
  | method
  | arrayOf
  | union
  | generic
  | literalType
  | objectField
  | param
  | property
deriving DecidableEq

inductive Family where
  | expression
  | statement
  | declaration
  | classMember
  | type
deriving DecidableEq

def Family.name : Family → String
  | .expression => "expression"
  | .statement => "statement"
  | .declaration => "declaration"
  | .classMember => "class_member"
  | .type => "type"

def exprKinds : List (String × Form) := [
  ("ident", .ident), ("literal", .literal), ("call", .call), ("new", .construct),
  ("member", .member), ("index", .index), ("binary", .binary), ("unary", .unary),
  ("await", .await), ("object", .object), ("array", .array), ("template", .template),
  ("arrow", .arrow), ("cast", .cast), ("conditional", .conditional)]

def stmtKinds : List (String × Form) := [
  ("expression", .expression), ("throw", .throw), ("return", .return_), ("declare", .declare),
  ("if", .branch), ("for_of", .forOf), ("comment", .comment)]

def declKinds : List (String × Form) := [
  ("import", .import_), ("interface", .interface), ("type_alias", .typeAlias), ("const", .const),
  ("function", .function), ("class", .class_)]

def memberKinds : List (String × Form) := [
  ("field", .field), ("constructor", .constructor_), ("method", .method)]

def typeKinds : List (String × Form) := [
  ("array_of", .arrayOf), ("union", .union), ("generic", .generic), ("literal_type", .literalType)]

def Family.kinds : Family → List (String × Form)
  | .expression => exprKinds
  | .statement => stmtKinds
  | .declaration => declKinds
  | .classMember => memberKinds
  | .type => typeKinds

def Family.typeName : Family → String
  | .expression => "Expr"
  | .statement => "Stmt"
  | .declaration => "Decl"
  | .classMember => "ClassMember"
  | .type => "TypeRef"

def Family.all : List Family :=
  [.expression, .statement, .declaration, .classMember, .type]

def kinds : List (String × Family) :=
  Family.all.flatMap fun family => family.kinds.map fun entry => (entry.1, family)

def familyOf (kind : String) : Option Family :=
  (kinds.find? fun entry => entry.1 == kind).map (·.2)

def knownKinds : List String :=
  kinds.map (·.1)

inductive Absent where
  | required
  | nothing
  | empty
  | no
  | yes
  | const
  | public_

structure Field where
  name : String
  shape : Shape
  absent : Absent := .required

def Form.title : Form → String
  | .ident => "struct variant Expr::Ident"
  | .literal => "struct variant Expr::Literal"
  | .call => "struct variant Expr::Call"
  | .construct => "struct variant Expr::New"
  | .member => "struct variant Expr::Member"
  | .index => "struct variant Expr::Index"
  | .binary => "struct variant Expr::Binary"
  | .unary => "struct variant Expr::Unary"
  | .await => "struct variant Expr::Await"
  | .object => "struct variant Expr::Object"
  | .array => "struct variant Expr::Array"
  | .template => "struct variant Expr::Template"
  | .arrow => "struct variant Expr::Arrow"
  | .cast => "struct variant Expr::Cast"
  | .conditional => "struct variant Expr::Conditional"
  | .expression => "struct variant Stmt::Expression"
  | .throw => "struct variant Stmt::Throw"
  | .return_ => "struct variant Stmt::Return"
  | .declare => "struct variant Stmt::Declare"
  | .branch => "struct variant Stmt::If"
  | .forOf => "struct variant Stmt::ForOf"
  | .comment => "struct variant Stmt::Comment"
  | .import_ => "struct variant Decl::Import"
  | .interface => "struct variant Decl::Interface"
  | .typeAlias => "struct variant Decl::TypeAlias"
  | .const => "struct variant Decl::Const"
  | .function => "struct variant Decl::Function"
  | .class_ => "struct variant Decl::Class"
  | .field => "struct variant ClassMember::Field"
  | .constructor_ => "struct variant ClassMember::Constructor"
  | .method => "struct variant ClassMember::Method"
  | .arrayOf => "struct variant TypeRef::ArrayOf"
  | .union => "struct variant TypeRef::Union"
  | .generic => "struct variant TypeRef::Generic"
  | .literalType => "struct variant TypeRef::LiteralType"
  | .objectField => "struct ObjectProp"
  | .param => "struct Param"
  | .property => "struct Property"

def Form.fields : Form → List Field
  | .ident => [⟨"name", .text, .required⟩]
  | .literal => [⟨"value", .literal, .required⟩]
  | .call => [⟨"callee", .expr, .required⟩, ⟨"args", .list .expr, .empty⟩]
  | .construct => [⟨"callee", .expr, .required⟩, ⟨"args", .list .expr, .empty⟩]
  | .member =>
      [⟨"object", .expr, .required⟩, ⟨"property", .text, .required⟩, ⟨"optional", .flag, .no⟩]
  | .index => [⟨"object", .expr, .required⟩, ⟨"index", .expr, .required⟩]
  | .binary =>
      [⟨"left", .expr, .required⟩, ⟨"op", .binaryOp, .required⟩, ⟨"right", .expr, .required⟩]
  | .unary => [⟨"op", .unaryOp, .required⟩, ⟨"operand", .expr, .required⟩]
  | .await => [⟨"expr", .expr, .required⟩]
  | .object => [⟨"props", .list .objectField, .empty⟩]
  | .array => [⟨"items", .list .expr, .empty⟩]
  | .template => [⟨"parts", .list .part, .required⟩]
  | .arrow =>
      [⟨"params", .list .param, .empty⟩, ⟨"body", .expr, .required⟩, ⟨"is_async", .flag, .no⟩]
  | .cast => [⟨"expr", .expr, .required⟩, ⟨"type", .type, .required⟩]
  | .conditional =>
      [⟨"test", .expr, .required⟩, ⟨"then", .expr, .required⟩, ⟨"else", .expr, .required⟩]
  | .expression => [⟨"expression", .expr, .required⟩]
  | .throw => [⟨"expression", .expr, .required⟩]
  | .return_ => [⟨"value", .optional .expr, .nothing⟩]
  | .declare =>
      [⟨"binding", .binding, .const⟩, ⟨"name", .text, .required⟩,
       ⟨"type", .optional .type, .nothing⟩, ⟨"init", .optional .expr, .nothing⟩]
  | .branch =>
      [⟨"test", .expr, .required⟩, ⟨"then", .list .stmt, .empty⟩,
       ⟨"else", .optional (.list .stmt), .nothing⟩]
  | .forOf =>
      [⟨"binding", .binding, .const⟩, ⟨"name", .text, .required⟩,
       ⟨"iterable", .expr, .required⟩, ⟨"body", .list .stmt, .empty⟩]
  | .comment => [⟨"text", .text, .required⟩]
  | .import_ =>
      [⟨"names", .list .text, .empty⟩, ⟨"from", .text, .required⟩, ⟨"type_only", .flag, .no⟩]
  | .interface =>
      [⟨"name", .text, .required⟩, ⟨"export", .flag, .yes⟩, ⟨"extends", .list .text, .empty⟩,
       ⟨"properties", .list .property, .empty⟩, ⟨"doc", .optional .text, .nothing⟩]
  | .typeAlias =>
      [⟨"name", .text, .required⟩, ⟨"export", .flag, .yes⟩, ⟨"type", .type, .required⟩,
       ⟨"doc", .optional .text, .nothing⟩]
  | .const =>
      [⟨"name", .text, .required⟩, ⟨"export", .flag, .yes⟩, ⟨"type", .optional .type, .nothing⟩,
       ⟨"init", .expr, .required⟩, ⟨"doc", .optional .text, .nothing⟩]
  | .function =>
      [⟨"name", .text, .required⟩, ⟨"export", .flag, .yes⟩, ⟨"is_async", .flag, .no⟩,
       ⟨"params", .list .param, .empty⟩, ⟨"returns", .optional .type, .nothing⟩,
       ⟨"body", .list .stmt, .empty⟩, ⟨"doc", .optional .text, .nothing⟩]
  | .class_ =>
      [⟨"name", .text, .required⟩, ⟨"export", .flag, .yes⟩, ⟨"extends", .optional .text, .nothing⟩,
       ⟨"members", .list .member, .empty⟩, ⟨"doc", .optional .text, .nothing⟩]
  | .field =>
      [⟨"name", .text, .required⟩, ⟨"type", .optional .type, .nothing⟩,
       ⟨"visibility", .visibility, .public_⟩, ⟨"readonly", .flag, .no⟩,
       ⟨"init", .optional .expr, .nothing⟩]
  | .constructor_ => [⟨"params", .list .param, .empty⟩, ⟨"body", .list .stmt, .empty⟩]
  | .method =>
      [⟨"name", .text, .required⟩, ⟨"visibility", .visibility, .public_⟩, ⟨"is_async", .flag, .no⟩,
       ⟨"params", .list .param, .empty⟩, ⟨"returns", .optional .type, .nothing⟩,
       ⟨"body", .list .stmt, .empty⟩, ⟨"doc", .optional .text, .nothing⟩]
  | .arrayOf => [⟨"of", .type, .required⟩]
  | .union => [⟨"of", .list .type, .required⟩]
  | .generic => [⟨"name", .text, .required⟩, ⟨"args", .list .type, .required⟩]
  | .literalType => [⟨"value", .text, .required⟩]
  | .objectField => [⟨"key", .text, .required⟩, ⟨"value", .expr, .required⟩]
  | .param =>
      [⟨"name", .text, .required⟩, ⟨"type", .optional .type, .nothing⟩, ⟨"optional", .flag, .no⟩,
       ⟨"default", .optional .expr, .nothing⟩]
  | .property =>
      [⟨"name", .text, .required⟩, ⟨"type", .type, .required⟩, ⟨"optional", .flag, .no⟩,
       ⟨"readonly", .flag, .no⟩, ⟨"doc", .optional .text, .nothing⟩]

end ApiContract.Code.Config
