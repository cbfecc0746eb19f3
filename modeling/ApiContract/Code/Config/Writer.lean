import ApiContract.Code.Config.Piece
import ApiContract.Json.Basic

/-!
Writing code fragments as JSON values. Fields that hold what they would hold when left out are left
out, except for those that are always told.
-/

set_option autoImplicit false

namespace ApiContract.Code

open Json (optional flag texts)

def kindJson (kind : String) (fields : List (String × Json)) : Json :=
  .object (("kind", .text kind) :: fields)

mutual

def TypeExpr.toJson : TypeExpr → Json
  | .named name => .text name
  | .arrayOf element => kindJson "array_of" [("of", element.toJson)]
  | .union members => kindJson "union" [("of", .array (TypeExpr.allToJson members))]
  | .generic name args =>
      kindJson "generic" [("name", .text name), ("args", .array (TypeExpr.allToJson args))]
  | .literal value => kindJson "literal_type" [("value", .text value)]

def TypeExpr.allToJson : List TypeExpr → List Json
  | [] => []
  | t :: rest => t.toJson :: TypeExpr.allToJson rest

end

def optionalType (type : Option TypeExpr) : List (String × Json) :=
  optional "type" (type.map TypeExpr.toJson)

def Literal.toJson : Literal → Json
  | .null => .null
  | .bool value => .bool value
  | .int value => .int value
  | .float value => .float value
  | .text value => .text value

mutual

def Expr.toJson : Expr → Json
  | .raw code => .text code
  | .ident name => kindJson "ident" [("name", .text name)]
  | .literal value => kindJson "literal" [("value", value.toJson)]
  | .call callee args =>
      kindJson "call" [("callee", callee.toJson), ("args", .array (Expr.allToJson args))]
  | .construct callee args =>
      kindJson "new" [("callee", callee.toJson), ("args", .array (Expr.allToJson args))]
  | .member target name isOptional =>
      kindJson "member"
        ([("object", target.toJson), ("property", .text name)] ++ flag "optional" isOptional)
  | .index target key => kindJson "index" [("object", target.toJson), ("index", key.toJson)]
  | .binary left op right =>
      kindJson "binary"
        [("left", left.toJson), ("op", .text op.symbol), ("right", right.toJson)]
  | .unary op operand =>
      kindJson "unary" [("op", .text op.word), ("operand", operand.toJson)]
  | .await operand => kindJson "await" [("expr", operand.toJson)]
  | .object fields => kindJson "object" [("props", .array (Expr.fieldsToJson fields))]
  | .array items => kindJson "array" [("items", .array (Expr.allToJson items))]
  | .template parts => kindJson "template" [("parts", .array (Expr.partsToJson parts))]
  | .arrow params body isAsync =>
      kindJson "arrow"
        ([("params", .array (Expr.paramsToJson params)), ("body", body.toJson)] ++
          flag "is_async" isAsync)
  | .cast operand type =>
      kindJson "cast" [("expr", operand.toJson), ("type", type.toJson)]
  | .conditional test whenTrue whenFalse =>
      kindJson "conditional"
        [("test", test.toJson), ("then", whenTrue.toJson), ("else", whenFalse.toJson)]

def Expr.allToJson : List Expr → List Json
  | [] => []
  | e :: rest => e.toJson :: Expr.allToJson rest

def Expr.fieldsToJson : List (String × Expr) → List Json
  | [] => []
  | (key, value) :: rest =>
      .object [("key", .text key), ("value", value.toJson)] :: Expr.fieldsToJson rest

def Expr.partsToJson : List TemplatePart → List Json
  | [] => []
  | .text text :: rest => .object [("text", .text text)] :: Expr.partsToJson rest
  | .hole value :: rest => .object [("expr", value.toJson)] :: Expr.partsToJson rest

def Expr.paramsToJson : List Param → List Json
  | [] => []
  | .mk name type isOptional default :: rest =>
      .object ([("name", .text name)] ++ optionalType type ++ flag "optional" isOptional ++
        (match default with
         | some value => [("default", value.toJson)]
         | none => [])) :: Expr.paramsToJson rest

end

def optionalExpr (name : String) (value : Option Expr) : List (String × Json) :=
  optional name (value.map Expr.toJson)

mutual

def Stmt.toJson : Stmt → Json
  | .expression value => kindJson "expression" [("expression", value.toJson)]
  | .throw value => kindJson "throw" [("expression", value.toJson)]
  | .return_ value => kindJson "return" (optionalExpr "value" value)
  | .declare binding name type init =>
      kindJson "declare"
        ([("binding", .text binding.word), ("name", .text name)] ++ optionalType type ++
          optionalExpr "init" init)
  | .branch test whenTrue whenFalse =>
      kindJson "if"
        ([("test", test.toJson), ("then", .array (Stmt.allToJson whenTrue))] ++
          (match whenFalse with
           | some body => [("else", .array (Stmt.allToJson body))]
           | none => []))
  | .forOf binding name iterable body =>
      kindJson "for_of"
        [("binding", .text binding.word), ("name", .text name), ("iterable", iterable.toJson),
         ("body", .array (Stmt.allToJson body))]
  | .comment text => kindJson "comment" [("text", .text text)]

def Stmt.allToJson : List Stmt → List Json
  | [] => []
  | s :: rest => s.toJson :: Stmt.allToJson rest

end

def optionalDoc (doc : Option String) : List (String × Json) :=
  optional "doc" (doc.map Json.text)

def Property.toJson (p : Property) : Json :=
  .object ([("name", .text p.name), ("type", p.type.toJson)] ++ flag "optional" p.optional ++
    flag "readonly" p.readonly ++ optionalDoc p.doc)

def paramsField (params : List Param) : String × Json :=
  ("params", .array (Expr.paramsToJson params))

def bodyField (body : List Stmt) : String × Json :=
  ("body", .array (Stmt.allToJson body))

def optionalReturns (returns : Option TypeExpr) : List (String × Json) :=
  optional "returns" (returns.map TypeExpr.toJson)

def visibilityField (visibility : Visibility) : String × Json :=
  ("visibility", .text (Config.Visibility.word visibility))

def ClassMember.toJson : ClassMember → Json
  | .field name type visibility isReadonly init =>
      kindJson "field"
        ([("name", .text name)] ++ optionalType type ++ [visibilityField visibility] ++
          flag "readonly" isReadonly ++ optionalExpr "init" init)
  | .constructor_ params body => kindJson "constructor" [paramsField params, bodyField body]
  | .method name visibility isAsync params returns body doc =>
      kindJson "method"
        ([("name", .text name), visibilityField visibility] ++ flag "is_async" isAsync ++
          [paramsField params] ++ optionalReturns returns ++ [bodyField body] ++ optionalDoc doc)

def Decl.toJson : Decl → Json
  | .import_ names path typeOnly =>
      kindJson "import"
        ([("names", texts names), ("from", .text path)] ++ flag "type_only" typeOnly)
  | .interface name isExported parents properties doc =>
      kindJson "interface"
        ([("name", .text name), ("export", .bool isExported)] ++
          (if parents.isEmpty then [] else [("extends", texts parents)]) ++
          [("properties", .array (properties.map Property.toJson))] ++ optionalDoc doc)
  | .typeAlias name isExported type doc =>
      kindJson "type_alias"
        ([("name", .text name), ("export", .bool isExported), ("type", type.toJson)] ++
          optionalDoc doc)
  | .const name isExported type init doc =>
      kindJson "const"
        ([("name", .text name), ("export", .bool isExported)] ++ optionalType type ++
          [("init", init.toJson)] ++ optionalDoc doc)
  | .function name isExported isAsync params returns body doc =>
      kindJson "function"
        ([("name", .text name), ("export", .bool isExported)] ++ flag "is_async" isAsync ++
          [paramsField params] ++ optionalReturns returns ++ [bodyField body] ++ optionalDoc doc)
  | .class_ name isExported parent members doc =>
      kindJson "class"
        ([("name", .text name), ("export", .bool isExported)] ++
          optional "extends" (parent.map Json.text) ++
          [("members", .array (members.map ClassMember.toJson))] ++ optionalDoc doc)

end ApiContract.Code
