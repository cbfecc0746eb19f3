import ApiContract.Script.Expression

/-!
Statements, declarations and whole programs read exactly, as trees. Each row, a statement or a member,
begins where it likes, with its comments in front, and stands on one line but for the blocks in it.
-/

set_option autoImplicit false

namespace ApiContract.Script

-- Rows one after the other, with the comments in front of each.
def parseRows? (read : List Item → Option (List Node × List Item)) :
    Nat → List Item → Option (List Node)
  | _, [] => some []
  | 0, _ => none
  | count + 1, item :: items => do
      let (nodes, rest) ← read (item :: items)
      let others ← parseRows? read count rest
      some (commentNodes item.first.lead item.left ++ (nodes ++ others))

-- A block with rows in it.
def parseBlock? (kind : String) (read : List Item → Option (List Node × List Item)) :
    List Item → Option (Node × List Item)
  | .group opening items (some closing) :: rest => do
      guard (isBraces opening closing)
      let nodes ← parseRows? read items.length items
      some (nodeOf kind [.group opening items (some closing)] (enclosed opening nodes closing), rest)
  | _ => none

def parseCondition? (fuel : Nat) : List Item → Option (Node × List Item)
  | .group opening items (some closing) :: rest => do
      guard (isParens opening closing)
      (parseGroup? fuel opening items closing).map (·, rest)
  | _ => none

def parseStatement? : Nat → List Item → Option (List Node × List Item)
  | fuel + 1, .token start :: items =>
      if start.isWord "const" then do
        let (name, others) ← plainName? items
        let (sign, others) ← sign? "=" others
        let (value, after) ← inLine (parseExpression? fuel) others
        let (semicolon, rest) ← sign? ";" after
        let declarator := nodeOf "variable_declarator" (upTo after items)
          [(name.leaf "identifier").as "name", sign.plain, value.as "value"]
        some ([nodeOf "lexical_declaration" (.token start :: upTo rest items)
          [start.plain.as "kind", declarator, semicolon.plain]], rest)
      else if start.isWord "throw" || start.isWord "return" then do
        let (e, after) ← inLine (parseExpression? fuel) items
        let (semicolon, rest) ← sign? ";" after
        let kind := if start.isWord "throw" then "throw_statement" else "return_statement"
        some ([nodeOf kind (.token start :: upTo rest items) [start.plain, e, semicolon.plain]], rest)
      else if start.isWord "if" then do
        let (condition, others) ← parseCondition? fuel items
        let (block, rest) ← parseBlock? "statement_block" (parseStatement? fuel) others
        some ([nodeOf "if_statement" (.token start :: upTo rest items)
          [start.plain, condition.as "condition", block.as "consequence"]], rest)
      else do
        guard (start.isWord "this" || start.isPlainName)
        let (e, after) ← parseExpression? fuel (.token start :: items)
        let (semicolon, rest) ← sign? ";" after
        some ([nodeOf "expression_statement" (upTo rest (.token start :: items))
          [e, semicolon.plain]], rest)
  | _, _ => none

def parseAnnotation? (fuel : Nat) (items : List Item) : Option (Node × List Item) := do
  let (colon, others) ← sign? ":" items
  let (t, rest) ← parseType? fuel others
  some (nodeOf "type_annotation" (upTo rest items) [colon.plain, t], rest)

def parseParameter? (fuel : Nat) : List Item → Option (Node × List Item)
  | .token name :: items => do
      guard (name.isTight && name.isName)
      let (type, rest) ← parseAnnotation? fuel items
      some (nodeOf "required_parameter" (.token name :: upTo rest items)
        [name.nameNode.as "pattern", type.as "type"], rest)
  | _ => none

def parseParameters? (fuel : Nat) : List Item → Option (Node × List Item)
  | .group opening items (some closing) :: rest => do
      guard (isParens opening closing)
      let nodes ← parseInside? (parseParameter? fuel) items
      some (nodeOf "formal_parameters" [.group opening items (some closing)]
        (enclosed opening nodes closing), rest)
  | _ => none

def parseProperty? (fuel : Nat) : List Item → Option (List Node × List Item)
  | .token name :: items => do
      guard name.isPlainName
      let (optional, others) :=
        match sign? "?" items with
        | some (sign, others) => ([sign.plain], others)
        | none => ([], items)
      let (type, after) ← parseAnnotation? fuel others
      let (semicolon, rest) ← sign? ";" after
      some ([nodeOf "property_signature" (.token name :: upTo after items)
        ((name.leaf "property_identifier").as "name" :: (optional ++ [type.as "type"])),
        semicolon.plain], rest)
  | _ => none

def parseBody? (fuel : Nat) (items : List Item) : Option (Node × List Item) :=
  parseBlock? "statement_block" (parseStatement? fuel) items

def parseMember? (fuel : Nat) : List Item → Option (List Node × List Item)
  | .token start :: items =>
      if start.isWord "private" then do
        let (readonly, others) ← key? "readonly" items
        let (name, others) ← plainName? others
        let (type, after) ← parseAnnotation? fuel others
        let (semicolon, rest) ← sign? ";" after
        some ([nodeOf "public_field_definition" (.token start :: upTo after items)
          [nodeOf "accessibility_modifier" [.token start] [start.plain], readonly.plain,
            (name.leaf "property_identifier").as "name", type.as "type"], semicolon.plain], rest)
      else if start.isWord "async" then do
        let (name, others) ← plainName? items
        let (parameters, others) ← parseParameters? fuel others
        let (type, others) ← parseAnnotation? fuel others
        let (body, rest) ← parseBody? fuel others
        some ([nodeOf "method_definition" (.token start :: upTo rest items)
          [start.plain, (name.leaf "property_identifier").as "name", parameters.as "parameters",
            type.as "return_type", body.as "body"]], rest)
      else do
        guard start.isPlainName
        let (parameters, others) ← parseParameters? fuel items
        let (body, rest) ← parseBody? fuel others
        some ([nodeOf "method_definition" (.token start :: upTo rest items)
          [(start.leaf "property_identifier").as "name", parameters.as "parameters",
            body.as "body"]], rest)
  | _ => none

def parseDeclared? (fuel : Nat) : List Item → Option (Node × List Item)
  | .token start :: items => do
      guard start.isTight
      let (name, others) ← plainName? items
      let called := (name.leaf "type_identifier").as "name"
      if start.isWord "type" then do
        let (sign, others) ← sign? "=" others
        let (type, after) ← parseType? fuel others
        let (semicolon, rest) ← sign? ";" after
        some (nodeOf "type_alias_declaration" (.token start :: upTo rest items)
          [start.plain, called, sign.plain, type.as "value", semicolon.plain], rest)
      else if start.isWord "interface" then do
        let (body, rest) ← parseBlock? "interface_body" (parseProperty? fuel) others
        some (nodeOf "interface_declaration" (.token start :: upTo rest items)
          [start.plain, called, body.as "body"], rest)
      else if start.isWord "class" then do
        let (body, rest) ← parseBlock? "class_body" (parseMember? fuel) others
        some (nodeOf "class_declaration" (.token start :: upTo rest items)
          [start.plain, called, body.as "body"], rest)
      else none
  | _ => none

def parseSpecifier? (items : List Item) : Option (Node × List Item) := do
  let (name, rest) ← plainName? items
  some (nodeOf "import_specifier" [.token name] [(name.leaf "identifier").as "name"], rest)

def parseSource? : List Item → Option (Token × List Item)
  | .token t :: rest => if t.isTight && t.isPlainString then some (t, rest) else none
  | _ => none

def parseNames? : List Item → Option (Node × List Item)
  | .group opening items (some closing) :: rest => do
      guard (opening.isTightly "\x7b" && closing.isTightly "\x7d")
      let nodes ← parseInside? parseSpecifier? items
      let group := Item.group opening items (some closing)
      some (nodeOf "import_clause" [group]
        [nodeOf "named_imports" [group] (enclosed opening nodes closing)], rest)
  | _ => none

def parseTop? (fuel : Nat) : List Item → Option (List Node × List Item)
  | .token start :: items =>
      if start.isWord "export" then do
        let (declared, rest) ← parseDeclared? fuel items
        some ([nodeOf "export_statement" (.token start :: upTo rest items)
          [start.plain, declared.as "declaration"]], rest)
      else if start.isWord "import" then do
        let (type, others) ← key? "type" items
        let (clause, others) ← parseNames? others
        let (from_, others) ← key? "from" others
        let (source, others) ← parseSource? others
        let (semicolon, rest) ← sign? ";" others
        some ([nodeOf "import_statement" (.token start :: upTo rest items)
          [start.plain, type.plain, clause, from_.plain, source.stringNode.as "source",
            semicolon.plain]], rest)
      else none
  | _ => none

-- The nodes of a whole program, with enough fuel for what is nested in it.
def parseProgram? (fuel : Nat) (items : List Item) : Option (List Node) :=
  parseRows? (parseTop? fuel) items.length items

end ApiContract.Script
