import ApiContract.Script.Tree
import ApiContract.Script.Type

/-!
Types and expressions read exactly, as trees. What is read here stands on one line and has no comments
within; anything else is not read. The fuel bounds the nesting.
-/

set_option autoImplicit false

namespace ApiContract.Script

def sign? (mark : String) : List Item → Option (Token × List Item)
  | .token t :: rest => if t.isSign mark then some (t, rest) else none
  | _ => none

def key? (word : String) : List Item → Option (Token × List Item)
  | .token t :: rest => if t.isKey word then some (t, rest) else none
  | _ => none

-- A name that is no word of the language.
def plainName? : List Item → Option (Token × List Item)
  | .token t :: rest => if t.isTight && t.isPlainName then some (t, rest) else none
  | _ => none

-- What is read, if nothing is left behind it.
def allOf {α : Type} : Option (α × List Item) → Option α
  | some (a, []) => some a
  | _ => none

-- What is read of items that go on in the line they are in.
def inLine (read : List Item → Option (Node × List Item)) (items : List Item) :
    Option (Node × List Item) :=
  if startsTight items then read items else none

-- What is read one after the other, with commas between.
def parseSeparated? (read : List Item → Option (Node × List Item)) :
    Nat → List Item → Option (List Node × List Item)
  | 0, _ => none
  | count + 1, items => do
      let (n, rest) ← read items
      match sign? "," rest with
      | some (comma, others) => do
          let (nodes, after) ← parseSeparated? read count others
          some (n :: comma.plain :: nodes, after)
      | none => some ([n], rest)

-- What stands between two brackets, one after the other.
def parseInside? (read : List Item → Option (Node × List Item)) (items : List Item) :
    Option (List Node) :=
  if items.isEmpty then some [] else allOf (parseSeparated? read items.length items)

-- The brackets behind a type that begins with the items `start`.
def parseBrackets (start : List Item) : Node → List Item → Node × List Item
  | t, .group opening [] (some closing) :: rest =>
      if opening.isTightly "[" && closing.isTightly "]" then
        parseBrackets start
          (nodeOf "array_type" (upTo rest start) [t, opening.plain, closing.plain]) rest
      else (t, .group opening [] (some closing) :: rest)
  | t, rest => (t, rest)

mutual

def parseType? : Nat → List Item → Option (Node × List Item)
  | 0, _ => none
  | fuel + 1, items => do
      let (t, rest) ← parsePrimaryType? fuel items
      parseUnion? fuel items t rest

-- The members of a union behind the first ones.
def parseUnion? : Nat → List Item → Node → List Item → Option (Node × List Item)
  | 0, _, _, _ => none
  | fuel + 1, start, t, items =>
      match sign? "|" items with
      | some (bar, rest) => do
          let (other, after) ← parsePrimaryType? fuel rest
          parseUnion? fuel start (nodeOf "union_type" (upTo after start) [t, bar.plain, other]) after
      | none => some (t, items)

def parsePrimaryType? : Nat → List Item → Option (Node × List Item)
  | 0, _ => none
  | fuel + 1, items => do
      let (t, rest) ← parseOneType? fuel items
      some (parseBrackets items t rest)

def parseOneType? : Nat → List Item → Option (Node × List Item)
  | fuel + 1, .token name :: rest =>
      match sign? "<" rest with
      | some (opening, items) => do
          guard (name.isTight && name.isPlainName)
          let (nodes, after) ← parseSeparated? (parseType? fuel) items.length items
          let (closing, after) ← sign? ">" after
          let arguments := nodeOf "type_arguments" (upTo after rest) (enclosed opening nodes closing)
          some (nodeOf "generic_type" (.token name :: upTo after rest)
            [(name.leaf "type_identifier").as "name", arguments.as "type_arguments"], after)
      | none => (typeName? name).map (·, rest)
  | fuel + 1, .group opening items (some closing) :: rest => do
      guard (isParens opening closing)
      let t ← allOf (parseType? fuel items)
      some (nodeOf "parenthesized_type" [.group opening items (some closing)]
        (enclosed opening [t] closing), rest)
  | _, _ => none

end

-- The properties and calls behind an expression that begins with the items `start`.
def parseLinks (arguments? : List Item → Option (List Node)) (start : List Item) :
    Node → List Item → Node × List Item
  | e, .token dot :: .token name :: rest =>
      if dot.isSign "." && name.isTight && name.isPlainName then
        parseLinks arguments? start (memberNode (upTo rest start) e dot name) rest
      else (e, .token dot :: .token name :: rest)
  | e, .group opening items (some closing) :: rest =>
      match if isParens opening closing then arguments? items else none with
      | some nodes =>
          parseLinks arguments? start
            (callNode (upTo rest start) e opening items nodes closing) rest
      | none => (e, .group opening items (some closing) :: rest)
  | e, rest => (e, rest)

mutual

def parseExpression? : Nat → List Item → Option (Node × List Item)
  | 0, _ => none
  | fuel + 1, items => do
      let (e, rest) ← parseUnary? fuel items
      match key? "as" rest with
      | some (as, others) => do
          let (type, after) ← parseType? fuel others
          some (nodeOf "as_expression" (upTo after items) [e, as.plain, type], after)
      | none =>
          match sign? "=" rest with
          | some (sign, others) => do
              guard (e.kind == "member_expression")
              let (value, after) ← inLine (parseExpression? fuel) others
              some (nodeOf "assignment_expression" (upTo after items)
                [e.as "left", sign.plain, value.as "right"], after)
          | none => some (e, rest)

def parseUnary? : Nat → List Item → Option (Node × List Item)
  | fuel + 1, .token t :: items =>
      if t.isWord "await" then do
        let (e, rest) ← inLine (parseUnary? fuel) items
        some (nodeOf "await_expression" (.token t :: upTo rest items) [t.plain, e], rest)
      else if t.isMark "!" then do
        let (e, rest) ← inLine (parseUnary? fuel) items
        some (nodeOf "unary_expression" (.token t :: upTo rest items)
          [t.plain.as "operator", e.as "argument"], rest)
      else if t.isWord "new" then do
        let (name, others) ← plainName? items
        match others with
        | .group opening inner (some closing) :: rest => do
            guard (isParens opening closing)
            let nodes ← parseInside? (inLine (parseExpression? fuel)) inner
            let arguments := nodeOf "arguments" [.group opening inner (some closing)]
              (enclosed opening nodes closing)
            some (nodeOf "new_expression" (.token t :: upTo rest items)
              [t.plain, (name.leaf "identifier").as "constructor", arguments.as "arguments"], rest)
        | _ => none
      else parseChain? fuel (.token t :: items)
  | fuel + 1, items => parseChain? fuel items
  | 0, _ => none

-- An operand with its properties and calls.
def parseChain? : Nat → List Item → Option (Node × List Item)
  | fuel + 1, .token t :: rest =>
      match operand? t with
      | some e =>
          some (parseLinks (parseInside? (inLine (parseExpression? fuel))) (.token t :: rest) e rest)
      | none => if t.isName then some (t.nameNode, rest) else none
  | fuel + 1, .group opening items (some closing) :: rest => do
      let e ← parseGroup? fuel opening items closing
      some (parseLinks (parseInside? (inLine (parseExpression? fuel)))
        (.group opening items (some closing) :: rest) e rest)
  | _, _ => none

def parseGroup? : Nat → Token → List Item → Token → Option Node
  | 0, _, _, _ => none
  | fuel + 1, opening, items, closing =>
      let group := Item.group opening items (some closing)
      if opening.text == "\x60".toList then do
        let nodes ← parsePieces? fuel items
        some (nodeOf "template_string" [group] (enclosed opening nodes closing))
      else if opening.text == "(".toList && closing.isTightly ")" then do
        let e ← allOf (inLine (parseExpression? fuel) items)
        some (nodeOf "parenthesized_expression" [group] (enclosed opening [e] closing))
      else if opening.text == "\x7b".toList && closing.isTightly "\x7d" then do
        let nodes ← parseInside? (parsePair? fuel) items
        some (nodeOf "object" [group] (enclosed opening nodes closing))
      else none

def parsePair? : Nat → List Item → Option (Node × List Item)
  | fuel + 1, .token name :: items => do
      let key ← keyNode? name
      let (colon, others) ← sign? ":" items
      let (value, rest) ← inLine (parseExpression? fuel) others
      some (nodeOf "pair" (.token name :: upTo rest items)
        [key.as "key", colon.plain, value.as "value"], rest)
  | _, _ => none

-- The pieces of a template.
def parsePieces? : Nat → List Item → Option (List Node)
  | _ + 1, [] => some []
  | fuel + 1, .token t :: rest => do
      guard (t.kind == .chars)
      let nodes ← parsePieces? fuel rest
      some (t.leaf "string_fragment" :: nodes)
  | fuel + 1, .group opening items (some closing) :: rest => do
      guard (opening.text == "$\x7b".toList && closing.isTightly "\x7d")
      let e ← allOf (inLine (parseExpression? fuel) items)
      let nodes ← parsePieces? fuel rest
      some (nodeOf "template_substitution" [.group opening items (some closing)]
        (enclosed opening [e] closing) :: nodes)
  | _, _ => none

end

end ApiContract.Script
