import ApiContract.Name
import ApiContract.Script.Item
import ApiContract.Script.Node

/-!
The nodes that tokens and items of a code stand for in its syntax tree, and what tokens may stand
where a word or a sign of the language is asked for.
-/

set_option autoImplicit false

namespace ApiContract.Script

-- Words that mean something in some places only.
def contextualWords : List String :=
  ["abstract", "accessor", "any", "as", "assert", "asserts", "async", "bigint", "boolean", "declare",
    "defer", "from", "get", "global", "infer", "intrinsic", "is", "keyof", "module", "namespace",
    "never", "number", "object", "of", "out", "override", "readonly", "require", "satisfies", "set",
    "string", "symbol", "type", "undefined", "unique", "unknown", "using"]

def isKeyword (name : String) : Bool :=
  Name.isReservedWord name || contextualWords.contains name

def predefinedTypes : List String :=
  ["any", "number", "boolean", "string", "symbol", "void", "unknown", "never", "object"]

namespace Token

-- Whether a token stands on the line of the token in front of it, with nothing but blanks between.
def isTight (t : Token) : Bool :=
  t.lead.all fun c => isBlank c && !isLineEnd c

def isWord (t : Token) (word : String) : Bool :=
  t.kind == .word && t.text == word.toList

def isKey (t : Token) (word : String) : Bool :=
  t.isWord word && t.isTight

def isMark (t : Token) (mark : String) : Bool :=
  t.kind == .mark && t.text == mark.toList

def isSign (t : Token) (mark : String) : Bool :=
  t.isMark mark && t.isTight

-- A name that may be bound.
def isName (t : Token) : Bool :=
  t.kind == .word && Name.isIdentifier (String.ofList t.text) &&
    !Name.isReservedWord (String.ofList t.text)

-- A name that is no word of the language anywhere.
def isPlainName (t : Token) : Bool :=
  t.kind == .word && Name.isIdentifier (String.ofList t.text) && !isKeyword (String.ofList t.text)

-- A text in quotes without escapes.
def isPlainString (t : Token) : Bool :=
  t.kind == .string && !t.text.contains '\\'

def isTightly (t : Token) (bracket : String) : Bool :=
  t.text == bracket.toList && t.isTight

-- A token by itself, as a node that has no name but its text.
def plain (t : Token) : Node :=
  ⟨none, String.ofList t.text, false, false, t.text, t.left, []⟩

def leaf (t : Token) (kind : String) : Node :=
  ⟨none, kind, true, false, t.text, t.left, []⟩

def nameNode (t : Token) : Node :=
  t.leaf (if t.text == "undefined".toList then "undefined" else "identifier")

def quoteNode (left : Nat) : Node :=
  ⟨none, "\"", false, false, ['"'], left, []⟩

def fragment (t : Token) : List Char :=
  (t.text.drop 1).dropLast

def stringNode (t : Token) : Node :=
  ⟨none, "string", true, false, t.text, t.left,
    quoteNode t.left ::
      ((if t.fragment.isEmpty then []
        else [⟨none, "string_fragment", true, false, t.fragment, t.left - 1, []⟩]) ++
      [quoteNode (t.leftAfter + 1)])⟩

end Token

def leftOf : List Item → Nat
  | [] => 0
  | item :: _ => item.left

def startsTight : List Item → Bool
  | [] => true
  | item :: _ => item.first.isTight

-- The node that some items make up.
def nodeOf (kind : String) (items : List Item) (children : List Node) : Node :=
  ⟨none, kind, true, false, spelled items, leftOf items, children⟩

def isParens (opening closing : Token) : Bool :=
  opening.isTightly "(" && closing.isTightly ")"

-- The braces of a block; what is in it may begin and end where it likes.
def isBraces (opening closing : Token) : Bool :=
  opening.isTightly "\x7b" && closing.text == "\x7d".toList && closing.lead.all isBlank

def enclosed (opening : Token) (nodes : List Node) (closing : Token) : List Node :=
  opening.plain :: (nodes ++ [closing.plain])

-- A call of `e` with the arguments in a group.
def callNode (items : List Item) (e : Node) (opening : Token) (inner : List Item)
    (nodes : List Node) (closing : Token) : Node :=
  nodeOf "call_expression" items
    [e.as "function",
      (nodeOf "arguments" [.group opening inner (some closing)]
        (enclosed opening nodes closing)).as "arguments"]

def memberNode (items : List Item) (e : Node) (dot name : Token) : Node :=
  nodeOf "member_expression" items
    [e.as "object", dot.plain, (name.leaf "property_identifier").as "property"]

-- The type that a token is by itself.
def typeName? (t : Token) : Option Node :=
  if !t.isTight then none
  else if predefinedTypes.any t.isWord then some (nodeOf "predefined_type" [.token t] [t.plain])
  else if t.isWord "null" then some (nodeOf "literal_type" [.token t] [t.leaf "null"])
  else if t.isPlainString then some (nodeOf "literal_type" [.token t] [t.stringNode])
  else if t.isPlainName then some (t.leaf "type_identifier")
  else none

-- The key of a property of an object.
def keyNode? (t : Token) : Option Node :=
  if !t.isTight then none
  else if t.isPlainString then some t.stringNode
  else if t.isPlainName then some (t.leaf "property_identifier")
  else none

-- The value that a token is by itself, where it may be called or asked for a property.
def operand? (t : Token) : Option Node :=
  if t.isWord "this" then some (t.leaf "this")
  else if t.isPlainString then some t.stringNode
  else if t.isPlainName then some t.nameNode
  else none

-- The comments of a gap, each with how much of the gap is left where it starts; `begun` is what is
-- read of a comment, the last character first.
def commentsFrom : Gap → List Char → List Char → List (List Char × Nat)
  | .blanks, _, [] => []
  | _, begun, [] => [(begun.reverse, begun.length)]
  | .blanks, _, '/' :: '/' :: rest => commentsFrom .lineComment ['/', '/'] rest
  | .blanks, _, '/' :: '*' :: rest => commentsFrom .blockComment ['*', '/'] rest
  | .blanks, _, _ :: rest => commentsFrom .blanks [] rest
  | .lineComment, begun, c :: rest =>
      if isLineEnd c then
        (begun.reverse, begun.length + rest.length + 1) :: commentsFrom .blanks [] rest
      else commentsFrom .lineComment (c :: begun) rest
  | .blockComment, begun, '*' :: '/' :: rest =>
      (('/' :: '*' :: begun).reverse, begun.length + rest.length + 2) :: commentsFrom .blanks [] rest
  | .blockComment, begun, c :: rest => commentsFrom .blockComment (c :: begun) rest

def commentNode (text : List Char) (left : Nat) : Node :=
  ⟨none, "comment", true, false, text, left, []⟩

-- The comments of a gap that stands in front of so many characters.
def commentsAt (behind : Nat) (comments : List (List Char × Nat)) : List Node :=
  comments.map fun comment => commentNode comment.1 (comment.2 + behind)

def commentNodes (gap : List Char) (behind : Nat) : List Node :=
  commentsAt behind (commentsFrom .blanks [] gap)

def programNode (source : List Char) (children : List Node) : Node :=
  let text := source.dropWhile isBlank
  ⟨none, "program", true, false, text, text.length, children⟩

end ApiContract.Script
