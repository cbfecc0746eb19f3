import ApiContract.Script.Node
import ApiContract.Text.Blank

/-!
The request that a body of code makes: the first call of `fetch` in it, wherever it stands. Its first
argument is the address, and the object behind it may name the method.
-/

set_option autoImplicit false

namespace ApiContract.Outline

open Script (Node)

def stripped (test : Char → Bool) (text : List Char) : List Char :=
  ((text.dropWhile test).reverse.dropWhile test).reverse

def unquoted (text : List Char) : List Char :=
  stripped (fun c => c == '"' || c == '\'') text

def namesField (name : String) (pair : Node) : Bool :=
  pair.kind == "pair" && (pair.child? "key").any fun key => unquoted key.text == name.toList

-- What the options of a request name as its method.
def methodOf? (options : Node) : Option (List Char) :=
  if options.kind != "object" then none
  else
    ((options.namedChildren.find? (namesField "method")).bind (·.child? "value")).map fun value =>
      if value.kind == "string" then unquoted value.text else Text.squeeze value.text

-- The part of the text of a node between two places within it.
def between (n : Node) (first last : Nat) : List Char :=
  (n.text.drop (n.left - first)).take (first - last)

-- The text of a template behind a place; blanks in its holes do not count.
def templateFrom (template : Node) (last : Nat) : List Node → List Char
  | [] => between template last template.leftAfter
  | part :: rest =>
      if part.kind == "template_substitution" then
        between template last part.left ++ Text.squeeze part.text ++
          templateFrom template part.leftAfter rest
      else templateFrom template last rest

def address (url : Node) : List Char :=
  if url.kind == "template_string" then
    stripped (· == '\x60') (templateFrom url url.left url.namedChildren)
  else Text.squeeze url.text

-- The method and the address of a request. Without options that name it, the method is GET.
def requestOf? (arguments : Node) : Option (List Char) :=
  match arguments.namedChildren with
  | [] => none
  | url :: others => some ((others.head?.bind methodOf?).getD "GET".toList ++ ' ' :: address url)

def endpoint? (body : Node) : Option String :=
  (((body.findCall? "fetch").bind (·.child? "arguments")).bind requestOf?).map String.ofList

end ApiContract.Outline
