import ApiContract.Text.Lines
import ApiContract.Text.Uppercase

/-!
Names in generated code: the Pascal spelling, identifiers, and the words that cannot be names.
-/

set_option autoImplicit false

namespace ApiContract.Name

def capitalize : List Char → List Char
  | [] => []
  | c :: rest => Text.uppercase c ++ rest

def pascal (name : String) : String :=
  String.ofList ((Text.pieces (fun c => c == '_' || c == '-') name.toList).flatMap capitalize)

def isStart (c : Char) : Bool :=
  c.isAlpha || c == '_' || c == '$'

def isPart (c : Char) : Bool :=
  c.isAlphanum || c == '_' || c == '$'

def isIdentifier (name : String) : Bool :=
  match name.toList with
  | [] => false
  | c :: rest => isStart c && rest.all isPart

def reservedWords : List String := [
  "await", "break", "case", "catch", "class", "const", "continue", "debugger", "default",
  "delete", "do", "else", "enum", "export", "extends", "false", "finally", "for", "function",
  "if", "implements", "import", "in", "instanceof", "interface", "let", "new", "null",
  "package", "private", "protected", "public", "return", "static", "super", "switch", "this",
  "throw", "true", "try", "typeof", "var", "void", "while", "with", "yield"]

def builtinTypes : List String := [
  "any", "bigint", "boolean", "never", "number", "object", "string", "symbol", "undefined",
  "unknown"]

def isReservedWord (name : String) : Bool :=
  reservedWords.contains name

def isReservedType (name : String) : Bool :=
  isReservedWord name || builtinTypes.contains name

end ApiContract.Name
