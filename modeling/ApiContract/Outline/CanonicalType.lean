import ApiContract.Text.Alphanumeric
import ApiContract.Text.Blank

/-!
The canonical spelling of a type: formatting that does not matter is taken out, so that two
spellings of one type compare equal.
-/

set_option autoImplicit false

namespace ApiContract.Outline

-- The characters of words; quotes count, so that a literal is kept apart from a word beside it.
def isWordChar (c : Char) : Bool :=
  Text.isAlphanumeric c || c == '_' || c == '$' || c == '.' || c == '"' || c == '\'' || c == '\x60'

def isQuote (c : Char) : Bool :=
  c == '"' || c == '\'' || c == '\x60'

inductive Mode where
  | code (gap : Bool)
  | literal (quote : Char) (escaped : Bool)
deriving DecidableEq

structure Scan where
  written : List Char
  mode : Mode

def startsWith (test : Char → Bool) : List Char → Bool
  | [] => false
  | c :: _ => test c

-- One character of code. Blanks only leave a gap; union and intersection signs get a space on each
-- side, unless they lead; separators get one after; a gap between two words becomes a space.
def Scan.code (written : List Char) (gap : Bool) (c : Char) : Scan :=
  if Text.isBlank c then ⟨written, .code true⟩
  else if isQuote c then
    if gap && startsWith isWordChar written then ⟨c :: ' ' :: written, .literal c false⟩
    else ⟨c :: written, .literal c false⟩
  else if c == '|' || c == '&' then
    match Text.trimLeft written with
    | [] => ⟨[], .code false⟩
    | kept => ⟨' ' :: c :: ' ' :: kept, .code false⟩
  else if c == ',' || c == ':' || c == ';' then
    ⟨' ' :: c :: Text.trimLeft written, .code false⟩
  else if startsWith (· == ' ') written && !isWordChar c && c != '(' && c != '\x7b' && c != '[' then
    ⟨c :: Text.trimLeft written, .code false⟩
  else if gap && startsWith isWordChar written && isWordChar c then
    ⟨c :: ' ' :: written, .code false⟩
  else ⟨c :: written, .code false⟩

def Scan.step (s : Scan) (c : Char) : Scan :=
  match s.mode with
  | .code gap => Scan.code s.written gap c
  | .literal quote true => ⟨c :: s.written, .literal quote false⟩
  | .literal quote false =>
      if c == '\\' then ⟨c :: s.written, .literal quote true⟩
      else if c == quote then ⟨c :: s.written, .code false⟩
      else ⟨c :: s.written, .literal quote false⟩

def canonicalChars (text : List Char) : List Char :=
  let s := (Text.trim text).foldl Scan.step ⟨[], .code false⟩
  (Text.trimLeft s.written).reverse

def canonicalType (text : String) : String :=
  String.ofList (canonicalChars text.toList)

end ApiContract.Outline
