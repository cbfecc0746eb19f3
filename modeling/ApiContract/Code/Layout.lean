import ApiContract.Text.Lines

/-!
Indentation of code: two spaces a level in front of every line that is not empty.
-/

set_option autoImplicit false

namespace ApiContract.Code

-- The blanks in front of a line at a level.
def margin (level : Nat) : List Char :=
  List.replicate (2 * level) ' '

def indentLine (level : Nat) (line : List Char) : String :=
  if line.isEmpty then "" else String.ofList (margin level ++ line)

-- The text moved in by a number of levels; level zero leaves it alone.
def indent (level : Nat) (text : String) : String :=
  if level = 0 then text
  else Text.join "\n" ((Text.lines text.toList).map (indentLine level))

def stack (level : Nat) (items : List String) : String :=
  Text.join "\n" (items.map (indent level))

def stackApart (level : Nat) (items : List String) : String :=
  Text.join "\n\n" (items.map (indent level))

-- A body in braces, one level in; nothing between the braces when it is empty.
def braced (body : String) (isEmpty : Bool) : String :=
  if isEmpty then "\x7b\x7d" else "\x7b\n" ++ body ++ "\n\x7d"

end ApiContract.Code
