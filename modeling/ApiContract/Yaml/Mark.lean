/-!
Places in a text, counted from zero: the line, the character in the line, and the byte.
-/

set_option autoImplicit false

namespace ApiContract.Yaml

structure Mark where
  line : Nat := 0
  column : Nat := 0
  offset : Nat := 0
deriving DecidableEq

namespace Mark

def after (m : Mark) (c : Char) : Mark :=
  ⟨m.line, m.column + 1, m.offset + c.utf8Size⟩

def nextLine (m : Mark) (bytes : Nat) : Mark :=
  ⟨m.line + 1, 0, m.offset + bytes⟩

def isFirst (m : Mark) : Bool :=
  m.line == 0 && m.column == 0

-- A place counted from one; the very first place is not told.
def suffix (m : Mark) : String :=
  if m.isFirst then ""
  else " at line " ++ toString (m.line + 1) ++ " column " ++ toString (m.column + 1)

end Mark

end ApiContract.Yaml
