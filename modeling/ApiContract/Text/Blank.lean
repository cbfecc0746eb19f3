/-!
White space: which characters are blank, and cutting blanks off a text.
-/

set_option autoImplicit false

namespace ApiContract.Text

def isBlank (c : Char) : Bool :=
  let n := c.toNat
  (9 ≤ n && n ≤ 13) || n == 0x20 || n == 0x85 || n == 0xA0 || n == 0x1680 ||
    (0x2000 ≤ n && n ≤ 0x200A) || n == 0x2028 || n == 0x2029 || n == 0x202F ||
    n == 0x205F || n == 0x3000

def trimLeft (cs : List Char) : List Char :=
  cs.dropWhile isBlank

def trimRight : List Char → List Char
  | [] => []
  | c :: rest =>
      match trimRight rest with
      | [] => if isBlank c then [] else [c]
      | kept => c :: kept

def trim (cs : List Char) : List Char :=
  trimRight (trimLeft cs)

def squeeze (cs : List Char) : List Char :=
  cs.filter fun c => !isBlank c

end ApiContract.Text
