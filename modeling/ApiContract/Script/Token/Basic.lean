/-!
The tokens of a text of code. Blanks and comments are no tokens: each token carries those in front
of it. Where a token stands is counted from the end of the text, so that what is put in front of a
text moves none of its tokens.
-/

set_option autoImplicit false

namespace ApiContract.Script

inductive TokenKind where
  | word
  | number
  | string
  | pattern
  | chars
  | escape
  | mark
  | opening
  | closing
deriving DecidableEq

structure Token where
  kind : TokenKind
  text : List Char
  lead : List Char
  left : Nat
deriving DecidableEq

def Token.leftAfter (t : Token) : Nat :=
  t.left - t.text.length

def isBlank (c : Char) : Bool :=
  let n := c.toNat
  (9 ≤ n && n ≤ 13) || n == 0x20 || n == 0xA0 || n == 0x1680 || (0x2000 ≤ n && n ≤ 0x200B) ||
    n == 0x2028 || n == 0x2029 || n == 0x202F || n == 0x205F || n == 0x2060 || n == 0x3000 ||
    n == 0xFEFF

def isLineEnd (c : Char) : Bool :=
  c == '\n' || c == '\r' || c == '\u2028' || c == '\u2029'

def marks : List Char :=
  [':', ';', '\x60', '"', '\'', '@', '#', '.', ',', '|', '^', '&', '<', '=', '>', '+', '-', '*', '/',
    '%', '?', '!', '~', '(', ')', '[', ']', '\x7b', '\x7d']

def isWordChar (c : Char) : Bool :=
  0x20 < c.toNat && !isBlank c && !marks.contains c

def Token.onNewLine (t : Token) : Bool :=
  t.lead.any fun c => c == '\n' || c == '\u2028' || c == '\u2029'

end ApiContract.Script
