import ApiContract.Code.Expr

/-!
How ECMAScript reads a text of operators: it is cut into words and marks, and the grammar says which
trees a row of them stands for. The binary operators have seven levels, the weakest first, and group
to the left; `??` takes operands of the level of the equalities and has no `&&` or `||` beside it
without parentheses. What stands in front of an operand binds tighter than all of them, the
conditional looser, and it groups to the right.
-/

set_option autoImplicit false

namespace ApiContract.Grammar

open Code

inductive Token where
  | word (spelling : String)
  | mark (spelling : String)
deriving DecidableEq

-- Each mark stands before the marks that it begins with, so the first one found is the longest.
def marks : List String := [
  ">>>=", "===", "!==", "**=", "<<=", ">>=", ">>>", "&&=", "||=", "??=", "...",
  "=>", "==", "!=", "<=", ">=", "&&", "||", "??", "?.", "++", "--", "+=", "-=", "*=", "/=", "%=",
  "&=", "|=", "^=", "<<", ">>", "**", "//", "/*",
  "\x7b", "\x7d", "(", ")", "[", "]", ".", ";", ",", "<", ">", "+", "-", "*", "/", "%", "&", "|",
  "^", "!", "~", "?", ":", "="]

def nextMark (text : List Char) : Option String :=
  marks.find? (fun m => m.toList.isPrefixOf text)

def tokens : List Char → Option (List Token)
  | [] => some []
  | c :: rest =>
      if c.isWhitespace then tokens rest
      else if Name.isStart c then
        (tokens (rest.dropWhile Name.isPart)).map
          (Token.word (String.ofList (c :: rest.takeWhile Name.isPart)) :: ·)
      else
        (nextMark (c :: rest)).bind fun m =>
          (tokens (rest.drop (m.length - 1))).map (Token.mark m :: ·)
termination_by text => text.length
decreasing_by
  · exact Nat.lt_succ_self _
  · exact Nat.lt_succ_of_le (List.dropWhile_sublist Name.isPart).length_le
  · exact Nat.lt_succ_of_le (List.drop_sublist _ rest).length_le

def sign : BinaryOp → Token
  | .coalesce => .mark "??"
  | .or => .mark "||"
  | .and => .mark "&&"
  | .strictEq => .mark "==="
  | .strictNe => .mark "!=="
  | .eq => .mark "=="
  | .ne => .mark "!="
  | .lt => .mark "<"
  | .le => .mark "<="
  | .gt => .mark ">"
  | .ge => .mark ">="
  | .instanceOf => .word "instanceof"
  | .isIn => .word "in"
  | .add => .mark "+"
  | .sub => .mark "-"
  | .mul => .mark "*"
  | .div => .mark "/"
  | .rem => .mark "%"

def level : BinaryOp → Nat
  | .coalesce => 0
  | .or => 1
  | .and => 2
  | .strictEq | .strictNe | .eq | .ne => 3
  | .lt | .le | .gt | .ge | .instanceOf | .isIn => 4
  | .add | .sub => 5
  | .mul | .div | .rem => 6

def prefixSign : UnaryOp → Token
  | .not => .mark "!"
  | .neg => .mark "-"
  | .typeOf => .word "typeof"

inductive Phrase where
  | expression
  | shortCircuit
  | level (n : Nat)
  | prefixed
  | primary

-- What an operator of level `n` has on its right.
def rightOf (n : Nat) : Phrase :=
  if n = 0 then .level 3 else if n < 6 then .level (n + 1) else .prefixed

-- With `casts`, a value may be taken `as` a named type, on the level of the relations.
inductive Derives (casts : Bool) : Phrase → List Token → Expr → Prop where
  | name (spelling : String) (identifier : Name.isIdentifier spelling = true)
      (free : Name.isReservedWord spelling = false) :
      Derives casts .primary [.word spelling] (.ident spelling)
  | parenthesised (ts : List Token) (e : Expr) (inner : Derives casts .expression ts e) :
      Derives casts .primary (.mark "(" :: (ts ++ [.mark ")"])) e
  | bare (ts : List Token) (e : Expr) (inner : Derives casts .primary ts e) :
      Derives casts .prefixed ts e
  | unary (op : UnaryOp) (ts : List Token) (e : Expr) (inner : Derives casts .prefixed ts e) :
      Derives casts .prefixed (prefixSign op :: ts) (.unary op e)
  | awaited (ts : List Token) (e : Expr) (inner : Derives casts .prefixed ts e) :
      Derives casts .prefixed (.word "await" :: ts) (.await e)
  | operand (n : Nat) (ts : List Token) (e : Expr) (inner : Derives casts (rightOf n) ts e) :
      Derives casts (.level n) ts e
  | binary (op : BinaryOp) (ts us : List Token) (left right : Expr)
      (leftRead : Derives casts (.level (level op)) ts left)
      (rightRead : Derives casts (rightOf (level op)) us right) :
      Derives casts (.level (level op)) (ts ++ sign op :: us) (.binary left op right)
  | cast (ts : List Token) (e : Expr) (type : String) (allowed : casts = true)
      (inner : Derives casts (.level 4) ts e) (identifier : Name.isIdentifier type = true)
      (free : Name.isReservedWord type = false) :
      Derives casts (.level 4) (ts ++ [.word "as", .word type]) (.cast e (.named type))
  | logical (ts : List Token) (e : Expr) (inner : Derives casts (.level 1) ts e) :
      Derives casts .shortCircuit ts e
  | coalescing (ts : List Token) (e : Expr) (inner : Derives casts (.level 0) ts e) :
      Derives casts .shortCircuit ts e
  | unconditional (ts : List Token) (e : Expr) (inner : Derives casts .shortCircuit ts e) :
      Derives casts .expression ts e
  | conditional (ts us vs : List Token) (test whenTrue whenFalse : Expr)
      (testRead : Derives casts .shortCircuit ts test)
      (trueRead : Derives casts .expression us whenTrue)
      (falseRead : Derives casts .expression vs whenFalse) :
      Derives casts .expression (ts ++ .mark "?" :: (us ++ .mark ":" :: vs))
        (.conditional test whenTrue whenFalse)

-- A text can be read as a tree, the whole text as one expression.
def Reads (casts : Bool) (text : String) (e : Expr) : Prop :=
  ∃ ts, tokens text.toList = some ts ∧ Derives casts .expression ts e

end ApiContract.Grammar
