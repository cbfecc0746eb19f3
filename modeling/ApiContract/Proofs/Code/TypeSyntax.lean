import ApiContract.Script.Token.Basic

/-!
How TypeScript reads the text of a type. Brackets, quotes and comments are followed one character at a
time; the grammar then says which trees a text spells. What stands behind a type, as the brackets of
an array do, takes an operand only: a union, a function, or what an operator stands in front of needs
parentheses.
-/

set_option autoImplicit false

namespace ApiContract.TypeSyntax

open Script (isBlank isLineEnd isWordChar)

inductive Bracket where
  | round
  | square
  | curly
  | angle

def Bracket.opening : Bracket → Char
  | .round => '('
  | .square => '['
  | .curly => '\x7b'
  | .angle => '<'

def Bracket.closing : Bracket → Char
  | .round => ')'
  | .square => ']'
  | .curly => '\x7d'
  | .angle => '>'

-- What a place of a text is inside of. The second character of a mark of two means nothing alone.
inductive Within where
  | bracket (b : Bracket)
  | quotes (quote : Char)
  | lineComment
  | blockComment
  | second

def opened? : Char → Option Within
  | '(' => some (.bracket .round)
  | '[' => some (.bracket .square)
  | '\x7b' => some (.bracket .curly)
  | '<' => some (.bracket .angle)
  | '"' => some (.quotes '"')
  | '\'' => some (.quotes '\'')
  | '\x60' => some (.quotes '\x60')
  | _ => none

def closes (inside : List Within) (c : Char) : Bool :=
  match inside with
  | .bracket b :: _ => c == b.closing
  | _ => false

def afterCode (inside : List Within) (c : Char) (next : Option Char) : List Within :=
  if closes inside c then inside.drop 1
  else if c == '=' && next == some '>' then .second :: inside
  else if c == '/' && next == some '/' then .second :: .lineComment :: inside
  else if c == '/' && next == some '*' then .second :: .blockComment :: inside
  else (opened? c).toList ++ inside

-- What the place behind a character is inside of. A template holds code in its holes.
def after (inside : List Within) (c : Char) (next : Option Char) : List Within :=
  match inside with
  | .second :: outer => outer
  | .quotes quote :: outer =>
      if c == quote then outer
      else if c == '\\' then .second :: .quotes quote :: outer
      else if quote == '\x60' && c == '$' && next == some '\x7b' then
        .second :: .bracket .curly :: .quotes quote :: outer
      else .quotes quote :: outer
  | .lineComment :: outer => if isLineEnd c then outer else .lineComment :: outer
  | .blockComment :: outer =>
      if c == '*' && next == some '/' then .second :: outer else .blockComment :: outer
  | code => afterCode code c next

inductive Sign where
  | bar
  | arrow
deriving DecidableEq

def signAt (inside : List Within) (c : Char) (next : Option Char) : List Sign :=
  match inside with
  | [] => if c == '|' then [.bar] else if c == '=' && next == some '>' then [.arrow] else []
  | _ :: _ => []

-- The signs that stand outside of all that is opened.
def signsFrom : List Within → List Char → List Sign
  | _, [] => []
  | inside, c :: rest => signAt inside c rest.head? ++ signsFrom (after inside c rest.head?) rest

def bareSigns (text : String) : List Sign :=
  signsFrom [] text.toList

-- All that is open is closed by the last character of a text, and not before.
def closed : List Within → List Char → Bool
  | inside, [] => inside.isEmpty
  | [], _ :: _ => false
  | w :: outer, c :: rest => closed (after (w :: outer) c rest.head?) rest

inductive Enclosed (w : Within) : List Char → Prop where
  | mk (c : Char) (cs : List Char) (opens : opened? c = some w) (ends : closed [w] cs = true) :
      Enclosed w (c :: cs)

-- Blanks and whole comments.
inductive Gap : List Char → Prop where
  | none : Gap []
  | blank (c : Char) (cs : List Char) (isBlank : Script.isBlank c = true) (gap : Gap cs) :
      Gap (c :: cs)
  | lineComment (text cs : List Char) (ends : closed [.lineComment] text = true) (gap : Gap cs) :
      Gap ('/' :: '/' :: (text ++ cs))
  | blockComment (text cs : List Char) (ends : closed [.blockComment] text = true) (gap : Gap cs) :
      Gap ('/' :: '*' :: (text ++ cs))

-- A gap behind which the same line goes on.
structure InLine (cs : List Char) : Prop where
  gap : Gap cs
  line : ∀ c ∈ cs, isLineEnd c = false

structure Word (cs : List Char) : Prop where
  nonempty : cs ≠ []
  letters : ∀ c ∈ cs, isWordChar c = true

-- Two texts do not run together into one word.
def Apart (front back : List Char) : Prop :=
  front.getLast?.any isWordChar = true → back.head?.any isWordChar = false

-- Names with their members and arguments; numbers are read as words too, around their point.
inductive Reference : List Char → Prop where
  | word (cs : List Char) (word : Word cs) : Reference cs
  | imported (gap file : List Char) (isGap : Gap gap) (enclosed : Enclosed (.bracket .round) file) :
      Reference ("import".toList ++ (gap ++ file))
  | member (cs gap gap' name : List Char) (inner : Reference cs) (isGap : Gap gap)
      (isGap' : Gap gap') (word : Word name) : Reference (cs ++ (gap ++ '.' :: (gap' ++ name)))
  | applied (cs gap args : List Char) (inner : Reference cs) (line : InLine gap)
      (enclosed : Enclosed (.bracket .angle) args) : Reference (cs ++ (gap ++ args))

inductive Operand : List Char → Prop where
  | reference (cs : List Char) (inner : Reference cs) : Operand cs
  | query (gap cs : List Char) (isGap : Gap gap) (inner : Reference cs)
      (apart : Apart "typeof".toList (gap ++ cs)) : Operand ("typeof".toList ++ (gap ++ cs))
  | negative (gap number : List Char) (isGap : Gap gap) (inner : Reference number) :
      Operand ('-' :: (gap ++ number))
  | literal (quote : Char) (cs : List Char) (enclosed : Enclosed (.quotes quote) cs) : Operand cs
  | object (cs : List Char) (enclosed : Enclosed (.bracket .curly) cs) : Operand cs
  | tuple (cs : List Char) (enclosed : Enclosed (.bracket .square) cs) : Operand cs

-- What stands in front of the arrow of a function.
inductive Parameters : List Char → Prop where
  | plain (cs : List Char) (enclosed : Enclosed (.bracket .round) cs) : Parameters cs
  | generic (names gap cs : List Char) (enclosed : Enclosed (.bracket .angle) names)
      (isGap : Gap gap) (inner : Parameters cs) : Parameters (names ++ (gap ++ cs))

inductive Head : List Char → Prop where
  | called (cs : List Char) (parameters : Parameters cs) : Head cs
  | constructed (gap cs : List Char) (isGap : Gap gap) (parameters : Parameters cs) :
      Head ("new".toList ++ (gap ++ cs))
  | abstracted (gap gap' cs : List Char) (isGap : Gap gap) (isGap' : Gap gap')
      (parameters : Parameters cs) (apart : Apart "abstract".toList (gap ++ "new".toList)) :
      Head ("abstract".toList ++ (gap ++ ("new".toList ++ (gap' ++ cs))))

inductive Join where
  | both
  | either

def Join.sign : Join → Char
  | .both => '&'
  | .either => '|'

-- The phrases of types, the ones that take the least first.
inductive Phrase where
  | operand
  | prefixed
  | row (j : Join)
  | joined (j : Join)
  | check
  | type
  | predicate
  | result

-- What a phrase consists of where nothing of its own is in it.
def Phrase.tighter? : Phrase → Option Phrase
  | .operand => none
  | .prefixed => some .operand
  | .row .both => some .prefixed
  | .row .either => some (.joined .both)
  | .joined j => some (.row j)
  | .check => some (.joined .either)
  | .type => some .check
  | .predicate => none
  | .result => some .type

-- What the members of a union or an intersection are.
def Join.member : Join → Phrase
  | .both => .prefixed
  | .either => .joined .both

-- Parentheses leave no trace in a tree.
inductive Tree where
  | operand (text : List Char)
  | array (element : Tree)
  | indexed (element index : Tree)
  | operated (operator : String) (inner : Tree)
  | inferred (name : List Char)
  | bounded (name : List Char) (bound : Tree)
  | join (j : Join) (left right : Tree)
  | led (j : Join) (inner : Tree)
  | function (head : List Char) (result : Tree)
  | conditional (checked bound whenTrue whenFalse : Tree)
  | predicate (name : List Char) (type : Tree)
  | asserting (inner : Tree)
  | asserted (name : List Char)

def typeOperators : List String :=
  ["keyof", "unique", "readonly"]

inductive Spells : Phrase → List Char → Tree → Prop where
  | operand (cs : List Char) (operand : Operand cs) : Spells .operand cs (.operand cs)
  | parenthesised (gap cs gap' : List Char) (t : Tree) (isGap : Gap gap) (isGap' : Gap gap')
      (inner : Spells .type cs t) : Spells .operand ('(' :: (gap ++ (cs ++ (gap' ++ [')'])))) t
  | array (cs gap gap' : List Char) (t : Tree) (line : InLine gap) (isGap : Gap gap')
      (inner : Spells .operand cs t) :
      Spells .operand (cs ++ (gap ++ '[' :: (gap' ++ [']']))) (.array t)
  | indexed (cs gap gap' ds gap'' : List Char) (t index : Tree) (line : InLine gap)
      (isGap' : Gap gap') (isGap'' : Gap gap'') (inner : Spells .operand cs t)
      (indexRead : Spells .type ds index) :
      Spells .operand (cs ++ (gap ++ '[' :: (gap' ++ (ds ++ (gap'' ++ [']']))))) (.indexed t index)
  | bare (p q : Phrase) (cs : List Char) (t : Tree) (tighter : p.tighter? = some q)
      (inner : Spells q cs t) : Spells p cs t
  | operated (operator : String) (gap cs : List Char) (t : Tree)
      (known : operator ∈ typeOperators) (isGap : Gap gap) (inner : Spells .prefixed cs t)
      (apart : Apart operator.toList (gap ++ cs)) :
      Spells .prefixed (operator.toList ++ (gap ++ cs)) (.operated operator t)
  | inferred (gap name : List Char) (isGap : Gap gap) (word : Word name)
      (apart : Apart "infer".toList (gap ++ name)) :
      Spells .prefixed ("infer".toList ++ (gap ++ name)) (.inferred name)
  | bounded (gap name gap' gap'' cs : List Char) (t : Tree) (isGap : Gap gap) (word : Word name)
      (isGap' : Gap gap') (isGap'' : Gap gap'') (inner : Spells .check cs t)
      (apart : Apart "infer".toList (gap ++ name)) (apart' : Apart name (gap' ++ "extends".toList))
      (apart'' : Apart "extends".toList (gap'' ++ cs)) :
      Spells .prefixed
        ("infer".toList ++ (gap ++ (name ++ (gap' ++ ("extends".toList ++ (gap'' ++ cs))))))
        (.bounded name t)
  | join (j : Join) (cs gap gap' ds : List Char) (t u : Tree) (isGap : Gap gap)
      (isGap' : Gap gap') (left : Spells (.row j) cs t) (right : Spells j.member ds u) :
      Spells (.row j) (cs ++ (gap ++ j.sign :: (gap' ++ ds))) (.join j t u)
  | led (j : Join) (gap cs : List Char) (t : Tree) (isGap : Gap gap)
      (inner : Spells (.row j) cs t) : Spells (.joined j) (j.sign :: (gap ++ cs)) (.led j t)
  | function (head gap gap' cs : List Char) (t : Tree) (isHead : Head head) (isGap : Gap gap)
      (isGap' : Gap gap') (inner : Spells .result cs t) :
      Spells .check (head ++ (gap ++ '=' :: '>' :: (gap' ++ cs))) (.function head t)
  | conditional (cs gap gap' ds gap₁ gap₂ es gap₃ gap₄ fs : List Char) (t u v w : Tree)
      (isGap : Gap gap) (isGap' : Gap gap') (isGap₁ : Gap gap₁) (isGap₂ : Gap gap₂)
      (isGap₃ : Gap gap₃) (isGap₄ : Gap gap₄) (checked : Spells (.joined .either) cs t)
      (bound : Spells .check ds u) (whenTrue : Spells .type es v) (whenFalse : Spells .type fs w)
      (apart : Apart (cs ++ gap) "extends".toList)
      (apart' : Apart "extends".toList (gap' ++ ds)) :
      Spells .type
        (cs ++ (gap ++ ("extends".toList ++ (gap' ++ (ds ++ (gap₁ ++ '?' :: (gap₂ ++
          (es ++ (gap₃ ++ ':' :: (gap₄ ++ fs)))))))))) (.conditional t u v w)
  | predicate (name gap gap' cs : List Char) (t : Tree) (word : Word name) (line : InLine gap)
      (isGap' : Gap gap') (inner : Spells .type cs t) (apart : Apart name (gap ++ "is".toList))
      (apart' : Apart "is".toList (gap' ++ cs)) :
      Spells .predicate (name ++ (gap ++ ("is".toList ++ (gap' ++ cs)))) (.predicate name t)
  | told (cs : List Char) (t : Tree) (inner : Spells .predicate cs t) : Spells .result cs t
  | asserting (gap cs : List Char) (t : Tree) (line : InLine gap) (inner : Spells .predicate cs t)
      (apart : Apart "asserts".toList (gap ++ cs)) :
      Spells .result ("asserts".toList ++ (gap ++ cs)) (.asserting t)
  | asserted (gap name : List Char) (line : InLine gap) (word : Word name)
      (apart : Apart "asserts".toList (gap ++ name)) :
      Spells .result ("asserts".toList ++ (gap ++ name)) (.asserted name)

-- A text can be read as a tree, the whole text as one type.
def Reads (text : String) (t : Tree) : Prop :=
  ∃ gap cs gap', text.toList = gap ++ (cs ++ gap') ∧ Gap gap ∧ Gap gap' ∧ Spells .type cs t

-- The type is an operand, and more can follow it on the line where it ends.
def ReadsOperand (text : String) (t : Tree) : Prop :=
  ∃ gap cs gap', text.toList = gap ++ (cs ++ gap') ∧ Gap gap ∧ InLine gap' ∧ Spells .operand cs t

end ApiContract.TypeSyntax
