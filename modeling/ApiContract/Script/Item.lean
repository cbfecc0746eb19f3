import ApiContract.Script.Token.Text

/-!
The tokens of a code grouped by its brackets: an item is a token, or a group with all that stands
between its brackets. Any tokens can be grouped. A bracket that closes nothing stays a token, and a
group that is closed only by the end of what is around it has no closing bracket.
-/

set_option autoImplicit false

namespace ApiContract.Script

inductive Item where
  | token (t : Token)
  | group (opening : Token) (items : List Item) (closing : Option Token)

def Token.chars (t : Token) : List Char :=
  t.lead ++ t.text

def Token.closedBy (opening close : Token) : Bool :=
  match close.text with
  | [')'] => opening.text == ['(']
  | [']'] => opening.text == ['[']
  | ['\x7d'] => opening.text == ['\x7b'] || opening.text == ['$', '\x7b']
  | ['\x60'] => opening.text == ['\x60']
  | _ => false

-- The groups that are open, the innermost first, each with the items in front of it, and the items
-- of the innermost; items are held the last first.
structure Grouping where
  open_ : List (Token × List Item)
  items : List Item

def Token.isBracket (t : Token) (bracket : Char) : Bool :=
  t.text == [bracket]

def endsLine : Item → Bool
  | .token t => t.kind == .mark && t.text == [';']
  | .group .. => false

-- Ends a group that is never closed behind the items `before`; all are held the last first. A
-- semicolon ends a group in parentheses or brackets.
def leaveOpen (opening : Token) (items before : List Item) : List Item :=
  let all := items.reverse
  if opening.isBracket '(' || opening.isBracket '[' then
    (all.dropWhile fun item => !endsLine item).reverse ++
      .group opening (all.takeWhile fun item => !endsLine item) none :: before
  else .group opening all none :: before

def closeWith? (close : Token) : List (Token × List Item) → List Item → Option Grouping
  | [], _ => none
  | (opening, before) :: others, items =>
      if opening.closedBy close then some ⟨others, .group opening items.reverse (some close) :: before⟩
      else closeWith? close others (leaveOpen opening items before)

def Grouping.step (g : Grouping) (t : Token) : Grouping :=
  match t.kind with
  | .opening => ⟨(t, g.items) :: g.open_, []⟩
  | .closing => (closeWith? t g.open_ g.items).getD ⟨g.open_, .token t :: g.items⟩
  | _ => ⟨g.open_, .token t :: g.items⟩

def closeAll : List (Token × List Item) → List Item → List Item
  | [], items => items.reverse
  | (opening, before) :: others, items => closeAll others (leaveOpen opening items before)

def itemsOf (ts : List Token) : List Item :=
  let g := ts.foldl Grouping.step ⟨[], []⟩
  closeAll g.open_ g.items

def Item.first : Item → Token
  | .token t => t
  | .group opening _ _ => opening

mutual

def Item.last : Item → Token
  | .token t => t
  | .group _ _ (some closing) => closing
  | .group opening items none => lastOr opening items

def lastOr (t : Token) : List Item → Token
  | [] => t
  | item :: rest => lastOr item.last rest

end

mutual

def Item.chars : Item → List Char
  | .token t => t.chars
  | .group opening items closing =>
      opening.chars ++ charsOf items ++
        (match closing with
         | some t => t.chars
         | none => [])

def charsOf : List Item → List Char
  | [] => []
  | item :: rest => item.chars ++ charsOf rest

end

def spelled : List Item → List Char
  | [] => []
  | item :: rest => (item.chars ++ charsOf rest).drop item.first.lead.length

mutual

def Item.gaps : Item → List Nat
  | .token _ => []
  | .group _ items (some _) => gapsOf items
  | .group opening items none =>
      if items.isEmpty && (opening.isBracket '(' || opening.isBracket '[') then [opening.left]
      else gapsOf items ++ [(lastOr opening items).leftAfter]

def gapsOf : List Item → List Nat
  | [] => []
  | item :: rest => item.gaps ++ gapsOf rest

end

namespace Item

def isWord (item : Item) (word : String) : Bool :=
  match item with
  | .token t => t.kind == .word && t.text == word.toList
  | .group .. => false

def isOneOf (item : Item) (words : List String) : Bool :=
  words.any item.isWord

def isName (item : Item) : Bool :=
  match item with
  | .token t => t.kind == .word
  | .group .. => false

def isLiteral (item : Item) : Bool :=
  match item with
  | .token t => t.kind == .string || t.kind == .number
  | .group .. => false

def isMark (item : Item) (mark : String) : Bool :=
  match item with
  | .token t => t.kind == .mark && t.text == mark.toList
  | .group .. => false

def isStray (item : Item) : Bool :=
  match item with
  | .token t => t.kind == .closing
  | .group .. => false

def isGroup (item : Item) (bracket : String) : Bool :=
  match item with
  | .token _ => false
  | .group opening _ _ => opening.text == bracket.toList

def onNewLine (item : Item) : Bool :=
  item.first.onNewLine

def left (item : Item) : Nat :=
  item.first.left

def leftAfter (item : Item) : Nat :=
  item.last.leftAfter

def endsValue (item : Item) : Bool :=
  match item with
  | .token t =>
      t.kind != .mark || t.text == ['+', '+'] || t.text == ['-', '-'] || t.text == ['!'] ||
        t.text == ['>']
  | .group .. => true

-- Whether an item at the start of a line goes on with what the line above it ends with; in a value,
-- a bracket does.
def leadsOn (value : Bool) (item : Item) : Bool :=
  match item with
  | .token t =>
      match t.kind with
      | .mark =>
          match t.text with
          | ['+'] | ['-'] => true
          | ['@'] | ['!'] | ['~'] | ['#'] | ['+', '+'] | ['-', '-'] => false
          | _ => true
      | .pattern => true
      | .word => t.text == "in".toList || t.text == "instanceof".toList
      | _ => false
  | .group opening _ _ =>
      opening.text == ['\x60'] || (value && (opening.text == ['('] || opening.text == ['[']))

end Item

end ApiContract.Script
