import ApiContract.Code.Expr
import ApiContract.Json.Reader
import ApiContract.Proofs.Identifier

/-!
How ECMAScript reads a template literal: a backslash begins an escape, a dollar sign in front of a
brace a substitution, a carriage return is taken for a line feed, and the backtick that closes the
literal is the end of the text. Of the substitutions only names are read here.
-/

set_option autoImplicit false

namespace ApiContract.Grammar

open Code

-- What a template stands for: its first text, and each substitution with the text behind it.
structure Template where
  lead : List Char
  holes : List (Expr × List Char)

namespace Template

def empty : Template := ⟨[], []⟩

def after (text : List Char) (t : Template) : Template := ⟨text ++ t.lead, t.holes⟩

def hole (value : Expr) (t : Template) : Template := ⟨[], (value, t.lead) :: t.holes⟩

end Template

def hexNumber (digits : List Char) : Option Nat :=
  if digits = [] then none
  else digits.foldl (fun sum c => sum.bind fun n => (Json.hexValue? c).map (16 * n + ·)) (some 0)

-- Half of a surrogate pair is no character.
def coded (digits : List Char) : Option (List Char) :=
  (hexNumber digits).bind fun code => if code.isValidChar then some [Char.ofNat code] else none

def endsLine (c : Char) : Bool :=
  c == '\n' || c == '\r' || c == '\u2028' || c == '\u2029'

-- A character behind a backslash, when it is no digit and begins no code.
def single (c : Char) : List Char :=
  if c = 'n' then ['\n']
  else if c = 't' then ['\t']
  else if c = 'r' then ['\r']
  else if c = 'b' then ['\x08']
  else if c = 'v' then ['\x0b']
  else if c = 'f' then ['\x0c']
  else if endsLine c then []
  else [c]

-- What the text behind a backslash means, and how many characters of it belong to the escape.
def escape : List Char → Option (List Char × Nat)
  | [] => none
  | 'x' :: rest => if rest.length < 2 then none else (coded (rest.take 2)).map (·, 3)
  | 'u' :: '\x7b' :: rest =>
      let digits := rest.takeWhile (· != '\x7d')
      if digits.length = rest.length then none
      else (coded digits).map (·, digits.length + 3)
  | 'u' :: rest => if rest.length < 4 then none else (coded (rest.take 4)).map (·, 5)
  | '\r' :: '\n' :: _ => some ([], 2)
  | c :: rest =>
      if c.isDigit then
        if c = '0' ∧ rest.head?.all (! Char.isDigit ·) then some (['\x00'], 1) else none
      else some (single c, 1)

-- A template from behind its opening backtick.
def readTemplate : List Char → Option Template
  | [] => none
  | c :: rest =>
      if c = '\x60' then if rest = [] then some .empty else none
      else if c = '\\' then
        (escape rest).bind fun meant =>
          (readTemplate (rest.drop meant.2)).map (Template.after meant.1)
      else if c = '$' ∧ rest.head? = some '\x7b' then
        let name := rest.tail.takeWhile Name.isPart
        let closed := (rest.tail.drop name.length).head? = some '\x7d'
        if closed ∧ Name.isIdentifier (String.ofList name) then
          (readTemplate (rest.drop (name.length + 2))).map
            (Template.hole (.ident (String.ofList name)))
        else none
      else if c = '\r' then
        (readTemplate (rest.drop (if rest.head? = some '\n' then 1 else 0))).map
          (Template.after ['\n'])
      else (readTemplate rest).map (Template.after [c])
termination_by text => text.length
decreasing_by
  · exact Nat.lt_succ_of_le (List.drop_sublist _ rest).length_le
  · exact Nat.lt_succ_of_le (List.drop_sublist _ rest).length_le
  · exact Nat.lt_succ_of_le (List.drop_sublist _ rest).length_le
  · exact Nat.lt_succ_self _

-- A literal as a whole, with both its backticks.
def readLiteral (text : String) : Option Template :=
  match text.toList with
  | '\x60' :: rest => readTemplate rest
  | _ => none

end ApiContract.Grammar
