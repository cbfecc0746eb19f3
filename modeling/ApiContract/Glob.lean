/-!
Patterns of names: a star for any run of characters, a question mark for any character, brackets for
one of a set, and two stars, as a whole path component, for any number of components.
-/

set_option autoImplicit false

namespace ApiContract.Glob

structure Range where
  first : Char
  last : Char
deriving DecidableEq

def Range.contains (r : Range) (c : Char) : Bool :=
  decide (r.first.toNat ≤ c.toNat) && decide (c.toNat ≤ r.last.toNat)

inductive Token where
  | char (c : Char)
  | anyChar
  | anyWithin (ranges : List Range)
  | anyExcept (ranges : List Range)
  | anySequence
  | anyComponents
deriving DecidableEq

inductive Fault where
  | wildcards
  | recursiveWildcards
  | range
deriving DecidableEq

structure PatternError where
  position : Nat
  fault : Fault
deriving DecidableEq

def Fault.message : Fault → String
  | .wildcards => "wildcards are either regular \x60*\x60 or recursive \x60**\x60"
  | .recursiveWildcards => "recursive wildcards must form a single path component"
  | .range => "invalid range pattern"

def PatternError.message (e : PatternError) : String :=
  "Pattern syntax error near position " ++ toString e.position ++ ": " ++ e.fault.message

def rangesOf : List Char → List Range
  | a :: '-' :: b :: rest => ⟨a, b⟩ :: rangesOf rest
  | c :: rest => ⟨c, c⟩ :: rangesOf rest
  | [] => []

-- The text before the first closing bracket, and what follows it. A bracket that comes first is
-- part of the text.
def bracketed? : List Char → Option (List Char × List Char)
  | [] => none
  | c :: rest =>
      match rest.dropWhile (· != ']') with
      | [] => none
      | _ :: after => some (c :: rest.takeWhile (· != ']'), after)

def tokensFrom : Nat → Nat → Option Char → List Char → Except PatternError (List Token)
  | 0, _, _, _ => .ok []
  | _ + 1, _, _, [] => .ok []
  | fuel + 1, position, before, c :: rest =>
      let more (token : Token) (read : Nat) (last : Char) (rest : List Char) :
          Except PatternError (List Token) :=
        (tokensFrom fuel (position + read) (some last) rest).map (token :: ·)
      if c = '?' then more .anyChar 1 c rest
      else if c = '*' then
        let stars := (c :: rest).takeWhile (· == '*')
        let after := (c :: rest).dropWhile (· == '*')
        if 2 < stars.length then .error ⟨position + 2, .wildcards⟩
        else if stars.length = 2 then
          if before = none ∨ before = some '/' then
            match after with
            | [] => .ok [.anyComponents]
            | d :: tail =>
                if d = '/' then more .anyComponents 3 d tail
                else .error ⟨position + 2, .recursiveWildcards⟩
          else .error ⟨position - 1, .recursiveWildcards⟩
        else more .anySequence 1 c rest
      else if c = '[' then
        match rest with
        | '!' :: set =>
            match bracketed? set with
            | some (inside, after) => more (.anyExcept (rangesOf inside)) (inside.length + 3) ']' after
            | none => .error ⟨position, .range⟩
        | set =>
            match bracketed? set with
            | some (inside, after) => more (.anyWithin (rangesOf inside)) (inside.length + 2) ']' after
            | none => .error ⟨position, .range⟩
      else more (.char c) 1 c rest

structure Pattern where
  tokens : List Token
deriving DecidableEq

def Pattern.parse (text : String) : Except PatternError Pattern :=
  (tokensFrom text.length 0 none text.toList).map Pattern.mk

def Token.accepts (token : Token) (c : Char) : Bool :=
  match token with
  | .char d => c == d
  | .anyChar => true
  | .anyWithin ranges => ranges.any fun r => r.contains c
  | .anyExcept ranges => !ranges.any fun r => r.contains c
  | .anySequence => false
  | .anyComponents => false

def tails : List Char → List (List Char)
  | [] => [[]]
  | c :: rest => (c :: rest) :: tails rest

def afterSlashes : List Char → List (List Char)
  | [] => []
  | c :: rest => if c = '/' then rest :: afterSlashes rest else afterSlashes rest

def matchTokens : List Token → List Char → Bool
  | [], cs => cs.isEmpty
  | .anySequence :: rest, cs => (tails cs).any fun tail => matchTokens rest tail
  | .anyComponents :: rest, cs =>
      matchTokens rest cs || (afterSlashes cs).any (fun tail => matchTokens rest tail) ||
        matchTokens rest []
  | _ :: _, [] => false
  | token :: rest, c :: cs => token.accepts c && matchTokens rest cs

def Pattern.matches (p : Pattern) (name : String) : Bool :=
  matchTokens p.tokens name.toList

end ApiContract.Glob
